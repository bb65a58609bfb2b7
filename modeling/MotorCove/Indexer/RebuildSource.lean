import MotorCove.Indexer.Batches
import MotorCove.Indexer.Replay

/-!
# The rebuild source is verified exactly

The verifier accepts a journal when its canonical blocks stand one at each
height up to the checkpoint, linked by their hashes, and the stored events of
each block are the ones whose envelopes were digested when it was committed.
Commits that continue one another keep it so, when they list each block and
each log once. A rejected source is left as it is.
-/

set_option autoImplicit false

namespace MotorCove.Indexer
open MotorCove.Text MotorCove.Fallible

section
variable {α : Type} {f : α → ℕ} {l : List α} {start n : ℕ}

theorem number_getElem (h : l.map f = List.range' start n) {i : ℕ} (hi : i < l.length) :
    f l[i] = start + i := by
  have hget : (l.map f)[i]? = (List.range' start n)[i]? := by rw [h]
  have hlen : l.length = n := by simpa using congrArg List.length h
  rw [List.getElem?_map, List.getElem?_eq_getElem hi, List.getElem?_range' (hlen ▸ hi)] at hget
  simpa using hget

theorem isChain_iff_numbers {R : α → α → Prop} (h : l.map f = List.range' start n) :
    l.IsChain R ↔ ∀ a ∈ l, ∀ b ∈ l, f b = f a + 1 → R a b := by
  rw [List.isChain_iff_getElem]
  constructor
  · intro hlinks a ha b hb hab
    obtain ⟨i, hi, rfl⟩ := List.getElem_of_mem ha
    obtain ⟨j, hj, rfl⟩ := List.getElem_of_mem hb
    rw [number_getElem h hi, number_getElem h hj] at hab
    obtain rfl : j = i + 1 := by omega
    exact hlinks i hj
  · intro hlinks i hi
    apply hlinks _ (List.getElem_mem _) _ (List.getElem_mem _)
    rw [number_getElem h hi, number_getElem h (by omega)]
    omega

/-- A list in order of its numbers that has each number once is numbered without a gap. -/
theorem map_eq_range' (hsorted : l.Pairwise fun a b => f a ≤ f b) (hnodup : l.Nodup)
    (hinj : ∀ a ∈ l, ∀ b ∈ l, f a = f b → a = b)
    (hmem : ∀ k, (∃ a ∈ l, f a = k) ↔ start ≤ k ∧ k < start + n) :
    l.map f = List.range' start n := by
  have hperm : (l.map f).Perm (List.range' start n) := by
    refine (List.perm_ext_iff_of_nodup (hnodup.map_on hinj) List.nodup_range').mpr fun k => ?_
    rw [List.mem_map, List.mem_range'_1]
    exact hmem k
  have hrange : (List.range' start n).Pairwise (· ≤ ·) :=
    (List.pairwise_lt_range' 1 (by decide)).imp Nat.le_of_lt
  exact hperm.eq_of_pairwise (fun a b _ _ => Nat.le_antisymm) (List.pairwise_map.mpr hsorted)
    hrange

end

section
variable (evidenceDigest : Evidence → String)

/-- The columns a commit writes when it digests these envelopes. -/
structure Digested (b : BlockRow) (envelopes : List Envelope) : Prop where
  count : b.observedLogCount = envelopes.length
  digest : b.observedLogDigest = evidenceDigest (.envelopes envelopes)

/-- A stored event can be read back, with the digests of its own content. -/
structure Authentic (r : EventRow) (ordered : OrderedEvent) : Prop where
  encoded : r.ordered? = some ordered
  rawEnvelopeDigest : r.rawEnvelopeDigest =
    MotorCove.Indexer.rawEnvelopeDigest evidenceDigest ordered.toEnvelope
  sourceRecordDigest : r.sourceRecordDigest =
    some (MotorCove.Indexer.sourceRecordDigest evidenceDigest ordered)
  decoderVersion : r.decoderVersion = MotorCove.Indexer.decoderVersion

/-- The stored events of a block are the ones that were digested, and each can be
read back. -/
structure Undamaged (db : Database) (b : BlockRow) : Prop where
  digested : ∃ envelopes, Digested evidenceDigest b envelopes
  events : ∀ envelopes, Digested evidenceDigest b envelopes →
    (blockEvents b.blockHash db).map (fun r => eventEnvelope r.toEnvelope) = envelopes
  authentic : ∀ r ∈ db.chainEvents.rows, r.blockHash = b.blockHash →
    ∃ ordered, Authentic evidenceDigest r ordered

/-- One canonical block at each height from the scan start to the checkpoint,
linked by their hashes, and the evidence of each is undamaged. -/
structure IntactJournal (db : Database) (number : ℕ) (hash : String) : Prop where
  start : db.scanStartBlock ≤ number
  heights : ∀ n, (∃ b ∈ db.indexedBlocks.rows, b.canonical = true ∧ b.blockNumber ≤ number ∧
    b.blockNumber = n) ↔ db.scanStartBlock ≤ n ∧ n ≤ number
  single : ∀ a ∈ db.indexedBlocks.rows, ∀ b ∈ db.indexedBlocks.rows, a.canonical = true →
    b.canonical = true → b.blockNumber ≤ number → a.blockNumber = b.blockNumber → a = b
  linked : ∀ a ∈ db.indexedBlocks.rows, ∀ b ∈ db.indexedBlocks.rows, a.canonical = true →
    b.canonical = true → b.blockNumber ≤ number → b.blockNumber = a.blockNumber + 1 →
    b.parentHash = a.blockHash
  checkpoint : ∀ b ∈ db.indexedBlocks.rows, b.canonical = true → b.blockNumber = number →
    b.blockHash = hash
  evidence : ∀ b ∈ db.indexedBlocks.rows, b.canonical = true → b.blockNumber ≤ number →
    Undamaged evidenceDigest db b

variable {evidenceDigest} {db : Database}

theorem blockEvents_mem {hash : String} {r : EventRow} :
    r ∈ blockEvents hash db ↔ r ∈ db.chainEvents.rows ∧ r.blockHash = hash := by
  rw [blockEvents, List.mem_insertionSort, List.mem_filter, decide_eq_true_eq]

theorem digested_blockRow (store : SqliteProjectionStore) (header : BlockHeader)
    (blockEvents : List OrderedEvent) :
    Digested evidenceDigest (blockRow evidenceDigest store header blockEvents)
      (blockEvents.map fun e => eventEnvelope e.toEnvelope) := by
  constructor
  · exact (List.length_map _).symm
  · show observedLogDigest evidenceDigest (blockEvents.map OrderedEvent.toEnvelope) = _
    rw [observedLogDigest, List.map_map]
    rfl

theorem intactRow_iff {r : EventRow} :
    intactRow evidenceDigest r = true ↔ ∃ ordered, Authentic evidenceDigest r ordered := by
  rw [intactRow]
  constructor
  · intro h
    split at h
    · cases h
    · rename_i ordered hordered
      obtain ⟨hdecoder, hraw, hsource⟩ := of_decide_eq_true h
      exact ⟨ordered, hordered, hraw, hsource, hdecoder⟩
  · rintro ⟨ordered, h⟩
    rw [h.encoded]
    exact decide_eq_true ⟨h.decoderVersion, h.rawEnvelopeDigest, h.sourceRecordDigest⟩

theorem undamaged_iff (hinjective : Function.Injective evidenceDigest) {b : BlockRow} :
    Undamaged evidenceDigest db b ↔
      Digested evidenceDigest b
        ((blockEvents b.blockHash db).map fun r => eventEnvelope r.toEnvelope) ∧
      ∀ r ∈ blockEvents b.blockHash db, intactRow evidenceDigest r = true := by
  constructor
  · intro h
    obtain ⟨envelopes, hdigested⟩ := h.digested
    constructor
    · rw [h.events envelopes hdigested]
      exact hdigested
    · intro r hr
      obtain ⟨hmem, hhash⟩ := blockEvents_mem.mp hr
      exact intactRow_iff.mpr (h.authentic r hmem hhash)
  · rintro ⟨hdigested, hintact⟩
    constructor
    · exact ⟨_, hdigested⟩
    · intro envelopes henvelopes
      have h := hinjective (hdigested.digest.symm.trans henvelopes.digest)
      exact Evidence.envelopes.inj h
    · intro r hr hhash
      exact intactRow_iff.mp (hintact r (blockEvents_mem.mpr ⟨hr, hhash⟩))

theorem verifyBlock_ok_iff (hinjective : Function.Injective evidenceDigest) {n : ℕ}
    {previous : Option BlockRow} {b : BlockRow} :
    verifyBlock evidenceDigest db n previous b = .ok () ↔
      b.blockNumber = n ∧ (∀ p ∈ previous, b.parentHash = p.blockHash) ∧
        Undamaged evidenceDigest db b := by
  rw [undamaged_iff hinjective]
  have hdigest : observedLogDigest evidenceDigest
      ((blockEvents b.blockHash db).map fun e => e.toEnvelope) = evidenceDigest (.envelopes
        ((blockEvents b.blockHash db).map fun r => eventEnvelope r.toEnvelope)) := by
    rw [observedLogDigest, List.map_map]
    rfl
  simp only [verifyBlock, failIf_bind_ok, failIf_ok, hdigest, not_or, not_not, Bool.not_eq_true,
    Option.any_eq_false, bne_eq_false_iff_eq, List.any_eq_false, Bool.not_eq_true',
    Bool.not_eq_false]
  constructor
  · rintro ⟨⟨hnumber, hparent⟩, _, hcount, hevidence, hintact⟩
    refine ⟨hnumber, hparent, ⟨?_, hevidence.symm⟩, hintact⟩
    rw [List.length_map, hcount]
  · rintro ⟨hnumber, hparent, ⟨hcount, hevidence⟩, hintact⟩
    refine ⟨⟨hnumber, hparent⟩, ?_, ?_, hevidence.symm, hintact⟩
    · -- an intact row is read back
      rintro ⟨r, hr, hnone⟩
      obtain ⟨ordered, hauthentic⟩ := intactRow_iff.mp (hintact r hr)
      rw [hauthentic.encoded] at hnone
      cases hnone
    · rw [hcount, List.length_map]

theorem verifyBlocks_ok_iff (hinjective : Function.Injective evidenceDigest) {n : ℕ}
    {previous : Option BlockRow} {blocks : List BlockRow} :
    verifyBlocks evidenceDigest db n previous blocks = .ok () ↔
      blocks.map BlockRow.blockNumber = List.range' n blocks.length ∧
      (∀ p ∈ previous, ∀ b ∈ blocks.head?, b.parentHash = p.blockHash) ∧
      blocks.IsChain (fun a b => b.parentHash = a.blockHash) ∧
      ∀ b ∈ blocks, Undamaged evidenceDigest db b := by
  induction blocks generalizing n previous with
  | nil => simp [verifyBlocks]
  | cons b rest ih =>
    have hstep : verifyBlocks evidenceDigest db n previous (b :: rest) = .ok () ↔
        verifyBlock evidenceDigest db n previous b = .ok () ∧
        verifyBlocks evidenceDigest db (n + 1) (some b) rest = .ok () := by
      rw [verifyBlocks, bind_ok]
      constructor
      · rintro ⟨_, h⟩
        exact h
      · intro h
        exact ⟨(), h⟩
    rw [hstep, verifyBlock_ok_iff hinjective, ih, List.map_cons, List.length_cons,
      List.range'_succ, List.cons.injEq, List.isChain_cons, List.forall_mem_cons]
    constructor
    · rintro ⟨⟨hnumber, hparent, hb⟩, hnumbers, hhead, hlinked, hrest⟩
      refine ⟨⟨hnumber, hnumbers⟩, fun p hp c hc => ?_, ⟨fun c hc => hhead b rfl c hc, hlinked⟩,
        hb, hrest⟩
      obtain rfl := Option.some.inj hc
      exact hparent p hp
    · rintro ⟨⟨hnumber, hnumbers⟩, hparent, ⟨hhead, hlinked⟩, hb, hrest⟩
      refine ⟨⟨hnumber, fun p hp => hparent p hp b rfl, hb⟩, hnumbers, fun p hp c hc => ?_,
        hlinked, hrest⟩
      obtain rfl := Option.some.inj hp
      exact hhead c hc

theorem canonicalBlocks_mem {number : ℕ} {b : BlockRow} : b ∈ canonicalBlocks number db ↔
    b ∈ db.indexedBlocks.rows ∧ b.canonical = true ∧ b.blockNumber ≤ number := by
  rw [canonicalBlocks, List.mem_insertionSort, List.mem_filter, Bool.and_eq_true,
    decide_eq_true_eq]

theorem canonicalBlocks_sorted (number : ℕ) : (canonicalBlocks number db).Pairwise
    fun a b => a.blockNumber ≤ b.blockNumber := by
  have : Std.Total fun a b : BlockRow => a.blockNumber ≤ b.blockNumber :=
    ⟨fun a b => Nat.le_total _ _⟩
  have : IsTrans BlockRow fun a b => a.blockNumber ≤ b.blockNumber :=
    ⟨fun a b c => Nat.le_trans⟩
  exact List.pairwise_insertionSort _ _

theorem canonicalBlocks_nodup (number : ℕ) : (canonicalBlocks number db).Nodup :=
  (List.perm_insertionSort _ _).nodup_iff.mpr (db.indexedBlocks.nodup_rows.filter _)

theorem verifyRebuildSource_ok_iff (hinjective : Function.Injective evidenceDigest) {number : ℕ}
    {hash : String} (hcheckpoint : db.checkpoint.lastScanned = some (number, hash)) :
    verifyRebuildSource evidenceDigest db = .ok () ↔
      db.scanStartBlock ≤ number ∧
      (canonicalBlocks number db).map BlockRow.blockNumber =
        List.range' db.scanStartBlock (number - db.scanStartBlock + 1) ∧
      (canonicalBlocks number db).IsChain (fun a b => b.parentHash = a.blockHash) ∧
      (canonicalBlocks number db).getLast?.map BlockRow.blockHash = some hash ∧
      ∀ b ∈ canonicalBlocks number db, Undamaged evidenceDigest db b := by
  simp only [verifyRebuildSource, hcheckpoint, failIf_bind_ok, verifyBlocks_ok_iff hinjective,
    not_or, not_not, Nat.not_lt]
  constructor
  · rintro ⟨⟨hstart, hlength, _, hlast⟩, hnumbers, _, hlinked, hevidence⟩
    exact ⟨hstart, hlength ▸ hnumbers, hlinked, hlast, hevidence⟩
  · rintro ⟨hstart, hnumbers, hlinked, hlast, hevidence⟩
    have hlength : (canonicalBlocks number db).length = number - db.scanStartBlock + 1 := by
      simpa using congrArg List.length hnumbers
    have hhead : (canonicalBlocks number db).head?.map BlockRow.blockNumber =
        some db.scanStartBlock := by
      rw [← List.head?_map, hnumbers, List.range'_succ, List.head?_cons]
    exact ⟨⟨hstart, hlength, hhead, hlast⟩, hlength.symm ▸ hnumbers, nofun, hlinked, hevidence⟩

/-- The verifier accepts exactly the intact journals. -/
theorem verifyRebuildSource_iff (hinjective : Function.Injective evidenceDigest) {number : ℕ}
    {hash : String} (hcheckpoint : db.checkpoint.lastScanned = some (number, hash)) :
    verifyRebuildSource evidenceDigest db = .ok () ↔
      IntactJournal evidenceDigest db number hash := by
  rw [verifyRebuildSource_ok_iff hinjective hcheckpoint]
  have hmem : ∀ b, b ∈ canonicalBlocks number db ↔
      b ∈ db.indexedBlocks.rows ∧ b.canonical = true ∧ b.blockNumber ≤ number :=
    fun b => canonicalBlocks_mem
  constructor
  · rintro ⟨hstart, hnumbers, hlinked, hlast, hevidence⟩
    have hnodup : ((canonicalBlocks number db).map BlockRow.blockNumber).Nodup := by
      rw [hnumbers]
      exact List.nodup_range'
    have hlinks := (isChain_iff_numbers hnumbers).mp hlinked
    constructor
    · exact hstart
    · intro n
      have hn : n ∈ (canonicalBlocks number db).map BlockRow.blockNumber ↔
          db.scanStartBlock ≤ n ∧ n ≤ number := by
        rw [hnumbers, List.mem_range'_1]
        omega
      rw [← hn, List.mem_map]
      constructor
      · rintro ⟨b, hb, hc, hle, rfl⟩
        exact ⟨b, (hmem b).mpr ⟨hb, hc, hle⟩, rfl⟩
      · rintro ⟨b, hb, rfl⟩
        obtain ⟨hb, hc, hle⟩ := (hmem b).mp hb
        exact ⟨b, hb, hc, hle, rfl⟩
    · intro a ha b hb hac hbc hle hab
      exact List.inj_on_of_nodup_map hnodup ((hmem a).mpr ⟨ha, hac, hab ▸ hle⟩)
        ((hmem b).mpr ⟨hb, hbc, hle⟩) hab
    · intro a ha b hb hac hbc hle hab
      exact hlinks a ((hmem a).mpr ⟨ha, hac, by omega⟩) b ((hmem b).mpr ⟨hb, hbc, hle⟩) hab
    · intro b hb hc hn
      -- the last block stands at the checkpoint's height
      obtain ⟨i, hi, rfl⟩ := List.getElem_of_mem ((hmem b).mpr ⟨hb, hc, hn.le⟩)
      rw [number_getElem hnumbers hi] at hn
      have hlen : (canonicalBlocks number db).length = number - db.scanStartBlock + 1 := by
        simpa using congrArg List.length hnumbers
      rw [List.getLast?_eq_getElem?, hlen, Nat.add_sub_cancel,
        show number - db.scanStartBlock = i by omega, List.getElem?_eq_getElem hi] at hlast
      exact Option.some.inj hlast
    · exact fun b hb hc hle => hevidence b ((hmem b).mpr ⟨hb, hc, hle⟩)
  · intro h
    have hinj : ∀ a ∈ canonicalBlocks number db, ∀ b ∈ canonicalBlocks number db,
        a.blockNumber = b.blockNumber → a = b := by
      intro a ha b hb hab
      obtain ⟨ha, hac, _⟩ := (hmem a).mp ha
      obtain ⟨hb, hbc, hle⟩ := (hmem b).mp hb
      exact h.single a ha b hb hac hbc hle hab
    have hnumbers : (canonicalBlocks number db).map BlockRow.blockNumber =
        List.range' db.scanStartBlock (number - db.scanStartBlock + 1) := by
      apply map_eq_range' (canonicalBlocks_sorted number) (canonicalBlocks_nodup number) hinj
      intro k
      have hstart := h.start
      have hk := h.heights k
      rw [show db.scanStartBlock ≤ k ∧ k < db.scanStartBlock + (number - db.scanStartBlock + 1) ↔
        db.scanStartBlock ≤ k ∧ k ≤ number by omega, ← hk]
      constructor
      · rintro ⟨b, hb, rfl⟩
        obtain ⟨hb, hc, hle⟩ := (hmem b).mp hb
        exact ⟨b, hb, hc, hle, rfl⟩
      · rintro ⟨b, hb, hc, hle, rfl⟩
        exact ⟨b, (hmem b).mpr ⟨hb, hc, hle⟩, rfl⟩
    refine ⟨h.start, hnumbers, ?_, ?_, ?_⟩
    · rw [isChain_iff_numbers hnumbers]
      intro a ha b hb hab
      obtain ⟨ha, hac, _⟩ := (hmem a).mp ha
      obtain ⟨hb, hbc, hle⟩ := (hmem b).mp hb
      exact h.linked a ha b hb hac hbc hle hab
    · have hlen : (canonicalBlocks number db).length = number - db.scanStartBlock + 1 := by
        simpa using congrArg List.length hnumbers
      have hlt : number - db.scanStartBlock < (canonicalBlocks number db).length := by omega
      rw [List.getLast?_eq_getElem?, hlen, Nat.add_sub_cancel, List.getElem?_eq_getElem hlt,
        Option.map_some, Option.some.injEq]
      obtain ⟨hb, hc, _⟩ := (hmem _).mp (List.getElem_mem hlt)
      apply h.checkpoint _ hb hc
      rw [number_getElem hnumbers hlt]
      have hstart := h.start
      omega
    · intro b hb
      obtain ⟨hb, hc, hle⟩ := (hmem b).mp hb
      exact h.evidence b hb hc hle

structure ListedOnce (db : Database) (headers : List BlockHeader) (events : List OrderedEvent) :
    Prop where
  blocks : (headers.map (lower ·.hash)).Nodup
  new : ∀ x ∈ headers, ∀ b ∈ db.indexedBlocks.rows, b.blockHash ≠ lower x.hash
  logs : (events.map fun e => (lower e.blockHash, e.logIndex)).Nodup

variable (evidenceDigest) in
/-- A deployment after successful contiguous commits of allowed batches. -/
inductive Committed (Allowed : Database → List BlockHeader → List OrderedEvent → Prop) :
    Database → Prop where
  | registered (scanStartBlock : ℕ) (projectionBuildId logScopeHash : String) :
      Committed Allowed (registered scanStartBlock projectionBuildId logScopeHash)
  | commit {db db' : Database} {store : SqliteProjectionStore} {headers : List BlockHeader}
      {events : List OrderedEvent} {last : BlockHeader} (h : Committed Allowed db)
      (hcontiguous : Contiguous db headers events last) (hallowed : Allowed db headers events)
      (hcommit : commit evidenceDigest store headers events last db = (.ok (), db')) :
      Committed Allowed db'

/-- After such commits: the blocks in the order of their rows, from the scan
start to the checkpoint, each with its evidence. -/
structure InStep (evidenceDigest : Evidence → String) (db : Database) : Prop extends
    Spine db.indexedBlocks.rows db where
  scanComplete : ∀ b ∈ db.indexedBlocks.rows, b.scanComplete = true
  lowerCase : ∀ b ∈ db.indexedBlocks.rows, lower b.blockHash = b.blockHash
  homes : ∀ r ∈ db.chainEvents.rows, ∃ b ∈ db.indexedBlocks.rows, b.blockHash = r.blockHash
  digested : ∀ b ∈ db.indexedBlocks.rows, Digested evidenceDigest b
    ((blockEvents b.blockHash db).map fun r => eventEnvelope r.toEnvelope)
  intact : ∀ r ∈ db.chainEvents.rows, intactRow evidenceDigest r = true

def headerRow (evidenceDigest : Evidence → String) (store : SqliteProjectionStore)
    (events : List OrderedEvent) (header : BlockHeader) : BlockRow :=
  blockRow evidenceDigest store header
    (sortEvents (events.filter fun e => e.blockNumber = header.number))

variable {store : SqliteProjectionStore} {headers : List BlockHeader}
  {events : List OrderedEvent}

theorem commitHeaders_new {rc : List String} {state : Database × List String}
    (hlower : ∀ b ∈ db.indexedBlocks.rows, lower b.blockHash = b.blockHash)
    (hnodup : (headers.map (lower ·.hash)).Nodup)
    (hnew : ∀ x ∈ headers, ∀ b ∈ db.indexedBlocks.rows, b.blockHash ≠ lower x.hash)
    (h : headers.foldlM (commitHeader evidenceDigest store events) (db, rc) = .ok state) :
    state.2 = rc ∧ ∃ t : Table BlockRow BlockRow.blockHash,
      state.1 = { db with indexedBlocks := t } ∧
      t.rows = db.indexedBlocks.rows ++ headers.map (headerRow evidenceDigest store events) := by
  induction headers generalizing db with
  | nil =>
    cases h
    exact ⟨rfl, db.indexedBlocks, rfl, (List.append_nil _).symm⟩
  | cons x rest ih =>
    rw [List.foldlM_cons] at h
    obtain ⟨⟨db₁, rc₁⟩, hx, hrest⟩ := bind_ok.mp h
    have hnone : ∀ b ∈ db.indexedBlocks.rows, b.blockHash ≠ x.hash := by
      intro b hb he
      apply hnew x List.mem_cons_self b hb
      rw [← he, hlower b hb]
    rcases commitHeader_ok hx with ⟨b, hb, he, _⟩ | ⟨b, hb, he, _⟩ | ⟨_, rfl, hi⟩
    · exact absurd he (hnone b hb)
    · exact absurd he (hnone b hb)
    · obtain ⟨_, t, rfl, hrows⟩ := insertBlock_ok hi
      rw [List.map_cons, List.nodup_cons] at hnodup
      have hmem : ∀ b ∈ t.rows, b ∈ db.indexedBlocks.rows ∨
          b = headerRow evidenceDigest store events x := by
        intro b hb
        rw [hrows, List.mem_append, List.mem_singleton] at hb
        exact hb
      have hlower₁ : ∀ b ∈ t.rows, lower b.blockHash = b.blockHash := by
        intro b hb
        rcases hmem b hb with hb | rfl
        · exact hlower b hb
        · exact lower_lower x.hash
      have hnew₁ : ∀ y ∈ rest, ∀ b ∈ t.rows, b.blockHash ≠ lower y.hash := by
        intro y hy b hb
        rcases hmem b hb with hb | rfl
        · exact hnew y (List.mem_cons_of_mem x hy) b hb
        · intro he
          exact hnodup.1 (List.mem_map.mpr ⟨y, hy, he.symm⟩)
      obtain ⟨hrc, t', ht', hrows'⟩ := ih hlower₁ hnodup.2 hnew₁ hrest
      refine ⟨hrc, t', ht', ?_⟩
      rw [hrows', List.map_cons, List.append_cons]
      exact congrArg (· ++ rest.map _) hrows

theorem recordEvents_new {db' : Database}
    (hlower : ∀ r ∈ db.chainEvents.rows, lower r.blockHash = r.blockHash)
    (hnodup : (events.map fun e => (lower e.blockHash, e.logIndex)).Nodup)
    (hnew : ∀ e ∈ events, ∀ r ∈ db.chainEvents.rows, r.key ≠ (lower e.blockHash, e.logIndex))
    (h : recordEvents evidenceDigest store [] events db = .ok db') :
    ∃ (t : Table EventRow EventRow.key) (p : Projections),
      db' = { db with chainEvents := t, projections := p } ∧
      t.rows = db.chainEvents.rows ++ events.map (eventRow evidenceDigest) := by
  induction events generalizing db with
  | nil =>
    cases h
    exact ⟨_, _, rfl, (List.append_nil _).symm⟩
  | cons e rest ih =>
    rw [recordEvents, List.foldlM_cons] at h
    obtain ⟨db₁, he, hrest⟩ := bind_ok.mp h
    have hnone : ∀ r ∈ db.chainEvents.rows, r.key ≠ (e.blockHash, e.logIndex) := by
      intro r hr hkey
      have hhash : r.blockHash = e.blockHash := congrArg Prod.fst hkey
      apply hnew e List.mem_cons_self r hr
      rw [hkey, ← hhash, hlower r hr]
    rcases recordEvent_ok he with ⟨r, hr, hkey, _⟩ | ⟨_, t, hrows, happly⟩
    · exact absurd hkey (hnone r hr)
    · obtain ⟨p, _, rfl⟩ := applyToTables_ok.mp happly
      rw [List.map_cons, List.nodup_cons] at hnodup
      have hmem : ∀ r ∈ t.rows, r ∈ db.chainEvents.rows ∨ r = eventRow evidenceDigest e := by
        intro r hr
        rw [hrows, List.mem_append, List.mem_singleton] at hr
        exact hr
      have hlower₁ : ∀ r ∈ t.rows, lower r.blockHash = r.blockHash := by
        intro r hr
        rcases hmem r hr with hr | rfl
        · exact hlower r hr
        · exact lower_lower e.blockHash
      have hnew₁ : ∀ f ∈ rest, ∀ r ∈ t.rows, r.key ≠ (lower f.blockHash, f.logIndex) := by
        intro f hf r hr
        rcases hmem r hr with hr | rfl
        · exact hnew f (List.mem_cons_of_mem e hf) r hr
        · intro hkey
          exact hnodup.1 (List.mem_map.mpr ⟨f, hf, hkey.symm⟩)
      obtain ⟨t', p', rfl, hrows'⟩ := ih hlower₁ hnodup.2 hnew₁ hrest
      refine ⟨t', p', rfl, ?_⟩
      rw [hrows', List.map_cons, List.append_cons]
      exact congrArg (· ++ rest.map _) hrows

theorem Contiguous.filter_eq {last x : BlockHeader} (h : Contiguous db headers events last)
    (honce : ListedOnce db headers events) (hx : x ∈ headers) :
    events.filter (fun e => lower e.blockHash = lower x.hash) =
      events.filter fun e => e.blockNumber = x.number := by
  apply List.filter_congr
  intro e he
  obtain ⟨y, hy, hnumber, hhash⟩ := h.located e he
  have hnodup : (headers.map BlockHeader.number).Nodup := by
    rw [h.numbers]
    exact List.nodup_range'
  rw [decide_eq_decide, hnumber, hhash]
  constructor
  · intro heq
    rw [List.inj_on_of_nodup_map honce.blocks hy hx heq]
  · intro heq
    rw [List.inj_on_of_nodup_map hnodup hy hx heq]

/-- The stored events of a new block are its events in the order they were digested. -/
theorem blockEvents_new {x : BlockHeader} {L : List OrderedEvent}
    (hL : ∀ e ∈ L, e.blockNumber = x.number ∧ lower e.blockHash = lower x.hash)
    (hlogs : (L.map fun e => (lower e.blockHash, e.logIndex)).Nodup)
    (hrows : db.chainEvents.rows.filter (fun r => r.blockHash = lower x.hash) =
      L.map (eventRow evidenceDigest)) :
    blockEvents (lower x.hash) db = (sortEvents L).map (eventRow evidenceDigest) := by
  have hmem : ∀ e, e ∈ sortEvents L ↔ e ∈ L := fun e => List.mem_insertionSort _
  have hkey : ∀ a ∈ L, ∀ b ∈ L, a.logIndex = b.logIndex → a = b := by
    intro a ha b hb hab
    apply List.inj_on_of_nodup_map hlogs ha hb
    rw [(hL a ha).2, (hL b hb).2, hab]
  rw [blockEvents, hrows]
  apply insertionSort_eq (fun a b => by omega) (fun a b c h₁ h₂ => by omega)
  · apply List.Nodup.of_map EventRow.key
    rw [List.map_map]
    exact hlogs
  · apply List.Nodup.of_map EventRow.key
    rw [List.map_map]
    exact ((List.perm_insertionSort _ L).map _).nodup_iff.mpr hlogs
  · intro r
    simp only [List.mem_map, hmem]
  · rw [List.pairwise_map]
    refine (sortEvents_sorted L).imp_of_mem fun {a b} ha hb hab => ?_
    have hn := (hL a ((hmem a).mp ha)).1.trans (hL b ((hmem b).mp hb)).1.symm
    rcases hab with hlt | ⟨_, hle⟩
    · omega
    · exact hle
  · intro r hr s hs h₁ h₂
    obtain ⟨a, ha, rfl⟩ := List.mem_map.mp hr
    obtain ⟨b, hb, rfl⟩ := List.mem_map.mp hs
    have hlog : a.logIndex = b.logIndex := by
      change a.transactionIndex < b.transactionIndex ∨ a.transactionIndex = b.transactionIndex ∧
        a.logIndex ≤ b.logIndex at h₁
      change b.transactionIndex < a.transactionIndex ∨ b.transactionIndex = a.transactionIndex ∧
        b.logIndex ≤ a.logIndex at h₂
      omega
    rw [hkey a ((hmem a).mp ha) b ((hmem b).mp hb) hlog]

theorem Contiguous.digested_new {last x : BlockHeader} {db' : Database}
    (h : Contiguous db headers events last) (honce : ListedOnce db headers events)
    (hx : x ∈ headers)
    (hrows : db'.chainEvents.rows = db.chainEvents.rows ++ events.map (eventRow evidenceDigest))
    (hold : db.chainEvents.rows.filter (fun r => r.blockHash = lower x.hash) = []) :
    Digested evidenceDigest (headerRow evidenceDigest store events x)
      ((blockEvents (lower x.hash) db').map fun r => eventEnvelope r.toEnvelope) := by
  have hfiltered : db'.chainEvents.rows.filter (fun r => r.blockHash = lower x.hash) =
      (events.filter fun e => e.blockNumber = x.number).map (eventRow evidenceDigest) := by
    rw [hrows, List.filter_append, hold, List.nil_append, List.filter_map,
      ← h.filter_eq honce hx]
    rfl
  have hL : ∀ e ∈ events.filter (fun e => e.blockNumber = x.number),
      e.blockNumber = x.number ∧ lower e.blockHash = lower x.hash := by
    intro e he
    have hhash := he
    rw [← h.filter_eq honce hx] at hhash
    exact ⟨of_decide_eq_true (List.mem_filter.mp he).2,
      of_decide_eq_true (List.mem_filter.mp hhash).2⟩
  have hlogs : ((events.filter fun e => e.blockNumber = x.number).map
      fun e => (lower e.blockHash, e.logIndex)).Nodup :=
    (List.filter_sublist.map _).nodup honce.logs
  have henv : (fun r : EventRow => eventEnvelope r.toEnvelope) ∘ eventRow evidenceDigest =
      fun e : OrderedEvent => eventEnvelope e.toEnvelope :=
    funext fun e => eventEnvelope_eventEnvelope e.toEnvelope
  rw [blockEvents_new hL hlogs hfiltered, List.map_map, henv]
  exact digested_blockRow store x _

theorem Contiguous.spine {last : BlockHeader} {db' : Database} {row : BlockHeader → BlockRow}
    (h : Contiguous db headers events last) (hspine : Spine db.indexedBlocks.rows db)
    (hrow : ∀ x, (row x).blockNumber = x.number ∧ (row x).blockHash = lower x.hash ∧
      (row x).parentHash = lower x.parentHash ∧ (row x).isCanonical = true)
    (hrows : db'.indexedBlocks.rows = db.indexedBlocks.rows ++ headers.map row)
    (hstart : db'.scanStartBlock = db.scanStartBlock)
    (hcheckpoint : db'.checkpoint.lastScanned = some (last.number, lower last.hash)) :
    Spine db'.indexedBlocks.rows db' := by
  constructor
  · intro b
    constructor
    · intro hb
      refine ⟨hb, ?_⟩
      rw [hrows, List.mem_append, List.mem_map] at hb
      rcases hb with hb | ⟨x, _, rfl⟩
      · exact ((hspine.canonical b).mp hb).2
      · exact (hrow x).2.2.2
    · exact fun hb => hb.1
  · have hnumbers : (headers.map row).map BlockRow.blockNumber =
        headers.map BlockHeader.number := by
      rw [List.map_map]
      exact List.map_congr_left fun x _ => (hrow x).1
    rw [hrows, List.map_append, hspine.numbers, hnumbers, h.numbers, hspine.nextBlock_eq, hstart,
      List.range'_append_1, List.length_append, List.length_map]
  · rw [hrows, List.isChain_append, List.isChain_map]
    refine ⟨hspine.linked, h.linked.imp fun a b hl => ?_, fun a ha b hb => ?_⟩
    · rw [(hrow b).2.2.1, (hrow a).2.1, hl]
    · -- the first new block names the block of the checkpoint
      have hc : db.checkpoint.lastScanned = some (a.blockNumber, a.blockHash) := by
        rw [hspine.checkpoint, Option.mem_def.mp ha]
        rfl
      rw [List.head?_map] at hb
      obtain ⟨x, hx, rfl⟩ := Option.map_eq_some_iff.mp hb
      rw [(hrow x).2.2.1]
      exact h.parent _ _ hc x hx
  · rw [hcheckpoint, hrows, List.getLast?_append, List.getLast?_map, h.last, Option.map_some,
      Option.some_or, Option.map_some, (hrow last).1, (hrow last).2.1]

theorem InStep.commit {last : BlockHeader} {db' : Database} (h : InStep evidenceDigest db)
    (hcontiguous : Contiguous db headers events last) (honce : ListedOnce db headers events)
    (hcommit : commitTransaction evidenceDigest store headers events last db = .ok db') :
    InStep evidenceDigest db' := by
  obtain ⟨db₁, rc, db₂, hheaders, hevents, hdb⟩ := commitTransaction_ok hcommit
  obtain ⟨rfl, t, hdb₁, ht⟩ := commitHeaders_new h.lowerCase honce.blocks honce.new hheaders
  change db₁ = _ at hdb₁
  have hhome : ∀ e ∈ events, ∀ b ∈ db.indexedBlocks.rows, lower e.blockHash ≠ b.blockHash := by
    intro e he b hb heq
    obtain ⟨x, hx, _, hhash⟩ := hcontiguous.located e he
    exact honce.new x hx b hb (heq.symm.trans hhash)
  have hforeign : ∀ e ∈ events, ∀ r ∈ db.chainEvents.rows, r.blockHash ≠ lower e.blockHash := by
    intro e he r hr heq
    obtain ⟨b, hb, hbr⟩ := h.homes r hr
    exact hhome e he b hb (hbr.trans heq).symm
  have hlowerRows : ∀ r ∈ db.chainEvents.rows, lower r.blockHash = r.blockHash := by
    intro r hr
    obtain ⟨b, hb, hbr⟩ := h.homes r hr
    rw [← hbr, h.lowerCase b hb]
  subst hdb₁
  obtain ⟨t', p, rfl, ht'⟩ := @recordEvents_new evidenceDigest { db with indexedBlocks := t }
    store events db₂ hlowerRows honce.logs
    (fun e he r hr hkey => hforeign e he r hr (congrArg Prod.fst hkey)) hevents
  subst hdb
  change t'.rows = db.chainEvents.rows ++ _ at ht'
  have hmem : ∀ b, b ∈ t.rows ↔ b ∈ db.indexedBlocks.rows ∨
      ∃ x ∈ headers, headerRow evidenceDigest store events x = b := by
    intro b
    rw [ht, List.mem_append, List.mem_map]
  have hmem' : ∀ r, r ∈ t'.rows ↔ r ∈ db.chainEvents.rows ∨
      ∃ e ∈ events, eventRow evidenceDigest e = r := by
    intro r
    rw [ht', List.mem_append, List.mem_map]
  constructor
  · exact hcontiguous.spine h.toSpine (fun x => ⟨rfl, rfl, rfl, rfl⟩) ht rfl rfl
  · intro b hb
    rcases (hmem b).mp hb with hb | ⟨x, _, rfl⟩
    · exact h.scanComplete b hb
    · rfl
  · intro b hb
    rcases (hmem b).mp hb with hb | ⟨x, _, rfl⟩
    · exact h.lowerCase b hb
    · exact lower_lower x.hash
  · intro r hr
    rcases (hmem' r).mp hr with hr | ⟨e, he, rfl⟩
    · obtain ⟨b, hb, hbr⟩ := h.homes r hr
      exact ⟨b, (hmem b).mpr (.inl hb), hbr⟩
    · obtain ⟨x, hx, _, hhash⟩ := hcontiguous.located e he
      exact ⟨_, (hmem _).mpr (.inr ⟨x, hx, rfl⟩), hhash.symm⟩
  · intro b hb
    rcases (hmem b).mp hb with hb | ⟨x, hx, rfl⟩
    · -- no event of the batch belongs to a block that was there
      have hnone : (events.map (eventRow evidenceDigest)).filter
          (fun r => r.blockHash = b.blockHash) = [] := by
        rw [List.filter_eq_nil_iff]
        intro r hr
        obtain ⟨e, he, rfl⟩ := List.mem_map.mp hr
        rw [decide_eq_true_eq]
        exact hhome e he b hb
      rw [blockEvents]
      simp only [ht', List.filter_append, hnone, List.append_nil]
      exact h.digested b hb
    · have hold : db.chainEvents.rows.filter (fun r => r.blockHash = lower x.hash) = [] := by
        rw [List.filter_eq_nil_iff]
        intro r hr
        rw [decide_eq_true_eq]
        intro heq
        obtain ⟨c, hc, hcr⟩ := h.homes r hr
        exact honce.new x hx c hc (hcr.trans heq)
      exact hcontiguous.digested_new honce hx ht' hold
  · intro r hr
    rcases (hmem' r).mp hr with hr | ⟨e, _, rfl⟩
    · exact h.intact r hr
    · exact intactRow_eventRow e

theorem inStep_committed (h : Committed evidenceDigest ListedOnce db) :
    InStep evidenceDigest db := by
  induction h with
  | registered scanStartBlock projectionBuildId logScopeHash =>
    have hnone : ∀ b, b ∉ (registered scanStartBlock projectionBuildId
        logScopeHash).indexedBlocks.rows := fun b => List.not_mem_nil
    constructor
    · constructor
      · exact fun b => ⟨fun hb => absurd hb (hnone b), fun hb => hb.1⟩
      · rfl
      · exact .nil
      · rfl
    · exact fun b hb => absurd hb (hnone b)
    · exact fun b hb => absurd hb (hnone b)
    · exact fun r hr => absurd hr List.not_mem_nil
    · exact fun b hb => absurd hb (hnone b)
    · exact fun r hr => absurd hr List.not_mem_nil
  | commit _ hcontiguous honce hcommit ih =>
    exact ih.commit hcontiguous honce (commit_ok_iff.mp hcommit).1

/-- The journal of such a deployment is intact, and so the verifier accepts it. -/
theorem InStep.verified (h : InStep evidenceDigest db)
    (hinjective : Function.Injective evidenceDigest) :
    verifyRebuildSource evidenceDigest db = .ok () := by
  cases hc : db.checkpoint.lastScanned with
  | none =>
    have hrows := h.checkpoint
    rw [hc, eq_comm, Option.map_eq_none_iff, List.getLast?_eq_none_iff] at hrows
    rw [verifyRebuildSource, hc]
    apply failIf_neg
    rintro ⟨b, hb, _⟩
    rw [hrows] at hb
    exact List.not_mem_nil hb
  | some c =>
    obtain ⟨number, hash⟩ := c
    rw [verifyRebuildSource_iff hinjective hc]
    obtain ⟨hne, hnumber⟩ := h.checkpoint_number hc
    have hpos := List.length_pos_iff.mpr hne
    have hcanonical : ∀ b ∈ db.indexedBlocks.rows, b.canonical = true := by
      intro b hb
      rw [BlockRow.canonical, ((h.canonical b).mp hb).2, h.scanComplete b hb]
      rfl
    have hlinks := (isChain_iff_numbers h.numbers).mp h.linked
    constructor
    · omega
    · intro n
      have hn : n ∈ db.indexedBlocks.rows.map BlockRow.blockNumber ↔
          db.scanStartBlock ≤ n ∧ n ≤ number := by
        rw [h.numbers, List.mem_range'_1]
        omega
      rw [← hn, List.mem_map]
      constructor
      · rintro ⟨b, hb, _, _, rfl⟩
        exact ⟨b, hb, rfl⟩
      · rintro ⟨b, hb, rfl⟩
        have hlt := h.number_lt hb
        exact ⟨b, hb, hcanonical b hb, by omega, rfl⟩
    · exact fun a ha b hb _ _ _ hab => h.eq_of_number ha hb hab
    · exact fun a ha b hb _ _ _ hab => hlinks a ha b hb hab
    · intro b hb _ hn
      obtain ⟨last, hlast, heq⟩ := Option.map_eq_some_iff.mp (h.checkpoint.symm.trans hc)
      obtain ⟨hlastNumber, rfl⟩ := Prod.mk.inj heq
      rw [h.eq_of_number hb (List.mem_of_getLast? hlast) (hn.trans hlastNumber.symm)]
    · intro b hb _ _
      rw [undamaged_iff hinjective]
      exact ⟨h.digested b hb, fun r hr => h.intact r (blockEvents_mem.mp hr).1⟩

theorem verifyRebuildSource_error {e : StoreError}
    (h : verifyRebuildSource evidenceDigest db = .error e) :
    ∃ detail, e = .rebuildSourceIncomplete detail := by
  have hblock : ∀ n previous b, verifyBlock evidenceDigest db n previous b = .error e →
      ∃ detail, e = .rebuildSourceIncomplete detail := by
    intro n previous b hb
    rw [verifyBlock] at hb
    rcases bind_error.mp hb with hb | ⟨_, _, hb⟩
    · exact ⟨_, (failIf_error.mp hb).2.symm⟩
    · rcases bind_error.mp hb with hb | ⟨_, _, hb⟩
      · exact ⟨_, (failIf_error.mp hb).2.symm⟩
      · exact ⟨_, (failIf_error.mp hb).2.symm⟩
  have hblocks : ∀ blocks n previous, verifyBlocks evidenceDigest db n previous blocks = .error e →
      ∃ detail, e = .rebuildSourceIncomplete detail := by
    intro blocks
    induction blocks with
    | nil =>
      intro n previous hb
      cases hb
    | cons b rest ih =>
      intro n previous hb
      rw [verifyBlocks] at hb
      rcases bind_error.mp hb with hb | ⟨_, _, hb⟩
      · exact hblock _ _ _ hb
      · exact ih _ _ hb
  unfold verifyRebuildSource at h
  split at h
  · exact ⟨_, (failIf_error.mp h).2.symm⟩
  · rcases bind_error.mp h with h | ⟨_, _, h⟩
    · exact ⟨_, (failIf_error.mp h).2.symm⟩
    · exact hblocks _ _ _ h

theorem rebuildFromJournal_rejected (store : SqliteProjectionStore) (projectionBuildId : String)
    (h : verifyRebuildSource evidenceDigest db ≠ .ok ()) :
    (rebuildFromJournal evidenceDigest store projectionBuildId db).2 =
      markRecoveryRequired "REBUILD_SOURCE_INCOMPLETE" db := by
  cases hv : verifyRebuildSource evidenceDigest db with
  | ok u => exact absurd hv h
  | error e =>
    obtain ⟨detail, rfl⟩ := verifyRebuildSource_error hv
    simp only [rebuildFromJournal, hv, error_bind]

/-- Contiguous commits that list each block and log once leave a source that is
accepted; a source is accepted when it is intact; a rejected one stays as it is. -/
theorem rebuild_source_verified (hinjective : Function.Injective evidenceDigest) :
    (∀ db, Committed evidenceDigest ListedOnce db →
      verifyRebuildSource evidenceDigest db = .ok ()) ∧
    (∀ db number hash, db.checkpoint.lastScanned = some (number, hash) →
      (verifyRebuildSource evidenceDigest db = .ok () ↔
        IntactJournal evidenceDigest db number hash)) ∧
    (∀ (store : SqliteProjectionStore) projectionBuildId db,
      verifyRebuildSource evidenceDigest db ≠ .ok () →
      (rebuildFromJournal evidenceDigest store projectionBuildId db).2 =
        markRecoveryRequired "REBUILD_SOURCE_INCOMPLETE" db) := by
  constructor
  · intro db h
    exact (inStep_committed h).verified hinjective
  · constructor
    · intro db number hash hcheckpoint
      exact verifyRebuildSource_iff hinjective hcheckpoint
    · intro store projectionBuildId db h
      exact rebuildFromJournal_rejected store projectionBuildId h

end

/-! The journal of a mint, with the event lost, and with the event listed twice. -/

def mintedJournal (events : List OrderedEvent) : Database :=
  (commit mintDigest plainStore [mintBlock] events mintBlock fresh).2

theorem contiguous_mint {events : List OrderedEvent} (h : ∀ e ∈ events, e = mint) :
    Contiguous fresh [mintBlock] events mintBlock where
  last := rfl
  numbers := rfl
  linked := .singleton _
  parent := nofun
  located := by
    intro e he
    rw [h e he]
    exact ⟨mintBlock, List.mem_singleton_self _, rfl, rfl⟩

theorem mintedJournal_run :
    (commit mintDigest plainStore [mintBlock] [mint] mintBlock fresh).1 = .ok () ∧
    (mintedJournal [mint]).checkpoint.lastScanned = some (5, hex 64 1) ∧
    verifyRebuildSource mintDigest { mintedJournal [mint] with chainEvents := .empty _ } ≠
      .ok () := by
  decide +kernel

theorem mintedJournal_twice :
    (commit mintDigest plainStore [mintBlock] [mint, mint] mintBlock fresh).1 = .ok () ∧
    verifyRebuildSource mintDigest (mintedJournal [mint, mint]) ≠ .ok () := by
  decide +kernel

theorem commit_mintedJournal {events : List OrderedEvent}
    (h : (commit mintDigest plainStore [mintBlock] events mintBlock fresh).1 = .ok ()) :
    commit mintDigest plainStore [mintBlock] events mintBlock fresh =
      (.ok (), mintedJournal events) := by
  rw [← h]
  rfl

theorem rebuild_source_verified_mint :
    verifyRebuildSource mintDigest (mintedJournal [mint]) = .ok () ∧
    IntactJournal mintDigest (mintedJournal [mint]) 5 (hex 64 1) ∧
    (rebuildFromJournal mintDigest plainStore "b"
        { mintedJournal [mint] with chainEvents := .empty _ }).2 =
      markRecoveryRequired "REBUILD_SOURCE_INCOMPLETE"
        { mintedJournal [mint] with chainEvents := .empty _ } := by
  obtain ⟨hok, hcheckpoint, hdamaged⟩ := mintedJournal_run
  have hcontiguous : Contiguous fresh [mintBlock] [mint] mintBlock :=
    contiguous_mint fun e he => List.mem_singleton.mp he
  have honce : ListedOnce fresh [mintBlock] [mint] :=
    ⟨List.nodup_singleton _, fun _ _ b hb => absurd hb List.not_mem_nil, List.nodup_singleton _⟩
  have haccepted := (rebuild_source_verified mintDigest_injective).1 (mintedJournal [mint])
    (.commit (.registered 5 "a" (hex 64 9)) hcontiguous honce (commit_mintedJournal hok))
  refine ⟨haccepted, ?_, ?_⟩
  · exact ((rebuild_source_verified mintDigest_injective).2.1 _ 5 (hex 64 1) hcheckpoint).mp
      haccepted
  · exact (rebuild_source_verified mintDigest_injective).2.2 plainStore "b" _ hdamaged

theorem mint_listed_twice_rejected : ¬∀ (evidenceDigest : Evidence → String),
    Function.Injective evidenceDigest →
      ∀ db, Committed evidenceDigest (fun _ _ _ => True) db →
        verifyRebuildSource evidenceDigest db = .ok () := by
  intro hall
  obtain ⟨hok, hrejected⟩ := mintedJournal_twice
  have hcontiguous : Contiguous fresh [mintBlock] [mint, mint] mintBlock :=
    contiguous_mint fun e he => by simpa using he
  exact hrejected (hall mintDigest mintDigest_injective _
    (.commit (.registered 5 "a" (hex 64 9)) hcontiguous trivial (commit_mintedJournal hok)))

end MotorCove.Indexer
