import MotorCove.Indexer.Batches

/-!
# The canonical coverage

Over any run of calls, rewinds, preparations and rebuilds, the canonical blocks
are one per height from the scan start to the checkpoint, linked by their
hashes, and their stored events are the ones their rows count and digest. The
reader may change its chain between any two reads; a block hash names one block.
-/

set_option autoImplicit false

namespace MotorCove.Indexer
open MotorCove.Text MotorCove.Fallible MotorCove.Effects MotorCove.Traces

/-- The blocks that are canonical and scanned, against the checkpoint and the
stored events. -/
structure CanonicalCoverage (evidenceDigest : Evidence → String) (db : Database) : Prop where
  unscanned : db.checkpoint.lastScanned = none →
    ∀ b ∈ db.indexedBlocks.rows, b.canonical = false
  within : ∀ number hash, db.checkpoint.lastScanned = some (number, hash) →
    ∀ b ∈ db.indexedBlocks.rows, b.canonical = true →
      db.scanStartBlock ≤ b.blockNumber ∧ b.blockNumber ≤ number
  each : ∀ number hash, db.checkpoint.lastScanned = some (number, hash) →
    ∀ n, db.scanStartBlock ≤ n → n ≤ number →
      ∃! b, b ∈ db.indexedBlocks.rows ∧ b.canonical = true ∧ b.blockNumber = n
  linked : ∀ a ∈ db.indexedBlocks.rows, ∀ b ∈ db.indexedBlocks.rows, a.canonical = true →
    b.canonical = true → b.blockNumber = a.blockNumber + 1 → b.parentHash = a.blockHash
  top : ∀ number hash, db.checkpoint.lastScanned = some (number, hash) →
    ∃ b ∈ db.indexedBlocks.rows, b.canonical = true ∧ b.blockNumber = number ∧ b.blockHash = hash
  evidence : ∀ b ∈ db.indexedBlocks.rows, b.canonical = true →
    (blockEvents b.blockHash db).length = b.observedLogCount ∧
      observedLogDigest evidenceDigest ((blockEvents b.blockHash db).map fun e => e.toEnvelope) =
        b.observedLogDigest

section
variable {evidenceDigest : Evidence → String} {B : Blocks} {chain : List BlockRow} {db : Database}

theorem Spine.exists_number (h : Spine chain db) {n : ℕ} (hlow : db.scanStartBlock ≤ n)
    (hhigh : n < db.scanStartBlock + chain.length) : ∃ b ∈ chain, b.blockNumber = n := by
  have hn : n ∈ chain.map BlockRow.blockNumber := by
    rw [h.numbers, List.mem_range'_1]
    exact ⟨hlow, hhigh⟩
  exact List.mem_map.mp hn

theorem Spine.number_getElem (h : Spine chain db) {i : ℕ} (hi : i < chain.length) :
    chain[i].blockNumber = db.scanStartBlock + i := by
  have hn : (chain.map BlockRow.blockNumber)[i]? =
      (List.range' db.scanStartBlock chain.length)[i]? := by rw [h.numbers]
  simpa [hi] using hn

theorem Spine.linked_of_number (h : Spine chain db) {a b : BlockRow} (ha : a ∈ chain)
    (hb : b ∈ chain) (hn : b.blockNumber = a.blockNumber + 1) : b.parentHash = a.blockHash := by
  obtain ⟨i, hi, rfl⟩ := List.mem_iff_getElem.mp ha
  obtain ⟨j, hj, rfl⟩ := List.mem_iff_getElem.mp hb
  rw [h.number_getElem hi, h.number_getElem hj] at hn
  obtain rfl : j = i + 1 := by omega
  exact List.isChain_iff_getElem.mp h.linked i hj

theorem Grounded.top (h : Grounded evidenceDigest B chain db) {number : ℕ} {hash : String}
    (hc : db.checkpoint.lastScanned = some (number, hash)) :
    ∃ b ∈ db.indexedBlocks.rows, b.canonical = true ∧ b.blockNumber = number ∧
      b.blockHash = hash := by
  rw [h.checkpoint] at hc
  obtain ⟨b, hlast, hpair⟩ := Option.map_eq_some_iff.mp hc
  obtain ⟨hbn, hbh⟩ := Prod.mk.inj hpair
  obtain ⟨hmem, hcan⟩ := h.canonical_iff.mpr (List.mem_of_getLast? hlast)
  exact ⟨b, hmem, hcan, hbn, hbh⟩

theorem covered_coverage (h : Covered evidenceDigest B chain db) :
    CanonicalCoverage evidenceDigest db := by
  have hcanonical : ∀ b ∈ db.indexedBlocks.rows, b.canonical = true → b ∈ chain :=
    fun b hb hcan => h.grounded.canonical_iff.mp ⟨hb, hcan⟩
  constructor
  · intro hnone b hb
    have hchain := h.checkpoint
    rw [hnone, eq_comm, Option.map_eq_none_iff, List.getLast?_eq_none_iff] at hchain
    subst hchain
    by_contra hcan
    exact List.not_mem_nil (hcanonical b hb (Bool.not_eq_false _ ▸ hcan))
  · intro number hash hc b hb hcan
    have hn := h.number_lt (hcanonical b hb hcan)
    have hnumber := (h.checkpoint_number hc).2
    omega
  · intro number hash hc n hlow hhigh
    have hnumber := (h.checkpoint_number hc).2
    obtain ⟨b, hb, hbn⟩ := h.exists_number hlow (by omega)
    obtain ⟨hmem, hcan⟩ := h.grounded.canonical_iff.mpr hb
    refine ⟨b, ⟨hmem, hcan, hbn⟩, ?_⟩
    rintro c ⟨hcmem, hccan, hcn⟩
    exact h.eq_of_number (hcanonical c hcmem hccan) hb (hcn.trans hbn.symm)
  · intro a ha b hb hacan hbcan hn
    exact h.linked_of_number (hcanonical a ha hacan) (hcanonical b hb hbcan) hn
  · exact fun number hash hc => h.grounded.top hc
  · intro b hb _
    rw [h.blockEvents_eq hb]
    constructor
    · rw [Blocks.rows, List.length_map]
      exact (h.named b hb).count.symm
    · rw [Blocks.digest_rows]
      exact (h.named b hb).digest.symm

/-- On whatever fork it is, the reader answers a number with a block of that
number, and headers with the logs of their blocks in any order. -/
structure Honest {σ : Type} (B : Blocks) (reader : ChainReader σ) : Prop where
  number : ∀ n header, Answers (reader.getBlock n) header → header.number = n
  names : ∀ n header, Answers (reader.getBlock n) header → B.Names header
  events : ∀ headers events, Answers (reader.getEvents headers) events →
    (events.map lowered).Perm (B.batchEvents headers)

section
variable {σ : Type} {reader : ChainReader σ} {headers : List BlockHeader}
  {events : List OrderedEvent}

theorem Honest.read_numbers (hhonest : Honest B reader) {first : ℕ}
    (hread : Read reader first headers) :
    headers.map BlockHeader.number = List.range' first headers.length := by
  unfold Read at hread
  generalize List.range' first headers.length = numbers at hread
  induction hread with
  | nil => rfl
  | cons hx _ ih => rw [List.map_cons, ih, hhonest.number _ _ hx]

theorem Honest.read_names (hhonest : Honest B reader) {first : ℕ}
    (hread : Read reader first headers) : ∀ x ∈ headers, B.Names x := by
  unfold Read at hread
  generalize List.range' first headers.length = numbers at hread
  induction hread with
  | nil => simp
  | cons hx _ ih => exact List.forall_mem_cons.mpr ⟨hhonest.names _ _ hx, ih⟩

theorem Honest.sorted_events (hhonest : Honest B reader) (hnames : ∀ x ∈ headers, B.Names x)
    (hsorted : headers.Pairwise fun a b => a.number < b.number)
    (hanswered : Answers (reader.getEvents headers) events) :
    (sortEvents events).map lowered = B.batchEvents headers := by
  have hperm : ((sortEvents events).map lowered).Perm (B.batchEvents headers) :=
    ((List.perm_insertionSort _ events).map lowered).trans (hhonest.events headers events hanswered)
  have hleft : ((sortEvents events).map lowered).Pairwise
      fun a b => Before a.toEnvelope b.toEnvelope :=
    List.pairwise_map.mpr (sortEvents_sorted events)
  refine hperm.eq_of_pairwise (fun a b ha hb hab hba => ?_) hleft
    (Blocks.sorted_batchEvents hnames hsorted)
  obtain ⟨x, hx, hax, han⟩ := Blocks.number_event hnames (hperm.mem_iff.mp ha)
  obtain ⟨y, hy, hby, hbn⟩ := Blocks.number_event hnames hb
  unfold Before at hab hba
  have hxy : x = y := List.inj_on_of_nodup_map
    (List.pairwise_map.mpr (hsorted.imp fun hlt => Nat.ne_of_lt hlt)) hx hy (by omega)
  subst hxy
  exact B.eq_of_logIndex hax hby (by omega)

theorem Honest.extends (hhonest : Honest B reader) (h : Grounded evidenceDigest B chain db)
    {previous : Option BlockHeader} {span last : ℕ} {header : BlockHeader}
    (hcheckpoint : checkpoint db = .ok previous)
    (hchecked : Checked reader previous (rangeStart db.scanStartBlock previous) span headers events
      last header) : Extends B db headers (sortEvents events) := by
  have hlast := checkpoint_ok hcheckpoint
  have hnames := hhonest.read_names hchecked.read
  have hnumbers := hhonest.read_numbers hchecked.read
  constructor
  · exact hnames
  · rw [hnumbers, nextBlock, hlast]
    cases previous with
    | none => rfl
    | some c => rfl
  · exact hchecked.linked.imp fun _ _ hl => congrArg lower hl
  · intro number hash hc x hx
    obtain ⟨c, hcsome, hpair⟩ := Option.map_eq_some_iff.mp (hlast.symm.trans hc)
    obtain ⟨b, hbrow, _, _, hbhash⟩ := h.top hc
    rw [hchecked.parent c hcsome x hx, (Prod.mk.inj hpair).2, ← hbhash]
    exact (h.named b hbrow).lower
  · exact hhonest.sorted_events hnames (pairwise_number hnumbers) hchecked.answered

end

theorem Covered.setStatus (h : Covered evidenceDigest B chain db) (status : RuntimeStatus) :
    Covered evidenceDigest B chain (db.setStatus status) := h.of_eq rfl rfl rfl rfl

theorem Covered.committed (h : Covered evidenceDigest B chain db) (store : SqliteProjectionStore)
    {headers : List BlockHeader} {events : List OrderedEvent} {last : BlockHeader}
    (hbatch : Extends B db headers events) (hlast : headers.getLast? = some last) :
    ∃ chain', Covered evidenceDigest B chain'
      (commit evidenceDigest store headers events last db).2 := by
  rcases commit_cases (Prod.mk.eta (p := commit evidenceDigest store headers events last db)).symm
    with hcommit | ⟨status, hstatus⟩
  · obtain ⟨added, _, hcovered, _⟩ := covered_commit h hbatch hlast hcommit
    exact ⟨_, hcovered⟩
  · rw [hstatus]
    exact ⟨chain, h.setStatus status⟩

theorem covered_ingestRange {σ : Type} {reader : ChainReader σ} (hhonest : Honest B reader)
    (h : Covered evidenceDigest B chain db) (store : SqliteProjectionStore)
    (batchSize indexingDepth : ℕ) (maximumTarget : Option ℕ) (finality : Finality) (s : σ) :
    ∃ chain', Covered evidenceDigest B chain' (finalState (ingestRange evidenceDigest store reader
      batchSize db.scanStartBlock indexingDepth maximumTarget finality) ⟨s, db, []⟩).db := by
  cases ingestRange_wrote evidenceDigest store reader batchSize db.scanStartBlock indexingDepth
    maximumTarget finality ⟨s, db, []⟩ with
  | nothing hdb =>
    rw [hdb]
    exact ⟨chain, h.setStatus _⟩
  | @batch _ _ _ _ _ _ status status' hcheckpoint _ hchecked hdb =>
    have hcovered := h.setStatus status
    have hextends := hhonest.extends hcovered.grounded hcheckpoint hchecked
    obtain ⟨chain', hchain'⟩ := hcovered.committed store hextends hchecked.final
    rw [hdb]
    exact ⟨chain', hchain'.setStatus status'⟩

end

/-- The states of a store from its registration on: calls of `ingestRange` with
any honest reader, rewinds, preparations, rebuilds and changes of the status,
each with a store configured in any way. -/
inductive Ran (evidenceDigest : Evidence → String) (B : Blocks) : Database → Prop where
  | registered (scanStartBlock : ℕ) (projectionBuildId logScopeHash : String) :
      Ran evidenceDigest B (registered scanStartBlock projectionBuildId logScopeHash)
  | ingestRange {db : Database} {σ : Type} {reader : ChainReader σ} (h : Ran evidenceDigest B db)
      (hhonest : Honest B reader) (store : SqliteProjectionStore) (batchSize indexingDepth : ℕ)
      (maximumTarget : Option ℕ) (finality : Finality) (s : σ) :
      Ran evidenceDigest B (finalState (ingestRange evidenceDigest store reader batchSize
        db.scanStartBlock indexingDepth maximumTarget finality) ⟨s, db, []⟩).db
  | rewindFrom {db : Database} (h : Ran evidenceDigest B db) (store : SqliteProjectionStore)
      (blockNumber : ℕ) : Ran evidenceDigest B (rewindFrom store blockNumber db)
  | prepareForReindex {db db' : Database} {store : SqliteProjectionStore} {blockNumber : ℕ}
      {verifiedBackupId : Option String} (h : Ran evidenceDigest B db)
      (hprepare : prepareForReindex evidenceDigest store blockNumber verifiedBackupId db = .ok db') :
      Ran evidenceDigest B db'
  | rebuildFromJournal {db : Database} (h : Ran evidenceDigest B db)
      (store : SqliteProjectionStore) (projectionBuildId : String) :
      Ran evidenceDigest B (rebuildFromJournal evidenceDigest store projectionBuildId db).2
  | status {db : Database} (h : Ran evidenceDigest B db) (status : RuntimeStatus) :
      Ran evidenceDigest B (db.setStatus status)

section
variable {evidenceDigest : Evidence → String} {B : Blocks} {db : Database}

theorem ran_covered (h : Ran evidenceDigest B db) : ∃ chain, Covered evidenceDigest B chain db := by
  induction h with
  | registered scanStartBlock projectionBuildId logScopeHash => exact ⟨[], covered_registered _ _ _⟩
  | ingestRange _ hhonest store batchSize indexingDepth maximumTarget finality s ih =>
    obtain ⟨chain, hchain⟩ := ih
    exact covered_ingestRange hhonest hchain store batchSize indexingDepth maximumTarget finality s
  | rewindFrom _ store blockNumber ih =>
    obtain ⟨chain, hchain⟩ := ih
    exact ⟨_, covered_rewindFrom hchain store blockNumber⟩
  | prepareForReindex _ hprepare ih =>
    obtain ⟨chain, hchain⟩ := ih
    obtain ⟨n, hn⟩ := covered_prepareForReindex hchain hprepare
    exact ⟨_, hn⟩
  | rebuildFromJournal _ store projectionBuildId ih =>
    obtain ⟨chain, hchain⟩ := ih
    obtain ⟨p, c, status, heq, hc⟩ := rebuildFromJournal_kept evidenceDigest store
      projectionBuildId _
    rw [heq]
    exact ⟨chain, hchain.of_eq rfl rfl rfl hc⟩
  | status _ status ih =>
    obtain ⟨chain, hchain⟩ := ih
    exact ⟨chain, hchain.setStatus status⟩

/-- In every state of every run the canonical blocks cover the heights from the
scan start to the checkpoint. -/
theorem canonical_coverage (h : Ran evidenceDigest B db) : CanonicalCoverage evidenceDigest db := by
  obtain ⟨chain, hchain⟩ := ran_covered h
  exact covered_coverage hchain

end

/-! A reader that answers with listed blocks; the chain of the mint, and the same
with an empty block above it. -/

def listedChain (B : Blocks) (headers : List BlockHeader) (head : BlockHeader) :
    ChainReader Unit where
  getHead := fun s => (.ok head, s)
  getFinalizedHead := none
  getBlock := fun number s => (match headers.find? fun x => x.number = number with
    | some header => .ok header
    | none => .error (.thrown ⟨some "BlockNotFoundError", none, none⟩), s)
  getEvents := fun headers s => (.ok (B.batchEvents headers), s)

section
variable {B : Blocks} {headers : List BlockHeader} {head : BlockHeader}

theorem listedChain_block {n : ℕ} {header : BlockHeader}
    (h : Answers ((listedChain B headers head).getBlock n) header) :
    header ∈ headers ∧ header.number = n := by
  obtain ⟨s, hs⟩ := h
  simp only [listedChain] at hs
  split at hs
  · rename_i x hfind
    obtain rfl := Except.ok.inj hs
    exact ⟨List.mem_of_find?_eq_some hfind, by simpa using List.find?_some hfind⟩
  · cases hs

theorem listedChain_honest (hnames : ∀ x ∈ headers, B.Names x) :
    Honest B (listedChain B headers head) := by
  constructor
  · exact fun n header hanswer => (listedChain_block hanswer).2
  · exact fun n header hanswer => hnames header (listedChain_block hanswer).1
  · rintro headers events ⟨s, hs⟩
    obtain rfl := Except.ok.inj hs
    have hlowered : ∀ e ∈ B.batchEvents headers, lowered e = id e := by
      intro e he
      obtain ⟨x, _, hex⟩ := List.mem_flatMap.mp he
      exact (B.located _ e hex).2.2
    rw [List.map_congr_left hlowered, List.map_id]

end

def mintChain : ChainReader Unit := listedChain mintBlocks [mintBlock] mintBlock

theorem mintChain_honest : Honest mintBlocks mintChain := by
  apply listedChain_honest
  intro x hx
  obtain rfl := List.mem_singleton.mp hx
  exact ⟨rfl, lower_hex 64 0⟩

def emptyBlock : BlockHeader := ⟨6, hex 64 6, hex 64 1, 1001⟩

def linkedBlocks : Blocks where
  number := fun h => if h = hex 64 6 then 6 else 5
  parentHash := fun h => if h = hex 64 6 then hex 64 1 else hex 64 0
  events := mintBlocks.events
  located := by
    intro h e he
    obtain ⟨hnumber, hhash, hlow⟩ := mintBlocks.located h e he
    refine ⟨?_, hhash, hlow⟩
    rw [if_neg, hnumber]
    · rfl
    · rintro rfl
      have hnone : mintBlocks.events (hex 64 6) = [] := by decide +kernel
      rw [hnone] at he
      cases he
  sorted := mintBlocks.sorted
  distinct := mintBlocks.distinct

def linkedChain : ChainReader Unit := listedChain linkedBlocks [mintBlock, emptyBlock] emptyBlock

theorem linkedChain_honest : Honest linkedBlocks linkedChain := by
  apply listedChain_honest
  intro x hx
  unfold Blocks.Names
  rcases List.mem_pair.mp hx with rfl | rfl
  · decide +kernel
  · decide +kernel

def linkedScan : Database :=
  (finalState (ingestRange mintDigest plainStore linkedChain 100 5 0 none .immediate)
    ⟨(), fresh, []⟩).db

theorem linkedScan_run : linkedScan.checkpoint.lastScanned = some (6, hex 64 6) ∧
    (rewindFrom plainStore 6 linkedScan).checkpoint.lastScanned = some (5, hex 64 1) := by
  decide +kernel

theorem canonical_coverage_mint :
    (linkedScan.checkpoint.lastScanned = some (6, hex 64 6) ∧
      CanonicalCoverage mintDigest linkedScan) ∧
    (rewindFrom plainStore 6 linkedScan).checkpoint.lastScanned = some (5, hex 64 1) ∧
      CanonicalCoverage mintDigest (rewindFrom plainStore 6 linkedScan) := by
  have hran : Ran mintDigest linkedBlocks linkedScan :=
    .ingestRange (.registered 5 "a" (hex 64 9)) linkedChain_honest plainStore 100 0 none
      .immediate ()
  exact ⟨⟨linkedScan_run.1, canonical_coverage hran⟩, linkedScan_run.2,
    canonical_coverage (.rewindFrom hran plainStore 6)⟩

end MotorCove.Indexer
