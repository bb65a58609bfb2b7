import MotorCove.Indexer.Digest
import MotorCove.Indexer.Rewinds

/-!
# A rebuild changes nothing

On a covered store the canonical events are the events of the chain's blocks,
the rebuild source verifies, and the rebuilt tables are the fold over those
events. Commits fold the same events one batch after the other, so in every
reachable state a rebuild gives back the tables that are there.
-/

set_option autoImplicit false

namespace MotorCove.Indexer
open MotorCove.Text MotorCove.Fallible

theorem applyOwnership_lowered (e : OrderedEvent) (tokenId : String) (p : Projections) :
    applyOwnership (lowered e) tokenId p = applyOwnership e tokenId p := by
  simp [applyOwnership, lowered, eventEnvelope]

theorem paymentRow_lowered (e : OrderedEvent) (current : Option PaymentRow)
    (next : PaymentProjection) : paymentRow (lowered e) current next = paymentRow e current next := by
  cases current with
  | none => simp [paymentRow, lowered, eventEnvelope]
  | some row => simp [paymentRow, lowered, eventEnvelope]

theorem saleRow_lowered (collectionAddress : String) (e : OrderedEvent) (current : Option SaleRow)
    (next : SaleProjection) :
    saleRow collectionAddress (lowered e) current next = saleRow collectionAddress e current next := by
  simp [saleRow, lowered, eventEnvelope]

theorem applyEvent_lowered {collectionAddress : String} {e : OrderedEvent} {p p' : Projections} :
    applyEvent collectionAddress (lowered e) p = .ok p' ↔
      applyEvent collectionAddress e p = .ok p' := by
  cases hs : e.event.saleId? with
  | none =>
    cases he : e.event with
    | transfer tokenId src dst =>
      have hl : (lowered e).event = .transfer tokenId src dst := he
      simp only [applyEvent, he, hl, applyOwnership_lowered]
    | _ =>
      rw [he] at hs
      cases hs
  | some saleId =>
    have hl : (lowered e).event.saleId? = some saleId := hs
    rw [applyEvent_sale hs, applyEvent_sale hl]
    simp only [applyPayment_ok, applySale_ok, paymentRow_lowered, saleRow_lowered]
    rfl

theorem applyEvents_lowered {collectionAddress : String} {events : List OrderedEvent}
    {p p' : Projections} :
    applyEvents collectionAddress (events.map lowered) p = .ok p' ↔
      applyEvents collectionAddress events p = .ok p' := by
  induction events generalizing p with
  | nil => rfl
  | cons e rest ih =>
    simp only [applyEvents, List.map_cons, List.foldlM_cons, bind_ok] at ih ⊢
    simp only [applyEvent_lowered, ih]

section
variable {evidenceDigest : Evidence → String} {B : Blocks} {chain : List BlockRow} {db : Database}

/-- The events of the chain's blocks, in the order of the chain. -/
def Blocks.chainEvents (B : Blocks) (chain : List BlockRow) : List OrderedEvent :=
  chain.flatMap fun b => B.events b.blockHash

theorem Blocks.sorted_rows (h : String) : (B.rows evidenceDigest h).Pairwise fun a b =>
    a.transactionIndex < b.transactionIndex ∨
      a.transactionIndex = b.transactionIndex ∧ a.logIndex ≤ b.logIndex := by
  rw [Blocks.rows, List.pairwise_map]
  refine (B.sorted h).imp_of_mem fun {a b} ha hb hab => ?_
  have hn := (B.located h a ha).1.trans (B.located h b hb).1.symm
  rcases hab with hlt | ⟨_, hle⟩
  · omega
  · exact hle

theorem Blocks.row_of_logIndex {h : String} {a b : EventRow} (ha : a ∈ B.rows evidenceDigest h)
    (hb : b ∈ B.rows evidenceDigest h) (hlog : a.logIndex = b.logIndex) : a = b := by
  obtain ⟨x, hx, rfl⟩ := Blocks.mem_rows.mp ha
  obtain ⟨y, hy, rfl⟩ := Blocks.mem_rows.mp hb
  rw [B.eq_of_logIndex hx hy hlog]

theorem blockEvents_eq {hash : String}
    (hevents : ∀ r ∈ db.chainEvents.rows,
      ∃ b ∈ db.indexedBlocks.rows, r ∈ B.rows evidenceDigest b.blockHash)
    (hcomplete : ∀ r ∈ B.rows evidenceDigest hash, r ∈ db.chainEvents.rows) :
    blockEvents hash db = B.rows evidenceDigest hash := by
  refine insertionSort_eq (fun a b => ?_) (fun a b c h₁ h₂ => ?_)
    (db.chainEvents.nodup_rows.filter _) (Blocks.nodup_rows _) (fun r => ?_)
    (Blocks.sorted_rows _) (fun r hr s hs h₁ h₂ => ?_)
  · omega
  · omega
  · rw [List.mem_filter, decide_eq_true_eq]
    constructor
    · rintro ⟨hr, hhash⟩
      obtain ⟨c, _, hrow⟩ := hevents r hr
      rw [Blocks.rows_hash hrow] at hhash
      exact hhash ▸ hrow
    · intro hr
      exact ⟨hcomplete r hr, Blocks.rows_hash hr⟩
  · exact Blocks.row_of_logIndex hr hs (by omega)

theorem Stored.blockEvents_eq (h : Stored evidenceDigest B db) {b : BlockRow}
    (hb : b ∈ db.indexedBlocks.rows) :
    blockEvents b.blockHash db = B.rows evidenceDigest b.blockHash :=
  MotorCove.Indexer.blockEvents_eq (fun r hr => (h.events r).mp hr)
    fun r hr => (h.events r).mpr ⟨b, hb, hr⟩

theorem intactRow_eventRow (e : OrderedEvent) :
    intactRow evidenceDigest (eventRow evidenceDigest e) = true := by
  have henv := eventEnvelope_eventEnvelope e.toEnvelope
  rw [intactRow, ordered?_eventRow]
  simp [eventRow, rawEnvelopeDigest, sourceRecordDigest, henv]

theorem Blocks.rows_intact {h : String} {r : EventRow} (hr : r ∈ B.rows evidenceDigest h) :
    intactRow evidenceDigest r = true := by
  obtain ⟨e, _, rfl⟩ := Blocks.mem_rows.mp hr
  exact intactRow_eventRow e

theorem Blocks.digest_rows (h : String) :
    observedLogDigest evidenceDigest ((B.rows evidenceDigest h).map fun r => r.toEnvelope) =
      observedLogDigest evidenceDigest ((B.events h).map OrderedEvent.toEnvelope) := by
  have henv : (eventEnvelope ∘ fun r : EventRow => r.toEnvelope) ∘ eventRow evidenceDigest =
      eventEnvelope ∘ OrderedEvent.toEnvelope :=
    funext fun e => eventEnvelope_eventEnvelope e.toEnvelope
  rw [observedLogDigest, observedLogDigest, Blocks.rows, List.map_map, List.map_map, henv,
    List.map_map]

theorem Stored.source_matches (h : Stored evidenceDigest B db) :
    hasSourceContentMismatch evidenceDigest db = false := by
  rw [hasSourceContentMismatch, Bool.or_eq_false_iff, List.any_eq_false, List.any_eq_false]
  constructor
  · intro r hr
    obtain ⟨b, _, hrow⟩ := (h.events r).mp hr
    rw [Blocks.rows_intact hrow]
    decide
  · intro b hb
    have hrow := (List.mem_filter.mp hb).1
    have hnamed := h.named b hrow
    have hlength : (B.rows evidenceDigest b.blockHash).length = b.observedLogCount := by
      rw [Blocks.rows, List.length_map, hnamed.count]
    simp only [h.blockEvents_eq hrow, hlength, lt_irrefl, Blocks.digest_rows, hnamed.digest,
      decide_false, Bool.false_or, bne_self_eq_false, Bool.and_false, Bool.false_eq_true,
      not_false_eq_true]

theorem Blocks.ordered_rows (h : String) :
    (B.rows evidenceDigest h).map EventRow.ordered? = (B.events h).map some := by
  rw [Blocks.rows, List.map_map]
  exact List.map_congr_left fun e he => congrArg some (B.located h e he).2.2

theorem replay_rows {rows : List EventRow} {events : List OrderedEvent}
    (h : rows.map EventRow.ordered? = events.map some) (collectionAddress : String)
    (p : Projections) :
    rows.foldlM (applyRow collectionAddress) p = applyEvents collectionAddress events p := by
  induction rows generalizing events p with
  | nil =>
    cases events with
    | nil => rfl
    | cons e rest => cases h
  | cons r rows ih =>
    cases events with
    | nil => cases h
    | cons e rest =>
      obtain ⟨hr, hrest⟩ := List.cons.inj h
      rw [List.foldlM_cons, applyEvents, List.foldlM_cons, applyRow, hr]
      exact bind_congr_ok fun p' _ => ih hrest p'

theorem Grounded.canonicalRows_eq (h : Grounded evidenceDigest B chain db) :
    canonicalRows db = chain.flatMap fun b => B.rows evidenceDigest b.blockHash := by
  have hrow : ∀ b ∈ chain, ∀ r ∈ B.rows evidenceDigest b.blockHash,
      r.blockNumber = b.blockNumber := by
    intro b hb r hr
    obtain ⟨e, he, rfl⟩ := Blocks.mem_rows.mp hr
    exact (B.located _ e he).1.trans (h.named b ((h.canonical b).mp hb).1).number.symm
  refine insertionSort_eq (r := fun a b : EventRow => Before a.toEnvelope b.toEnvelope)
    (fun a b => before_total _ _) (fun a b c => before_trans)
    (db.chainEvents.nodup_rows.filter _) ?_ (fun r => ?_) ?_ (fun r hr s hs h₁ h₂ => ?_)
  · refine List.nodup_flatMap.mpr ⟨fun b _ => Blocks.nodup_rows _, ?_⟩
    refine h.sorted.imp_of_mem fun {a b} ha hb hlt r hra hrb => ?_
    have := (hrow a ha r hra).symm.trans (hrow b hb r hrb)
    omega
  · simp only [List.mem_filter, List.any_eq_true, decide_eq_true_eq, List.mem_flatMap]
    constructor
    · rintro ⟨hr, c, hc, hhash, hcan⟩
      obtain ⟨b, _, hrow⟩ := h.events r hr
      rw [Blocks.rows_hash hrow] at hhash
      exact ⟨c, h.canonical_iff.mp ⟨hc, hcan⟩, hhash ▸ hrow⟩
    · rintro ⟨b, hb, hr⟩
      obtain ⟨hrow, hcan⟩ := h.canonical_iff.mpr hb
      exact ⟨h.complete b hb r hr, b, hrow, (Blocks.rows_hash hr).symm, hcan⟩
  · refine List.pairwise_flatMap.mpr ⟨fun b hb => ?_, ?_⟩
    · rw [Blocks.rows, List.pairwise_map]
      exact B.sorted _
    · refine h.sorted.imp_of_mem fun {a b} ha hb hlt r hra s hsb => before_rows.mpr (.inl ?_)
      rw [hrow a ha r hra, hrow b hb s hsb]
      exact hlt
  · obtain ⟨a, ha, hra⟩ := List.mem_flatMap.mp hr
    obtain ⟨b, hb, hsb⟩ := List.mem_flatMap.mp hs
    rw [before_rows] at h₁ h₂
    have hab : a = b := h.eq_of_number ha hb (by
      rw [← hrow a ha r hra, ← hrow b hb s hsb]
      omega)
    subst hab
    exact Blocks.row_of_logIndex hra hsb (by omega)

theorem Grounded.canonicalRows_ordered (h : Grounded evidenceDigest B chain db) :
    (canonicalRows db).map EventRow.ordered? = (B.chainEvents chain).map some := by
  rw [h.canonicalRows_eq, Blocks.chainEvents, List.map_flatMap, List.map_flatMap]
  simp only [Blocks.ordered_rows]

theorem Grounded.canonicalEvents_eq (h : Grounded evidenceDigest B chain db) :
    canonicalEvents db = B.chainEvents chain := by
  have hordered := congrArg (List.filterMap id) h.canonicalRows_ordered
  rw [List.filterMap_map, List.filterMap_map] at hordered
  exact hordered.trans List.filterMap_some

theorem verifyBlocks_ok {blocks : List BlockRow} {expectedNumber : ℕ}
    {previous : Option BlockRow} (hnamed : ∀ b ∈ blocks, RowNamed evidenceDigest B b)
    (hevents : ∀ b ∈ blocks,
      blockEvents b.blockHash db = B.rows evidenceDigest b.blockHash)
    (hnumbers : blocks.map BlockRow.blockNumber = List.range' expectedNumber blocks.length)
    (hlinked : blocks.IsChain fun a b => b.parentHash = a.blockHash)
    (hprevious : ∀ p ∈ previous, ∀ b ∈ blocks.head?, b.parentHash = p.blockHash) :
    verifyBlocks evidenceDigest db expectedNumber previous blocks = .ok () := by
  induction blocks generalizing expectedNumber previous with
  | nil => rfl
  | cons b rest ih =>
    have hb := hnamed b List.mem_cons_self
    rw [List.map_cons, List.length_cons, List.range'_succ, List.cons.injEq] at hnumbers
    obtain ⟨hnumber, hnumbers⟩ := hnumbers
    obtain ⟨hhead, hlinked⟩ := List.isChain_cons.mp hlinked
    have hrest : verifyBlocks evidenceDigest db (expectedNumber + 1) (some b) rest = .ok () := by
      refine ih (fun c hc => hnamed c (List.mem_cons_of_mem _ hc))
        (fun c hc => hevents c (List.mem_cons_of_mem _ hc)) hnumbers hlinked ?_
      intro p hp c hc
      obtain rfl := Option.some.inj hp
      exact hhead c hc
    have hcontinuity : ¬(b.blockNumber ≠ expectedNumber ∨
        (previous.any fun p => b.parentHash != p.blockHash) = true) := by
      rintro (hn | hp)
      · exact hn hnumber
      · obtain ⟨p, hsome, hne⟩ := (Option.any_eq_true _ _).mp hp
        exact bne_iff_ne.mp hne (hprevious p hsome b rfl)
    have hencoding : ¬∃ r ∈ B.rows evidenceDigest b.blockHash, r.ordered? = none := by
      rintro ⟨r, hr, hnone⟩
      obtain ⟨e, _, rfl⟩ := Blocks.mem_rows.mp hr
      cases hnone
    have hevidence : ¬((B.rows evidenceDigest b.blockHash).length ≠ b.observedLogCount
        ∨ observedLogDigest evidenceDigest ((B.rows evidenceDigest b.blockHash).map
            fun e => e.toEnvelope) ≠ b.observedLogDigest
        ∨ ((B.rows evidenceDigest b.blockHash).any fun r => !intactRow evidenceDigest r) = true) := by
      rintro (hcount | hdigest | hintact)
      · rw [Blocks.rows, List.length_map] at hcount
        exact hcount hb.count.symm
      · rw [Blocks.digest_rows] at hdigest
        exact hdigest hb.digest.symm
      · obtain ⟨r, hr, hbad⟩ := List.any_eq_true.mp hintact
        rw [Blocks.rows_intact hr] at hbad
        cases hbad
    simp only [verifyBlocks, verifyBlock, hevents b List.mem_cons_self, failIf_neg _ hcontinuity,
      failIf_neg _ hencoding, failIf_neg _ hevidence, ok_bind, hrest]

theorem Grounded.canonicalBlocks_eq (h : Grounded evidenceDigest B chain db) {last : ℕ}
    (hlast : ∀ b ∈ chain, b.blockNumber ≤ last) : canonicalBlocks last db = chain := by
  refine insertionSort_eq (r := fun a b : BlockRow => a.blockNumber ≤ b.blockNumber)
    (fun a b => Nat.le_total _ _) (fun a b c => Nat.le_trans)
    (db.indexedBlocks.nodup_rows.filter _) h.nodup (fun b => ?_)
    (h.sorted.imp fun hlt => Nat.le_of_lt hlt) (fun a ha b hb h₁ h₂ => ?_)
  · simp only [List.mem_filter, Bool.and_eq_true, decide_eq_true_eq]
    constructor
    · rintro ⟨hb, hcan, _⟩
      exact h.canonical_iff.mp ⟨hb, hcan⟩
    · intro hb
      obtain ⟨hmem, hcan⟩ := h.canonical_iff.mpr hb
      exact ⟨hmem, hcan, hlast b hb⟩
  · exact h.eq_of_number ha hb (Nat.le_antisymm h₁ h₂)

theorem verifyRebuildSource_ok (h : Grounded evidenceDigest B chain db) :
    verifyRebuildSource evidenceDigest db = .ok () := by
  unfold verifyRebuildSource
  cases hc : db.checkpoint.lastScanned with
  | none =>
    have hchain := h.checkpoint
    rw [hc, eq_comm, Option.map_eq_none_iff, List.getLast?_eq_none_iff] at hchain
    subst hchain
    refine failIf_neg _ ?_
    rintro ⟨b, hb, hcan⟩
    exact List.not_mem_nil ((h.canonical b).mpr ⟨hb, hcan⟩)
  | some c =>
    obtain ⟨number, hash⟩ := c
    obtain ⟨hne, hnumber⟩ := h.checkpoint_number hc
    have hblocks : canonicalBlocks number db = chain := by
      refine h.canonicalBlocks_eq fun b hb => ?_
      have := h.number_lt hb
      omega
    have hpos := List.length_pos_iff.mpr hne
    have hhead : chain.head?.map BlockRow.blockNumber = some db.scanStartBlock := by
      rw [← List.head?_map, h.numbers, List.head?_range', if_neg (by omega)]
    have hlast : chain.getLast?.map BlockRow.blockHash = some hash := by
      have hl := congrArg (Option.map Prod.snd) (h.checkpoint.symm.trans hc)
      rw [Option.map_map] at hl
      exact hl
    have hcoverage : ¬(number < db.scanStartBlock ∨ chain.length ≠ number - db.scanStartBlock + 1
        ∨ chain.head?.map BlockRow.blockNumber ≠ some db.scanStartBlock
        ∨ chain.getLast?.map BlockRow.blockHash ≠ some hash) := by
      rintro (hlt | hlen | hfirst | htop)
      · omega
      · omega
      · exact hfirst hhead
      · exact htop hlast
    simp only [hblocks, failIf_neg _ hcoverage, ok_bind]
    refine verifyBlocks_ok (fun b hb => h.named b ((h.canonical b).mp hb).1)
      (fun b hb => blockEvents_eq h.events (h.complete b hb)) h.numbers h.linked ?_
    intro p hp
    cases hp

theorem rebuildFromJournal_ok (h : Covered evidenceDigest B chain db)
    (store : SqliteProjectionStore) (projectionBuildId : String) {p : Projections}
    (hp : applyEvents store.collectionAddress (B.chainEvents chain) noProjections = .ok p) :
    ∃ db', rebuildFromJournal evidenceDigest store projectionBuildId db =
        (.ok (B.chainEvents chain).length, db') ∧
      Covered evidenceDigest B chain db' ∧ db'.projections = p := by
  have hlength : (canonicalRows db).length = (B.chainEvents chain).length := by
    simpa using congrArg List.length h.grounded.canonicalRows_ordered
  simp only [rebuildFromJournal, verifyRebuildSource_ok h.grounded, ok_bind, rebuildTransaction,
    replay_rows h.grounded.canonicalRows_ordered, hp, hlength]
  refine ⟨_, rfl, h.of_eq ?_ ?_ ?_ ?_, ?_⟩ <;> split <;> rfl

theorem Blocks.chainEvents_append (chain added : List BlockRow) :
    B.chainEvents (chain ++ added) = B.chainEvents chain ++ B.chainEvents added :=
  List.flatMap_append

structure Projected (evidenceDigest : Evidence → String) (B : Blocks) (collectionAddress : String)
    (chain : List BlockRow) (db : Database) : Prop where
  covered : Covered evidenceDigest B chain db
  projections : applyEvents collectionAddress (B.chainEvents chain) noProjections =
    .ok db.projections

structure Folded (evidenceDigest : Evidence → String) (B : Blocks) (collectionAddress : String)
    (chain : List BlockRow) (db : Database) : Prop where
  grounded : Grounded evidenceDigest B chain db
  projections : applyEvents collectionAddress (B.chainEvents chain) noProjections =
    .ok db.projections

theorem Projected.folded {collectionAddress : String}
    (h : Projected evidenceDigest B collectionAddress chain db) :
    Folded evidenceDigest B collectionAddress chain db := ⟨h.covered.grounded, h.projections⟩

theorem Folded.setStatus {collectionAddress : String}
    (h : Folded evidenceDigest B collectionAddress chain db) (status : RuntimeStatus) :
    Folded evidenceDigest B collectionAddress chain (db.setStatus status) :=
  ⟨h.grounded.setStatus status, h.projections⟩

theorem Projected.setStatus {collectionAddress : String}
    (h : Projected evidenceDigest B collectionAddress chain db) (status : RuntimeStatus) :
    Projected evidenceDigest B collectionAddress chain (db.setStatus status) :=
  ⟨h.covered.of_eq rfl rfl rfl rfl, h.projections⟩

theorem projected_commit {collectionAddress : String} {store : SqliteProjectionStore}
    {headers : List BlockHeader} {events : List OrderedEvent} {last : BlockHeader}
    (h : Projected evidenceDigest B collectionAddress chain db)
    (hstore : store.collectionAddress = collectionAddress) (hbatch : Extends B db headers events)
    (hlast : headers.getLast? = some last) : ∃ added : List BlockRow,
      (∀ b ∈ added, ∃ x ∈ headers, b.blockHash = lower x.hash) ∧
      Projected evidenceDigest B collectionAddress (chain ++ added)
        (commit evidenceDigest store headers events last db).2 := by
  rcases commit_cases (Prod.mk.eta (p := commit evidenceDigest store headers events last db)).symm
    with hcommit | ⟨status, hstatus⟩
  · obtain ⟨added, hadded, hcovered, happlied⟩ := covered_commit h.covered hbatch hlast hcommit
    have hnamed : ∀ b ∈ added, ∃ x ∈ headers, b.blockHash = lower x.hash := by
      intro b hb
      have hmem : b.blockHash ∈ headers.map (lower ·.hash) := hadded ▸ List.mem_map_of_mem hb
      obtain ⟨x, hx, hhash⟩ := List.mem_map.mp hmem
      exact ⟨x, hx, hhash.symm⟩
    refine ⟨added, hnamed, hcovered, ?_⟩
    have hevents : B.chainEvents added = B.batchEvents headers := by
      calc B.chainEvents added = (added.map BlockRow.blockHash).flatMap B.events := by
            rw [List.flatMap_map]
            rfl
        _ = B.batchEvents headers := by
            rw [hadded, List.flatMap_map]
            rfl
    rw [Blocks.chainEvents_append, hevents, ← hbatch.events]
    refine (foldlM_append_ok _ _ _ _ _).mpr ⟨db.projections, h.projections, ?_⟩
    rw [hstore] at happlied
    exact applyEvents_lowered.mpr happlied
  · rw [hstatus]
    exact ⟨[], nofun, (List.append_nil chain).symm ▸ h.setStatus status⟩

theorem projected_rebuild {collectionAddress : String} {store : SqliteProjectionStore}
    {db' : Database} {n : ℕ} (h : Projected evidenceDigest B collectionAddress chain db)
    (hstore : store.collectionAddress = collectionAddress)
    (hcovered : Covered evidenceDigest B (chain.take n) db') (projectionBuildId : String) :
    Projected evidenceDigest B collectionAddress (chain.take n)
      (rebuildFromJournal evidenceDigest store projectionBuildId db').2 := by
  have hall := h.projections
  rw [← List.take_append_drop n chain, Blocks.chainEvents_append] at hall
  obtain ⟨p, hp, _⟩ := (foldlM_append_ok _ _ _ _ _).mp hall
  subst hstore
  obtain ⟨db₁, heq, hdb₁, hproj⟩ := rebuildFromJournal_ok hcovered store projectionBuildId hp
  rw [heq]
  exact ⟨hdb₁, hproj ▸ hp⟩

end

/-- The states of one deployment's store: commits of batches that extend the
checkpoint, whatever comes of them, and rewinds and preparations, each followed
by a rebuild. -/
inductive Reachable (evidenceDigest : Evidence → String) (B : Blocks) (collectionAddress : String) :
    Database → Prop where
  | registered (scanStartBlock : ℕ) (projectionBuildId logScopeHash : String) :
      Reachable evidenceDigest B collectionAddress
        (registered scanStartBlock projectionBuildId logScopeHash)
  | commit {db : Database} {store : SqliteProjectionStore} {headers : List BlockHeader}
      {events : List OrderedEvent} {last : BlockHeader}
      (h : Reachable evidenceDigest B collectionAddress db)
      (hstore : store.collectionAddress = collectionAddress)
      (hbatch : Extends B db headers events) (hlast : headers.getLast? = some last) :
      Reachable evidenceDigest B collectionAddress
        (commit evidenceDigest store headers events last db).2
  | rewind {db : Database} {store : SqliteProjectionStore}
      (h : Reachable evidenceDigest B collectionAddress db)
      (hstore : store.collectionAddress = collectionAddress)
      (blockNumber : ℕ) (projectionBuildId : String) :
      Reachable evidenceDigest B collectionAddress
        (rebuildFromJournal evidenceDigest store projectionBuildId
          (rewindFrom store blockNumber db)).2
  | prepare {db db' : Database} {store : SqliteProjectionStore} {blockNumber : ℕ}
      {verifiedBackupId : Option String} (h : Reachable evidenceDigest B collectionAddress db)
      (hstore : store.collectionAddress = collectionAddress)
      (hprepare : prepareForReindex evidenceDigest store blockNumber verifiedBackupId db = .ok db')
      (projectionBuildId : String) :
      Reachable evidenceDigest B collectionAddress
        (rebuildFromJournal evidenceDigest store projectionBuildId db').2

section
variable {evidenceDigest : Evidence → String} {B : Blocks} {collectionAddress : String}
  {db : Database}

theorem reachable_projected (h : Reachable evidenceDigest B collectionAddress db) :
    ∃ chain, Projected evidenceDigest B collectionAddress chain db := by
  induction h with
  | registered scanStartBlock projectionBuildId logScopeHash =>
    exact ⟨[], covered_registered _ _ _, rfl⟩
  | commit _ hstore hbatch hlast ih =>
    obtain ⟨chain, hchain⟩ := ih
    obtain ⟨added, _, hadded⟩ := projected_commit hchain hstore hbatch hlast
    exact ⟨chain ++ added, hadded⟩
  | rewind _ hstore blockNumber projectionBuildId ih =>
    obtain ⟨chain, hchain⟩ := ih
    exact ⟨_, projected_rebuild hchain hstore (covered_rewindFrom hchain.covered _ _) _⟩
  | prepare _ hstore hprepare projectionBuildId ih =>
    obtain ⟨chain, hchain⟩ := ih
    obtain ⟨n, hn⟩ := covered_prepareForReindex hchain.covered hprepare
    exact ⟨_, projected_rebuild hchain hstore hn _⟩

/-- In every reachable state the tables are the fold over the canonical events
of the journal, and a rebuild succeeds and changes no row of them. -/
theorem rebuild_unchanged (h : Reachable evidenceDigest B collectionAddress db)
    (store : SqliteProjectionStore) (hstore : store.collectionAddress = collectionAddress)
    (projectionBuildId : String) :
    applyEvents collectionAddress (canonicalEvents db) noProjections = .ok db.projections ∧
      ∃ events db', rebuildFromJournal evidenceDigest store projectionBuildId db =
        (.ok events, db') ∧ db'.projections = db.projections := by
  obtain ⟨chain, hchain⟩ := reachable_projected h
  have hproj := hchain.projections
  refine ⟨hchain.covered.grounded.canonicalEvents_eq ▸ hproj, ?_⟩
  rw [← hstore] at hproj
  obtain ⟨db', heq, _, hdb'⟩ := rebuildFromJournal_ok hchain.covered store projectionBuildId hproj
  exact ⟨_, db', heq, hdb'⟩

theorem rewind_rebuilt (h : Reachable evidenceDigest B collectionAddress db)
    (store : SqliteProjectionStore) (projectionBuildId : String) :
    let db' := (rebuildFromJournal evidenceDigest store projectionBuildId
      (rewindFrom store db.scanStartBlock db)).2
    db'.scanStartBlock = db.scanStartBlock ∧ db'.checkpoint.lastScanned = none := by
  obtain ⟨chain, hchain⟩ := reachable_projected h
  have hrewound := covered_rewindFrom hchain.covered store db.scanStartBlock
  obtain ⟨p, c, status, heq, hc⟩ := rebuildFromJournal_kept evidenceDigest store
    projectionBuildId (rewindFrom store db.scanStartBlock db)
  obtain ⟨t, status', _, hrewind⟩ := rewindFrom_eq store db.scanStartBlock db
  rw [heq]
  constructor
  · rw [hrewind]
  · rw [hc, hrewound.checkpoint, Nat.sub_self]
    rfl

end

/-! A block with one mint is committed, rewound, and committed again. -/

theorem lowered_mint : lowered mint = mint := by
  have hdata : lower "0x" = "0x" := by decide +kernel
  simp [lowered, eventEnvelope, mint, lower_hex, hdata]

def mintBlocks : Blocks where
  number := fun _ => 5
  parentHash := fun _ => hex 64 0
  events := fun h => if h = hex 64 1 then [mint] else []
  located := by
    intro h e he
    split at he
    · rename_i hh
      obtain rfl := List.mem_singleton.mp he
      exact ⟨rfl, hh.symm, lowered_mint⟩
    · cases he
  sorted := by
    intro h
    split <;> simp
  distinct := by
    intro h
    split <;> simp

def plainStore : SqliteProjectionStore where
  collectionAddress := hex 40 3
  logScopeHash := hex 64 9
  commitFaultHook := fun _ => false
  sourceScopeChanged := false
  allowReindexRecovery := false

theorem extends_mint {db : Database} (hstart : db.scanStartBlock = 5)
    (hnone : db.checkpoint.lastScanned = none) : Extends mintBlocks db [mintBlock] [mint] where
  names := by
    intro x hx
    obtain rfl := List.mem_singleton.mp hx
    exact ⟨rfl, lower_hex 64 0⟩
  numbers := by
    rw [nextBlock, hnone, hstart]
    rfl
  linked := .singleton _
  parent := by
    intro number hash hc
    rw [hnone] at hc
    cases hc
  events := by simp [Blocks.batchEvents, mintBlocks, mintBlock, lower_hex, lowered_mint]

def commitMint (db : Database) : Database :=
  (commit mintDigest plainStore [mintBlock] [mint] mintBlock db).2

def rewindMint (db : Database) : Database :=
  (rebuildFromJournal mintDigest plainStore "b" (rewindFrom plainStore 5 db)).2

theorem commitMint_scanStartBlock (db : Database) :
    (commitMint db).scanStartBlock = db.scanStartBlock :=
  (commit_kept plainStore [mintBlock] [mint] mintBlock db).1

theorem reachable_commitMint {db : Database}
    (h : Reachable mintDigest mintBlocks plainStore.collectionAddress db)
    (hstart : db.scanStartBlock = 5) (hnone : db.checkpoint.lastScanned = none) :
    Reachable mintDigest mintBlocks plainStore.collectionAddress (commitMint db) :=
  .commit h rfl (extends_mint hstart hnone) rfl

theorem reachable_rewindMint {db : Database}
    (h : Reachable mintDigest mintBlocks plainStore.collectionAddress db)
    (hstart : db.scanStartBlock = 5) :
    Reachable mintDigest mintBlocks plainStore.collectionAddress (commitMint (rewindMint db)) := by
  obtain ⟨hkept, hnone⟩ := rewind_rebuilt h plainStore "b"
  rw [hstart] at hkept hnone
  exact reachable_commitMint (.rewind h rfl 5 "b") hkept hnone

/-- A registered deployment that scans from the block of the mint. -/
def fresh : Database := registered 5 "a" (hex 64 9)

def mintedAgain : Database := commitMint (rewindMint (commitMint fresh))

theorem reachable_mintedAgain :
    Reachable mintDigest mintBlocks plainStore.collectionAddress mintedAgain :=
  reachable_rewindMint (reachable_commitMint (.registered 5 "a" (hex 64 9)) rfl rfl)
    (commitMint_scanStartBlock fresh)

theorem rebuild_unchanged_mint :
    applyEvents plainStore.collectionAddress (canonicalEvents mintedAgain) noProjections =
        .ok mintedAgain.projections ∧
      ∃ events db', rebuildFromJournal mintDigest plainStore "c" mintedAgain =
        (.ok events, db') ∧ db'.projections = mintedAgain.projections :=
  rebuild_unchanged reachable_mintedAgain plainStore rfl "c"

/-! A log that is listed twice, a hash at two heights, and a hash that comes back
with another log. -/

/-- The states after successful commits of contiguous batches whose events are in
order and projectable, and after rewinds and preparations, each followed by a
rebuild. -/
inductive Continued (evidenceDigest : Evidence → String)
    (Allowed : List BlockHeader → List OrderedEvent → Prop) (collectionAddress : String) :
    Database → Prop where
  | registered (scanStartBlock : ℕ) (projectionBuildId logScopeHash : String) :
      Continued evidenceDigest Allowed collectionAddress
        (registered scanStartBlock projectionBuildId logScopeHash)
  | commit {db : Database} {store : SqliteProjectionStore} {headers : List BlockHeader}
      {events : List OrderedEvent} {last : BlockHeader}
      (h : Continued evidenceDigest Allowed collectionAddress db)
      (hstore : store.collectionAddress = collectionAddress)
      (hcontiguous : Contiguous db headers events last)
      (hsorted : events.Pairwise fun a b => Before a.toEnvelope b.toEnvelope)
      (hprojectable : (applyEvents collectionAddress events db.projections).isOk = true)
      (hallowed : Allowed headers events)
      (hcommit : (commit evidenceDigest store headers events last db).1 = .ok ()) :
      Continued evidenceDigest Allowed collectionAddress
        (commit evidenceDigest store headers events last db).2
  | rewind {db : Database} {store : SqliteProjectionStore}
      (h : Continued evidenceDigest Allowed collectionAddress db)
      (hstore : store.collectionAddress = collectionAddress)
      (blockNumber : ℕ) (projectionBuildId : String) :
      Continued evidenceDigest Allowed collectionAddress
        (rebuildFromJournal evidenceDigest store projectionBuildId
          (rewindFrom store blockNumber db)).2
  | prepare {db db' : Database} {store : SqliteProjectionStore} {blockNumber : ℕ}
      {verifiedBackupId : Option String}
      (h : Continued evidenceDigest Allowed collectionAddress db)
      (hstore : store.collectionAddress = collectionAddress)
      (hprepare : prepareForReindex evidenceDigest store blockNumber verifiedBackupId db = .ok db')
      (projectionBuildId : String) :
      Continued evidenceDigest Allowed collectionAddress
        (rebuildFromJournal evidenceDigest store projectionBuildId db').2

/-- A rebuild succeeds and changes no row, whatever batches are allowed. -/
def RebuildUnchanged (evidenceDigest : Evidence → String)
    (Allowed : List BlockHeader → List OrderedEvent → Prop) : Prop :=
  ∀ collectionAddress db, Continued evidenceDigest Allowed collectionAddress db →
    ∀ store : SqliteProjectionStore, store.collectionAddress = collectionAddress →
      ∀ projectionBuildId, ∃ events db',
        rebuildFromJournal evidenceDigest store projectionBuildId db = (.ok events, db') ∧
          db'.projections = db.projections

def LogsOnce (events : List OrderedEvent) : Prop :=
  (events.map fun e => (lower e.blockHash, e.logIndex)).Nodup

/-- A block that names itself as its parent, at two heights. -/
def selfLinked (number : ℕ) : BlockHeader := ⟨number, hex 64 1, hex 64 1, 1000⟩

def secondMint : OrderedEvent :=
  { mint with logIndex := 1, event := .transfer "2" (hex 40 0) (hex 40 4) }

theorem mintedTwice_run :
    (commit mintDigest plainStore [mintBlock] [mint, mint] mintBlock fresh).1 = .ok () ∧
    (applyEvents plainStore.collectionAddress [mint, mint] fresh.projections).isOk = true ∧
    (rebuildFromJournal mintDigest plainStore "c"
      (commit mintDigest plainStore [mintBlock] [mint, mint] mintBlock fresh).2).1.isOk = false := by
  decide +kernel

theorem selfLinked_run :
    (commit mintDigest plainStore [selfLinked 5, selfLinked 6] [] (selfLinked 6) fresh).1 =
      .ok () ∧
    (rebuildFromJournal mintDigest plainStore "c" (commit mintDigest plainStore
      [selfLinked 5, selfLinked 6] [] (selfLinked 6) fresh).2).1.isOk = false := by
  decide +kernel

/-- The mint committed and rewound, when all evidence has one digest. -/
def rewoundMint : Database :=
  (rebuildFromJournal (fun _ => "") plainStore "b" (rewindFrom plainStore 5
    (commit (fun _ => "") plainStore [mintBlock] [mint] mintBlock fresh).2)).2

def otherLog : Database :=
  (commit (fun _ => "") plainStore [mintBlock] [secondMint] mintBlock rewoundMint).2

theorem otherLog_run :
    (commit (fun _ => "") plainStore [mintBlock] [mint] mintBlock fresh).1 = .ok () ∧
    (applyEvents plainStore.collectionAddress [mint] fresh.projections).isOk = true ∧
    nextBlock rewoundMint = 5 ∧ rewoundMint.checkpoint.lastScanned = none ∧
    (applyEvents plainStore.collectionAddress [secondMint] rewoundMint.projections).isOk = true ∧
    (commit (fun _ => "") plainStore [mintBlock] [secondMint] mintBlock rewoundMint).1 = .ok () ∧
    (rebuildFromJournal (fun _ => "") plainStore "c" otherLog).1.isOk = false := by
  decide +kernel

theorem not_rebuildUnchanged {evidenceDigest : Evidence → String}
    {Allowed : List BlockHeader → List OrderedEvent → Prop} {db : Database}
    (h : Continued evidenceDigest Allowed plainStore.collectionAddress db)
    (hfails : (rebuildFromJournal evidenceDigest plainStore "c" db).1.isOk = false) :
    ¬RebuildUnchanged evidenceDigest Allowed := by
  intro hall
  obtain ⟨events, db', hrebuilt, _⟩ := hall _ db h plainStore rfl "c"
  rw [hrebuilt] at hfails
  cases hfails

theorem contiguous_first {db : Database} {header : BlockHeader} {events : List OrderedEvent}
    (hnext : nextBlock db = header.number) (hnone : db.checkpoint.lastScanned = none)
    (hlocated : ∀ e ∈ events, e.blockNumber = header.number ∧
      lower e.blockHash = lower header.hash) : Contiguous db [header] events header where
  last := rfl
  numbers := by
    rw [hnext]
    rfl
  linked := .singleton _
  parent := by
    intro number hash hc
    rw [hnone] at hc
    cases hc
  located := fun e he => ⟨header, List.mem_singleton_self _, hlocated e he⟩

theorem mintedTwice_fails : ¬RebuildUnchanged mintDigest fun _ _ => True := by
  obtain ⟨hcommit, hprojectable, hfails⟩ := mintedTwice_run
  refine not_rebuildUnchanged (.commit (.registered 5 "a" (hex 64 9)) rfl ?_ ?_ hprojectable trivial
    hcommit) hfails
  · apply contiguous_first rfl rfl
    intro e he
    obtain rfl : e = mint := by simpa using he
    exact ⟨rfl, rfl⟩
  · exact List.pairwise_pair.mpr (.inr ⟨rfl, .inr ⟨rfl, le_rfl⟩⟩)

theorem selfLinked_fails : ¬RebuildUnchanged mintDigest fun _ events => LogsOnce events := by
  obtain ⟨hcommit, hfails⟩ := selfLinked_run
  refine not_rebuildUnchanged (.commit (.registered 5 "a" (hex 64 9)) rfl ?_ .nil rfl .nil hcommit)
    hfails
  exact ⟨rfl, rfl, .cons_cons rfl (.singleton _), nofun, nofun⟩

theorem otherLog_fails : ¬RebuildUnchanged (fun _ => "") fun headers events =>
    headers = [mintBlock] ∧ LogsOnce events := by
  obtain ⟨hfirst, hprojectable, hnext, hnone, hagain, hcommit, hfails⟩ := otherLog_run
  have hlocated : ∀ e : OrderedEvent, e ∈ [mint] ∨ e ∈ [secondMint] →
      e.blockNumber = mintBlock.number ∧ lower e.blockHash = lower mintBlock.hash := by
    intro e he
    rcases he with he | he
    · obtain rfl := List.mem_singleton.mp he
      exact ⟨rfl, rfl⟩
    · obtain rfl := List.mem_singleton.mp he
      exact ⟨rfl, rfl⟩
  have hminted : Continued (fun _ => "")
      (fun headers events => headers = [mintBlock] ∧ LogsOnce events)
      plainStore.collectionAddress
      (commit (fun _ => "") plainStore [mintBlock] [mint] mintBlock fresh).2 :=
    .commit (.registered 5 "a" (hex 64 9)) rfl
      (contiguous_first rfl rfl fun e he => hlocated e (.inl he)) (List.pairwise_singleton _ _)
      hprojectable ⟨rfl, List.nodup_singleton _⟩ hfirst
  have hrewound : Continued (fun _ => "")
      (fun headers events => headers = [mintBlock] ∧ LogsOnce events)
      plainStore.collectionAddress rewoundMint := by
    rw [rewoundMint]
    exact .rewind hminted rfl 5 "b"
  rw [otherLog] at hfails
  exact not_rebuildUnchanged (.commit hrewound rfl
    (contiguous_first hnext hnone fun e he => hlocated e (.inr he)) (List.pairwise_singleton _ _)
    hagain ⟨rfl, List.nodup_singleton _⟩ hcommit) hfails

/-- Neither a log may repeat in a batch nor a hash name two blocks, by height or
by logs. -/
theorem rebuild_needs_named_blocks :
    (Function.Injective mintDigest ∧ ¬RebuildUnchanged mintDigest fun _ _ => True) ∧
    (Function.Injective mintDigest ∧ ¬RebuildUnchanged mintDigest fun _ events =>
      LogsOnce events) ∧
    ¬RebuildUnchanged (fun _ => "") fun headers events =>
      headers = [mintBlock] ∧ LogsOnce events :=
  ⟨⟨mintDigest_injective, mintedTwice_fails⟩, ⟨mintDigest_injective, selfLinked_fails⟩,
    otherLog_fails⟩

end MotorCove.Indexer
