import MotorCove.Indexer.Rebuild

/-!
# A full reindex after lost rows

A chain is ingested in batches, some block rows and event rows are lost, and
the source is prepared at the scan start, rebuilt and committed again. Every
event gets its row back. An event is applied unless its row survived and its
block's row did not: then the block is not marked as canonical again, and the
event counts as recorded.
-/

set_option autoImplicit false

namespace MotorCove.Indexer
open MotorCove.Text MotorCove.Fallible

structure Batch where
  headers : List BlockHeader
  events : List OrderedEvent
  checkpoint : BlockHeader

section
variable (evidenceDigest : Evidence → String) (store : SqliteProjectionStore)

def commitBatch (db : Database) (b : Batch) : Except StoreError Database :=
  match commit evidenceDigest store b.headers b.events b.checkpoint db with
  | (.ok (), db') => .ok db'
  | (.error e, _) => .error e

def commitBatches (batches : List Batch) (db : Database) : Except StoreError Database :=
  batches.foldlM (commitBatch evidenceDigest store) db

/-- The events that the commits of the batches apply to the tables. -/
def appliedByBatches : List Batch → Database → List OrderedEvent
  | [], _ => []
  | b :: rest, db =>
    match commitBatch evidenceDigest store db b with
    | .error _ => []
    | .ok db' => appliedByCommit evidenceDigest store b.headers b.events db ++
        appliedByBatches rest db'

end

/-- Consecutive blocks from a height, linked by their hashes. -/
structure Blocks.IsRun (B : Blocks) (start : ℕ) (headers : List BlockHeader) : Prop where
  names : ∀ x ∈ headers, B.Names x
  numbers : headers.map BlockHeader.number = List.range' start headers.length
  linked : headers.IsChain fun a b => lower b.parentHash = lower a.hash

/-- Batches that list the headers in order, each with the events of its blocks. -/
structure Blocks.Splits (B : Blocks) (headers : List BlockHeader) (batches : List Batch) :
    Prop where
  joined : batches.flatMap Batch.headers = headers
  last : ∀ b ∈ batches, b.headers.getLast? = some b.checkpoint
  events : ∀ b ∈ batches, b.events.map lowered = B.batchEvents b.headers

/-- An event of the list that is left out when its row is there without its block's. -/
def Reapplied (evidenceDigest : Evidence → String) (db : Database) (e : OrderedEvent) : Prop :=
  (∃ b ∈ db.indexedBlocks.rows, b.blockHash = lower e.blockHash) ∨
    eventRow evidenceDigest e ∉ db.chainEvents.rows

instance (evidenceDigest : Evidence → String) (db : Database) (e : OrderedEvent) :
    Decidable (Reapplied evidenceDigest db e) :=
  inferInstanceAs (Decidable (_ ∨ _))

section
variable {evidenceDigest : Evidence → String} {B : Blocks} {store : SqliteProjectionStore}
  {headers : List BlockHeader} {batches : List Batch} {db₀ db : Database}

theorem commitBatch_ok {b : Batch} {db' : Database}
    (h : commitBatch evidenceDigest store db b = .ok db') :
    commitTransaction evidenceDigest store b.headers b.events b.checkpoint db = .ok db' := by
  unfold commitBatch at h
  split at h
  · rename_i hc
    obtain rfl := Except.ok.inj h
    exact commit_ok hc
  · cases h

theorem Blocks.Splits.events_joined (h : B.Splits headers batches) :
    (batches.flatMap Batch.events).map lowered = B.batchEvents headers := by
  rw [← h.joined, Blocks.batchEvents, List.map_flatMap, List.flatMap_assoc]
  exact List.flatMap_congr h.events

/-- While the blocks `done` are committed on top of a store without canonical
blocks: they form its chain, and what was stored is still there. -/
structure Progress (evidenceDigest : Evidence → String) (B : Blocks) (db₀ : Database)
    (done : List BlockHeader) (db : Database) : Prop where
  scanStartBlock : db.scanStartBlock = db₀.scanStartBlock
  spine : ∃ chain, Spine chain db ∧ chain.map BlockRow.blockHash = done.map (lower ·.hash)
  named : ∀ b ∈ db.indexedBlocks.rows, RowNamed evidenceDigest B b
  known : ∀ h, (∃ b ∈ db.indexedBlocks.rows, b.blockHash = h) ↔
    (∃ b ∈ db₀.indexedBlocks.rows, b.blockHash = h) ∨ ∃ x ∈ done, lower x.hash = h
  stored : ∀ r, r ∈ db.chainEvents.rows ↔
    r ∈ db₀.chainEvents.rows ∨ ∃ x ∈ done, r ∈ B.rows evidenceDigest (lower x.hash)

theorem Progress.extends {done todo rest : List BlockHeader} {events : List OrderedEvent}
    (h : Progress evidenceDigest B db₀ done db)
    (hrun : B.IsRun db₀.scanStartBlock (done ++ todo ++ rest))
    (hevents : events.map lowered = B.batchEvents todo) : Extends B db todo events := by
  obtain ⟨chain, hspine, hhashes⟩ := h.spine
  have hlength : chain.length = done.length := by
    simpa using congrArg List.length hhashes
  obtain ⟨hlinkedDone, _, _⟩ := List.isChain_append.mp hrun.linked
  obtain ⟨_, hlinkedTodo, hjoint⟩ := List.isChain_append.mp hlinkedDone
  constructor
  · intro x hx
    exact hrun.names x (by simp [hx])
  · have hnumbers := hrun.numbers
    rw [List.map_append, List.map_append, List.length_append, List.length_append,
      ← List.range'_append_1, ← List.range'_append_1] at hnumbers
    have hfirst := (List.append_inj hnumbers (by simp)).1
    rw [(List.append_inj hfirst (by simp)).2, hspine.nextBlock_eq, hlength, h.scanStartBlock]
  · exact hlinkedTodo
  · intro number hash hc x hx
    have hlast := congrArg (Option.map Prod.snd) (hspine.checkpoint.symm.trans hc)
    rw [Option.map_map] at hlast
    have hhash : (done.getLast?.map fun y => lower y.hash) = some hash := by
      rw [← List.getLast?_map, ← hhashes, List.getLast?_map]
      exact hlast
    obtain ⟨y, hy, hyhash⟩ := Option.map_eq_some_iff.mp hhash
    rw [hjoint y hy x hx, hyhash]
  · exact hevents

theorem Progress.reapplied {done todo rest : List BlockHeader} {e : OrderedEvent}
    (h : Progress evidenceDigest B db₀ done db)
    (hrun : B.IsRun db₀.scanStartBlock (done ++ todo ++ rest)) {x : BlockHeader} (hx : x ∈ todo)
    (he : lowered e ∈ B.events (lower x.hash)) :
    Reapplied evidenceDigest db e ↔ Reapplied evidenceDigest db₀ e := by
  have hhash : lower e.blockHash = lower x.hash := (B.located _ _ he).2.1
  have hnew : ∀ y ∈ done, lower y.hash ≠ lower e.blockHash := by
    intro y hy heq
    have hlt := (List.pairwise_append.mp (List.pairwise_append.mp
      (pairwise_number hrun.numbers)).1).2.2 y hy x hx
    have hyn := (hrun.names y (by simp [hy])).1
    have hxn := (hrun.names x (by simp [hx])).1
    rw [heq, hhash] at hyn
    omega
  have hblocks : (∃ b ∈ db.indexedBlocks.rows, b.blockHash = lower e.blockHash) ↔
      ∃ b ∈ db₀.indexedBlocks.rows, b.blockHash = lower e.blockHash := by
    rw [h.known]
    constructor
    · rintro (hb | ⟨y, hy, heq⟩)
      · exact hb
      · exact absurd heq (hnew y hy)
    · exact .inl
  have hrows : eventRow evidenceDigest e ∈ db.chainEvents.rows ↔
      eventRow evidenceDigest e ∈ db₀.chainEvents.rows := by
    rw [h.stored]
    constructor
    · rintro (hr | ⟨y, hy, hr⟩)
      · exact hr
      · exact absurd (Blocks.rows_hash hr).symm (hnew y hy)
    · exact .inl
  rw [Reapplied, Reapplied, hblocks, hrows]

theorem progress_step {done rest : List BlockHeader} {b : Batch} {db' : Database}
    (hrows : ∀ r ∈ db₀.chainEvents.rows, ∃ k, r ∈ B.rows evidenceDigest k)
    (h : Progress evidenceDigest B db₀ done db)
    (hrun : B.IsRun db₀.scanStartBlock (done ++ b.headers ++ rest))
    (hlast : b.headers.getLast? = some b.checkpoint)
    (hevents : b.events.map lowered = B.batchEvents b.headers)
    (hstep : commitBatch evidenceDigest store db b = .ok db') :
    Progress evidenceDigest B db₀ (done ++ b.headers) db' ∧
      appliedByCommit evidenceDigest store b.headers b.events db =
        b.events.filter (fun e => Reapplied evidenceDigest db₀ e) ∧
      applyEvents store.collectionAddress
        (appliedByCommit evidenceDigest store b.headers b.events db) db.projections =
          .ok db'.projections := by
  obtain ⟨chain, hspine, hhashes⟩ := h.spine
  have hbatch := h.extends hrun hevents
  have hnamed : ∀ r ∈ db.chainEvents.rows, ∃ k, r ∈ B.rows evidenceDigest k := by
    intro r hr
    rcases (h.stored r).mp hr with hr | ⟨x, _, hr⟩
    · exact hrows r hr
    · exact ⟨_, hr⟩
  have hext := commitTransaction_extended hspine h.named hnamed hbatch hlast (commitBatch_ok hstep)
  obtain ⟨added, hadded, hspine'⟩ := hext.spine
  refine ⟨?_, ?_, hext.projections⟩
  · constructor
    · exact hext.scanStartBlock.trans h.scanStartBlock
    · exact ⟨chain ++ added, hspine', by rw [List.map_append, hhashes, hadded, List.map_append]⟩
    · exact hext.named
    · intro k
      simp only [hext.known, h.known, List.mem_append, or_and_right, exists_or, or_assoc]
    · intro r
      simp only [hext.stored, h.stored, List.mem_append, or_and_right, exists_or, or_assoc]
  · rw [hext.applied]
    refine List.filter_congr fun e he => ?_
    obtain ⟨x, hx, hex⟩ := hbatch.located he
    exact decide_eq_decide.mpr (h.reapplied hrun hx hex)

/-- A whole run: all blocks are committed, and the applied events are those
whose row was not left without its block's. -/
theorem progress_run {done : List BlockHeader} {db' : Database}
    (hrows : ∀ r ∈ db₀.chainEvents.rows, ∃ k, r ∈ B.rows evidenceDigest k)
    (h : Progress evidenceDigest B db₀ done db)
    (hrun : B.IsRun db₀.scanStartBlock (done ++ headers)) (hsplit : B.Splits headers batches)
    (hcommit : commitBatches evidenceDigest store batches db = .ok db') :
    Progress evidenceDigest B db₀ (done ++ headers) db' ∧
      appliedByBatches evidenceDigest store batches db =
        (batches.flatMap Batch.events).filter (fun e => Reapplied evidenceDigest db₀ e) ∧
      applyEvents store.collectionAddress (appliedByBatches evidenceDigest store batches db)
        db.projections = .ok db'.projections := by
  induction batches generalizing done headers db with
  | nil =>
    obtain rfl := Except.ok.inj hcommit
    obtain rfl := hsplit.joined
    exact ⟨by simpa using h, rfl, rfl⟩
  | cons b rest ih =>
    rw [commitBatches, List.foldlM_cons] at hcommit
    obtain ⟨db₁, hstep, hrest⟩ := bind_ok.mp hcommit
    obtain rfl := hsplit.joined
    rw [List.flatMap_cons, ← List.append_assoc] at hrun ⊢
    obtain ⟨h₁, happlied₁, hp₁⟩ := progress_step hrows h hrun
      (hsplit.last b List.mem_cons_self) (hsplit.events b List.mem_cons_self) hstep
    obtain ⟨h₂, happlied₂, hp₂⟩ := ih h₁ hrun
      ⟨rfl, fun c hc => hsplit.last c (List.mem_cons_of_mem _ hc),
        fun c hc => hsplit.events c (List.mem_cons_of_mem _ hc)⟩ hrest
    simp only [appliedByBatches, hstep]
    refine ⟨h₂, ?_, (foldlM_append_ok _ _ _ _ _).mpr ⟨_, hp₁, hp₂⟩⟩
    rw [happlied₁, happlied₂, List.flatMap_cons, List.filter_append]

end

/-- Some block rows and event rows are gone; the projections may be anything. -/
structure Lost (db db' : Database) : Prop where
  scanStartBlock : db'.scanStartBlock = db.scanStartBlock
  checkpoint : db'.checkpoint = db.checkpoint
  blocks : db'.indexedBlocks.rows.Sublist db.indexedBlocks.rows
  events : db'.chainEvents.rows.Sublist db.chainEvents.rows

/-- A chain is ingested, rows are lost (`lost`), the source is prepared at the
scan start (`prepared`), the projections are rebuilt (`rebuilt`) and the chain
is committed again (`done`), each step with success. -/
structure Reindexed (evidenceDigest : Evidence → String) (B : Blocks)
    (store : SqliteProjectionStore) (headers : List BlockHeader) (batches : List Batch)
    (lost prepared rebuilt done : Database) : Prop where
  run : B.IsRun lost.scanStartBlock headers
  splits : B.Splits headers batches
  ingested : ∃ store₀ batches₀ projectionBuildId logScopeHash db,
    B.Splits headers batches₀ ∧ Lost db lost ∧ commitBatches evidenceDigest store₀ batches₀
      (registered lost.scanStartBlock projectionBuildId logScopeHash) = .ok db
  prepare : ∃ verifiedBackupId, prepareForReindex evidenceDigest store lost.scanStartBlock
    verifiedBackupId lost = .ok prepared
  rebuild : ∃ projectionBuildId events, rebuildFromJournal evidenceDigest store projectionBuildId
    prepared = (.ok events, rebuilt)
  commit : commitBatches evidenceDigest store batches rebuilt = .ok done

/-- The journal holds the chain's events, the tables are their fold, and none
of them was left unapplied. -/
structure Repaired (evidenceDigest : Evidence → String) (B : Blocks)
    (store : SqliteProjectionStore) (headers : List BlockHeader) (batches : List Batch)
    (rebuilt done : Database) : Prop where
  stored : ∀ r, r ∈ done.chainEvents.rows ↔
    r ∈ (B.batchEvents headers).map (eventRow evidenceDigest)
  projected : applyEvents store.collectionAddress (B.batchEvents headers) noProjections =
    .ok done.projections
  applied : ∀ e ∈ batches.flatMap Batch.events,
    e ∈ appliedByBatches evidenceDigest store batches rebuilt

section
variable {evidenceDigest : Evidence → String} {B : Blocks} {store : SqliteProjectionStore}
  {headers : List BlockHeader} {batches : List Batch} {db : Database}

theorem spine_nil (hnone : ∀ b ∈ db.indexedBlocks.rows, b.isCanonical = false)
    (hcheckpoint : db.checkpoint.lastScanned = none) : Spine [] db where
  canonical := by
    intro b
    constructor
    · intro hb
      cases hb
    · rintro ⟨hb, hc⟩
      rw [hnone b hb] at hc
      cases hc
  numbers := rfl
  linked := .nil
  checkpoint := hcheckpoint

theorem progress_start (hspine : Spine [] db)
    (hnamed : ∀ b ∈ db.indexedBlocks.rows, RowNamed evidenceDigest B b) :
    Progress evidenceDigest B db [] db where
  scanStartBlock := rfl
  spine := ⟨[], hspine, rfl⟩
  named := hnamed
  known := by simp
  stored := by simp

theorem ingested_covered {store₀ : SqliteProjectionStore} {scanStartBlock : ℕ}
    {projectionBuildId logScopeHash : String} (hrun : B.IsRun scanStartBlock headers)
    (hsplit : B.Splits headers batches) (hcommit : commitBatches evidenceDigest store₀ batches
      (registered scanStartBlock projectionBuildId logScopeHash) = .ok db) :
    (∃ chain, Spine chain db) ∧ (∀ b ∈ db.indexedBlocks.rows, RowNamed evidenceDigest B b) ∧
      (∀ r ∈ db.chainEvents.rows, r ∈ (B.batchEvents headers).map (eventRow evidenceDigest)) := by
  have hempty : Covered evidenceDigest B []
      (registered scanStartBlock projectionBuildId logScopeHash) := covered_registered _ _ _
  have hnone : ∀ r ∈ (registered scanStartBlock projectionBuildId logScopeHash).chainEvents.rows,
      ∃ k, r ∈ B.rows evidenceDigest k := by
    intro r hr
    cases hr
  obtain ⟨hdone, _, _⟩ := progress_run hnone (progress_start hempty.toSpine hempty.named) hrun
    hsplit hcommit
  obtain ⟨chain, hspine, _⟩ := hdone.spine
  refine ⟨⟨chain, hspine⟩, hdone.named, fun r hr => ?_⟩
  rcases (hdone.stored r).mp hr with hr | ⟨x, hx, hr⟩
  · cases hr
  · rw [Blocks.batchEvents, List.map_flatMap]
    exact List.mem_flatMap.mpr ⟨x, hx, hr⟩

/-- A preparation at the scan start leaves no canonical row: it empties the
tables, or keeps every event row and every block's hash. -/
theorem prepared_start {verifiedBackupId : Option String} {db' : Database}
    (hnamed : ∀ b ∈ db.indexedBlocks.rows, RowNamed evidenceDigest B b)
    (hstart : ∀ b ∈ db.indexedBlocks.rows, b.isCanonical = true →
      db.scanStartBlock ≤ b.blockNumber)
    (h : prepareForReindex evidenceDigest store db.scanStartBlock verifiedBackupId db =
      .ok db') :
    Spine [] db' ∧ db'.scanStartBlock = db.scanStartBlock ∧
      (∀ b ∈ db'.indexedBlocks.rows, RowNamed evidenceDigest B b) ∧
      (requiresSourceRefresh evidenceDigest store db = true ∧ db'.chainEvents.rows = [] ∨
        requiresSourceRefresh evidenceDigest store db = false ∧
          db'.chainEvents = db.chainEvents ∧
          ∀ k, (∃ b ∈ db'.indexedBlocks.rows, b.blockHash = k) ↔
            ∃ b ∈ db.indexedBlocks.rows, b.blockHash = k) := by
  unfold prepareForReindex at h
  split at h
  · rename_i hrefresh
    simp only [failIf_bind_ok, Except.ok.injEq] at h
    obtain ⟨_, _, rfl⟩ := h
    have hempty : Covered evidenceDigest B [] (deleteSource store db) := covered_deleteSource store
    obtain ⟨status, heq⟩ := markReindexStarted_eq store "SOURCE_REFRESH_REINDEX_REQUESTED" _
    refine ⟨hempty.toSpine, ?_, hempty.named, .inl ⟨hrefresh, ?_⟩⟩
    · rw [deleteSource, heq]
      rfl
    · rw [deleteSource, heq]
      rfl
  · rename_i hrefresh
    obtain rfl := Except.ok.inj h
    obtain ⟨t, status, ht, heq⟩ := rewindFrom_eq store db.scanStartBlock db
    rw [heq]
    have hmem : ∀ c, c ∈ t.rows ↔
        ∃ b ∈ db.indexedBlocks.rows, rewound db.scanStartBlock b = c := by
      intro c
      rw [ht, List.mem_map]
    have hnone : ∀ c ∈ t.rows, c.isCanonical = false := by
      intro c hc
      obtain ⟨b, hb, hrew⟩ := (hmem c).mp hc
      by_contra hcan
      obtain ⟨_, hbcan, hlt⟩ := (rewound_canonical hrew).mp (Bool.not_eq_false _ ▸ hcan)
      have := hstart b hb hbcan
      omega
    have hprevious : previousBlock db.scanStartBlock t.rows = none := by
      have hfilter : t.rows.filter (fun b => b.canonical &&
          decide (b.blockNumber < db.scanStartBlock)) = [] := by
        refine List.filter_eq_nil_iff.mpr fun c hc => ?_
        simp [BlockRow.canonical, hnone c hc]
      rw [previousBlock, hfilter]
      rfl
    refine ⟨spine_nil hnone ?_, rfl, ?_, .inr ⟨Bool.not_eq_true _ ▸ hrefresh, rfl, ?_⟩⟩
    · exact congrArg (Option.map fun b : BlockRow => (b.blockNumber, b.blockHash)) hprevious
    · intro c hc
      obtain ⟨b, hb, rfl⟩ := (hmem c).mp hc
      exact rewound_named (hnamed b hb)
    · intro k
      constructor
      · rintro ⟨c, hc, rfl⟩
        obtain ⟨b, hb, rfl⟩ := (hmem c).mp hc
        exact ⟨b, hb, (rewound_blockHash _ b).symm⟩
      · rintro ⟨b, hb, rfl⟩
        exact ⟨_, (hmem _).mpr ⟨b, hb, rfl⟩, rewound_blockHash _ b⟩

theorem rebuild_nil (hspine : Spine [] db) (store : SqliteProjectionStore)
    (projectionBuildId : String) :
    ∃ c status, rebuildFromJournal evidenceDigest store projectionBuildId db =
        (.ok 0, { db with projections := noProjections, checkpoint := c, runtimeStatus := status }) ∧
      c.lastScanned = none ∧
      (store.allowReindexRecovery = false → status.projectionStatus = .current) := by
  have hcheckpoint : db.checkpoint.lastScanned = none := hspine.checkpoint
  have hsource : verifyRebuildSource evidenceDigest db = .ok () := by
    rw [verifyRebuildSource, hcheckpoint]
    refine failIf_neg _ ?_
    rintro ⟨b, hb, hc⟩
    exact List.not_mem_nil ((hspine.canonical b).mpr ⟨hb, hc⟩)
  have hnone : canonicalRows db = [] := by
    have hfilter : (db.chainEvents.rows.filter fun e => db.indexedBlocks.rows.any fun b =>
        b.blockHash = e.blockHash ∧ b.canonical = true) = [] := by
      refine List.filter_eq_nil_iff.mpr fun r _ hany => ?_
      obtain ⟨b, hb, hc⟩ := List.any_eq_true.mp hany
      have hcan := (Bool.and_eq_true_iff.mp (decide_eq_true_eq.mp hc).2).1
      exact List.not_mem_nil ((hspine.canonical b).mpr ⟨hb, hcan⟩)
    rw [canonicalRows, hfilter]
    rfl
  have hfold : [].foldlM (applyRow store.collectionAddress) noProjections =
      (.ok noProjections : Except StoreError Projections) := rfl
  simp only [rebuildFromJournal, hsource, ok_bind, rebuildTransaction, hnone, hfold,
    List.length_nil]
  split
  · rename_i hbarrier
    refine ⟨_, _, rfl, hcheckpoint, fun hstore => ?_⟩
    rw [hstore] at hbarrier
    cases hbarrier
  · exact ⟨_, _, rfl, hcheckpoint, fun _ => rfl⟩

/-- A reindex that runs through repairs lost rows exactly when the source was
refreshed, or no event row was left without its block's row. -/
theorem reindex_repairs_iff {lost prepared rebuilt done : Database}
    (h : Reindexed evidenceDigest B store headers batches lost prepared rebuilt done) :
    Repaired evidenceDigest B store headers batches rebuilt done ↔
      requiresSourceRefresh evidenceDigest store lost = true ∨
        ∀ r ∈ lost.chainEvents.rows, ∃ b ∈ lost.indexedBlocks.rows, b.blockHash = r.blockHash := by
  obtain ⟨store₀, batches₀, buildId₀, scope₀, db, hsplit₀, hlost, hingest⟩ := h.ingested
  obtain ⟨⟨chain, hspine⟩, hnamed, hrows⟩ := ingested_covered h.run hsplit₀ hingest
  obtain ⟨verifiedBackupId, hprepare⟩ := h.prepare
  obtain ⟨projectionBuildId, events, hrebuild⟩ := h.rebuild
  have hlostNamed : ∀ b ∈ lost.indexedBlocks.rows, RowNamed evidenceDigest B b :=
    fun b hb => hnamed b (hlost.blocks.subset hb)
  have hlostStart : ∀ b ∈ lost.indexedBlocks.rows, b.isCanonical = true →
      lost.scanStartBlock ≤ b.blockNumber := by
    intro b hb hc
    rw [hlost.scanStartBlock]
    exact (hspine.number_lt ((hspine.canonical b).mpr ⟨hlost.blocks.subset hb, hc⟩)).1
  obtain ⟨hspine₂, hstart₂, hnamed₂, hcases⟩ := prepared_start hlostNamed hlostStart hprepare
  obtain ⟨c, status, hempty, hc, _⟩ := rebuild_nil hspine₂ store projectionBuildId
  have hkept := (Prod.mk.inj (hrebuild.symm.trans hempty)).2
  have hprojections : rebuilt.projections = noProjections := by rw [hkept]
  have hevents : rebuilt.chainEvents = prepared.chainEvents := by rw [hkept]
  have hblocks : rebuilt.indexedBlocks = prepared.indexedBlocks := by rw [hkept]
  have hspine₃ : Spine [] rebuilt := by
    rw [hkept]
    exact ⟨hspine₂.canonical, rfl, .nil, hc⟩
  have hstart₃ : rebuilt.scanStartBlock = lost.scanStartBlock := by rw [hkept, ← hstart₂]
  have hkeptRows : ∀ r ∈ rebuilt.chainEvents.rows,
      r ∈ (B.batchEvents headers).map (eventRow evidenceDigest) := by
    intro r hr
    rw [hevents] at hr
    rcases hcases with ⟨_, hnil⟩ | ⟨_, hsame, _⟩
    · rw [hnil] at hr
      cases hr
    · rw [hsame] at hr
      exact hrows r (hlost.events.subset hr)
  have hnamedRows : ∀ r ∈ rebuilt.chainEvents.rows, ∃ k, r ∈ B.rows evidenceDigest k := by
    intro r hr
    obtain ⟨e, he, rfl⟩ := List.mem_map.mp (hkeptRows r hr)
    obtain ⟨x, _, hex⟩ := List.mem_flatMap.mp he
    exact ⟨_, List.mem_map_of_mem hex⟩
  obtain ⟨hdone, happlied, hfold⟩ := progress_run hnamedRows
    (progress_start hspine₃ (hblocks ▸ hnamed₂)) (hstart₃.symm ▸ h.run) h.splits h.commit
  rw [hprojections] at hfold
  have hall : (∀ e ∈ batches.flatMap Batch.events, Reapplied evidenceDigest rebuilt e) ↔
      requiresSourceRefresh evidenceDigest store lost = true ∨
        ∀ r ∈ lost.chainEvents.rows, ∃ b ∈ lost.indexedBlocks.rows, b.blockHash = r.blockHash := by
    rcases hcases with ⟨hrefresh, hnil⟩ | ⟨hrefresh, hsame, hhashes⟩
    · simp [Reapplied, hevents, hnil, hrefresh]
    · simp only [Reapplied, hevents, hsame, hblocks, hhashes, hrefresh, Bool.false_eq_true,
        false_or]
      constructor
      · intro hre r hr
        obtain ⟨e', he', rfl⟩ := List.mem_map.mp (hrows r (hlost.events.subset hr))
        rw [← h.splits.events_joined] at he'
        obtain ⟨e, he, rfl⟩ := List.mem_map.mp he'
        rw [eventRow_lowered] at hr ⊢
        rcases hre e he with hb | hno
        · exact hb
        · exact absurd hr hno
      · intro hb e _
        by_cases hr : eventRow evidenceDigest e ∈ lost.chainEvents.rows
        · exact .inl (hb _ hr)
        · exact .inr hr
  rw [← hall]
  constructor
  · intro hrep e he
    have hmem := hrep.applied e he
    rw [happlied] at hmem
    exact decide_eq_true_eq.mp (List.mem_filter.mp hmem).2
  · intro hre
    have hself : appliedByBatches evidenceDigest store batches rebuilt =
        batches.flatMap Batch.events := by
      rw [happlied]
      exact List.filter_eq_self.mpr fun e he => decide_eq_true (hre e he)
    constructor
    · intro r
      rw [hdone.stored]
      constructor
      · rintro (hr | ⟨x, hx, hr⟩)
        · exact hkeptRows r hr
        · rw [Blocks.batchEvents, List.map_flatMap]
          exact List.mem_flatMap.mpr ⟨x, hx, hr⟩
      · intro hr
        rw [Blocks.batchEvents, List.map_flatMap] at hr
        exact .inr (List.mem_flatMap.mp hr)
    · rw [← h.splits.events_joined, applyEvents_lowered, ← hself]
      exact hfold
    · intro e he
      rw [hself]
      exact he

end

/-! A mint is ingested, its block's row is lost, and the reindex leaves it out. -/

theorem mint_checks : (∀ c ∈ (eventRow mintDigest mint).checks, c.2 = true) ∧
    ∀ c ∈ (blockRow mintDigest plainStore mintBlock [mint]).checks, c.2 = true := by
  have h5 : safeInteger 5 = true := by decide
  have h0 : safeInteger 0 = true := by decide
  have h1 : safeInteger 1 = true := by decide
  have h1000 : safeInteger 1000 = true := by decide
  constructor
  · simp [EventRow.checks, eventRow, mint, lower_hex, hexLength_hex, h5, h0]
  · simp [BlockRow.checks, blockRow, mintBlock, lower_hex, hexLength_hex, h5, h1, h1000]

theorem commit_mint (db : Database) (hblocks : db.indexedBlocks.rows = [])
    (hstatus : db.runtimeStatus.projectionStatus ≠ .recoveryRequired) :
    ∃ t : Table BlockRow BlockRow.blockHash, ∀ db',
      recordEvent mintDigest plainStore mint false { db with indexedBlocks := t } = .ok db' →
      commitBatch mintDigest plainStore db ⟨[mintBlock], [mint], mintBlock⟩ =
        .ok { db' with checkpoint := { db'.checkpoint with lastScanned := some (5, hex 64 1) } } := by
  have hnew : ∀ b ∈ db.indexedBlocks.rows, b.blockHash ≠
      (blockRow mintDigest plainStore mintBlock [mint]).blockHash := by simp [hblocks]
  obtain ⟨t, ht, _⟩ := Table.insert?_of_new hnew
  refine ⟨t, fun db' hrecord => ?_⟩
  have hevents : sortEvents ([mint].filter fun e => e.blockNumber = mintBlock.number) = [mint] := by
    simp [sortEvents, mint, mintBlock]
  have hfind : db.indexedBlocks.find? mintBlock.hash = none := by
    simp [Table.find?_none, hblocks]
  have hchecks := checkAll_ok (u := ()).mpr mint_checks.2
  have hcanonical : ¬((blockRow mintDigest plainStore mintBlock [mint]).isCanonical = true ∧
      ∃ b ∈ db.indexedBlocks.rows, b.isCanonical = true ∧
        b.blockNumber = (blockRow mintDigest plainStore mintBlock [mint]).blockNumber) := by
    simp [hblocks]
  have hheader : commitHeader mintDigest plainStore [mint] (db, []) mintBlock =
      .ok ({ db with indexedBlocks := t }, []) := by
    simp only [commitHeader, hfind, hevents, insertBlock, hchecks, failIf_neg _ hcanonical, ok_bind,
      ht]
  have hcheckpoint : setCheckpoint mintBlock db' = .ok { db' with checkpoint :=
      { db'.checkpoint with lastScanned := some (5, hex 64 1) } } := by
    have h5 : safeInteger 5 = true := by decide
    simp [setCheckpoint, checkAll, mintBlock, lower_hex, hexLength_hex, h5]
  have hbarrier : ¬(db.runtimeStatus.projectionStatus = .recoveryRequired ∧
      plainStore.allowReindexRecovery = false) := fun h => hstatus h.1
  have hhook : ∀ point, ¬plainStore.commitFaultHook point = true :=
    fun _ => Bool.false_ne_true
  have hheaders : [mintBlock].foldlM (commitHeader mintDigest plainStore [mint]) (db, []) =
      .ok ({ db with indexedBlocks := t }, []) := by
    rw [List.foldlM_cons, hheader]
    rfl
  have hrecords : recordEvents mintDigest plainStore [] [mint] { db with indexedBlocks := t } =
      .ok db' := by
    rw [recordEvents, List.foldlM_cons, List.contains_nil, hrecord]
    rfl
  have htransaction : commitTransaction mintDigest plainStore [mintBlock] [mint] mintBlock db =
      .ok { db' with checkpoint := { db'.checkpoint with
        lastScanned := some (5, hex 64 1) } } := by
    simp only [commitTransaction, failIf_neg _ hbarrier, ok_bind, hheaders, hrecords,
      failIf_neg _ (hhook _), hcheckpoint]
  rw [commitBatch, commit, if_neg (hhook _)]
  simp only [htransaction, if_neg (hhook _)]

def mintOwnership : OwnershipRow where
  collectionAddress := hex 40 3
  tokenId := "1"
  owner := hex 40 4
  lastTransferBlockHash := hex 64 1
  lastTransferLogIndex := 0
  updatedBlock := 5

def mintTables : Projections where
  sales := fun _ => none
  paymentClaims := fun _ => none
  tokenOwnership := Function.update (fun _ => none) (hex 40 3, "1") (some mintOwnership)

theorem mint_applies :
    applyEvent plainStore.collectionAddress mint noProjections = .ok mintTables := by
  have hid : canonicalUint256 "1" false = true := by decide +kernel
  have h5 : safeInteger 5 = true := by decide
  have h0 : safeInteger 0 = true := by decide
  have hvalid : mintOwnership.Valid := by
    simp [OwnershipRow.Valid, OwnershipRow.checks, mintOwnership, hexLength_hex, hid, h5, h0]
  have hdst : hex 40 4 ≠ "" := by
    intro h
    have hlist := congrArg String.toList h
    rw [toList_hex] at hlist
    cases hlist
  refine (applyEvent_transfer valid_noProjections rfl).mpr ⟨hdst, mintOwnership, ?_, hvalid, rfl⟩
  simp [mintOwnership, mint, lower_hex]

theorem mintTables_ne : mintTables ≠ noProjections := by
  intro h
  have hrow := congrFun (congrArg Projections.tokenOwnership h) (hex 40 3, "1")
  simp [mintTables, noProjections] at hrow

/-- The mint's row is there again, but not applied again. -/
theorem record_stored (db : Database) (hrows : db.chainEvents.rows = [eventRow mintDigest mint]) :
    recordEvent mintDigest plainStore mint false db = .ok db := by
  have hkey : (eventRow mintDigest mint).key = (mint.blockHash, mint.logIndex) := by
    simp [mint, lower_hex]
  have hfind : db.chainEvents.find? (mint.blockHash, mint.logIndex) =
      some (eventRow mintDigest mint) :=
    Table.find?_some.mpr ⟨by simp [hrows], hkey⟩
  simp [recordEvent, hfind, failIf]

theorem record_new (db : Database) (hrows : db.chainEvents.rows = [])
    (hprojections : db.projections = noProjections) : ∃ t : Table EventRow EventRow.key,
    t.rows = [eventRow mintDigest mint] ∧ recordEvent mintDigest plainStore mint false db =
      .ok { db with chainEvents := t, projections := mintTables } := by
  have hnew : ∀ r ∈ db.chainEvents.rows, r.key ≠ (eventRow mintDigest mint).key := by
    simp [hrows]
  obtain ⟨t, ht, htrows⟩ := Table.insert?_of_new hnew
  have hfind : db.chainEvents.find? (mint.blockHash, mint.logIndex) = none := by
    simp [Table.find?_none, hrows]
  have hchecks := checkAll_ok (u := ()).mpr mint_checks.1
  refine ⟨t, by rw [htrows, hrows, List.nil_append], ?_⟩
  simp only [recordEvent, hfind, insertEvent, hchecks, ok_bind, ht, applyToTables, hprojections,
    mint_applies]

theorem commitBatches_single {evidenceDigest : Evidence → String} {store : SqliteProjectionStore}
    {b : Batch} {db db' : Database} (h : commitBatch evidenceDigest store db b = .ok db') :
    commitBatches evidenceDigest store [b] db = .ok db' := by
  rw [commitBatches, List.foldlM_cons, h]
  rfl

theorem isRun_mint : mintBlocks.IsRun 5 [mintBlock] where
  names := by
    intro x hx
    obtain rfl := List.mem_singleton.mp hx
    exact ⟨rfl, lower_hex 64 0⟩
  numbers := rfl
  linked := .singleton _

theorem splits_mint : mintBlocks.Splits [mintBlock] [⟨[mintBlock], [mint], mintBlock⟩] where
  joined := rfl
  last := by
    intro b hb
    obtain rfl := List.mem_singleton.mp hb
    rfl
  events := by
    intro b hb
    obtain rfl := List.mem_singleton.mp hb
    simp [Blocks.batchEvents, mintBlocks, mintBlock, lower_hex, lowered_mint]

theorem refresh_mint {db : Database} (hblocks : db.indexedBlocks.rows = [])
    (hrows : db.chainEvents.rows = [eventRow mintDigest mint]) :
    requiresSourceRefresh mintDigest plainStore db = false := by
  simp [requiresSourceRefresh, hasSourceContentMismatch, hblocks, hrows, intactRow_eventRow,
    plainStore]

theorem reindex_mint (lost : Database) (hblocks : lost.indexedBlocks.rows = [])
    (hrows : lost.chainEvents.rows = [eventRow mintDigest mint]) :
    ∃ prepared rebuilt done,
      prepareForReindex mintDigest plainStore lost.scanStartBlock none lost = .ok prepared ∧
      rebuildFromJournal mintDigest plainStore "b" prepared = (.ok 0, rebuilt) ∧
      commitBatches mintDigest plainStore [⟨[mintBlock], [mint], mintBlock⟩] rebuilt =
        .ok done ∧ done.projections = noProjections := by
  obtain ⟨t, status, ht, hrewound⟩ := rewindFrom_eq plainStore lost.scanStartBlock lost
  rw [hblocks, List.map_nil] at ht
  have hprepare : prepareForReindex mintDigest plainStore lost.scanStartBlock none lost =
      .ok (rewindFrom plainStore lost.scanStartBlock lost) := by
    rw [prepareForReindex, refresh_mint hblocks hrows]
    rfl
  have hspine : Spine [] (rewindFrom plainStore lost.scanStartBlock lost) := by
    rw [hrewound]
    refine spine_nil ?_ ?_
    · simp [ht]
    · simp [previousBlock, ht]
  obtain ⟨c, status', hrebuild, _, hcurrent⟩ := rebuild_nil hspine plainStore "b"
  have hempty : (rewindFrom plainStore lost.scanStartBlock lost).indexedBlocks.rows = [] := by
    rw [hrewound]
    exact ht
  have hkept : (rewindFrom plainStore lost.scanStartBlock lost).chainEvents.rows =
      [eventRow mintDigest mint] := by
    rw [hrewound]
    exact hrows
  have hstatus : status'.projectionStatus ≠ .recoveryRequired := by
    rw [hcurrent rfl]
    decide
  obtain ⟨t', hcommit⟩ := commit_mint { rewindFrom plainStore lost.scanStartBlock lost with
    projections := noProjections, checkpoint := c, runtimeStatus := status' } hempty hstatus
  have hdone := hcommit _ (record_stored _ hkept)
  exact ⟨_, _, _, hprepare, hrebuild, commitBatches_single hdone, rfl⟩

/-- The block's row is lost and the mint's row is not: the reindex succeeds and
the tables stay empty. -/
theorem reindexed_mint : ∃ lost prepared rebuilt done,
    Reindexed mintDigest mintBlocks plainStore [mintBlock] [⟨[mintBlock], [mint], mintBlock⟩]
      lost prepared rebuilt done ∧
    lost.indexedBlocks.rows = [] ∧ lost.chainEvents.rows = [eventRow mintDigest mint] ∧
    requiresSourceRefresh mintDigest plainStore lost = false ∧
    done.projections = noProjections := by
  obtain ⟨t, hcommit⟩ := commit_mint (registered 5 "a" (hex 64 9)) rfl nofun
  obtain ⟨t', ht', hrecord⟩ := record_new { registered 5 "a" (hex 64 9) with indexedBlocks := t }
    rfl rfl
  have hingest := commitBatches_single (hcommit _ hrecord)
  obtain ⟨prepared, rebuilt, done, hprepare, hrebuild, hdone, htables⟩ := reindex_mint
    { registered 5 "a" (hex 64 9) with
      indexedBlocks := .empty _
      chainEvents := t'
      projections := mintTables
      checkpoint := { (registered 5 "a" (hex 64 9)).checkpoint with
        lastScanned := some (5, hex 64 1) } } rfl ht'
  refine ⟨_, prepared, rebuilt, done, ⟨isRun_mint, splits_mint, ?_, ⟨none, hprepare⟩,
    ⟨"b", 0, hrebuild⟩, hdone⟩, rfl, ht', refresh_mint rfl ht', htables⟩
  refine ⟨plainStore, _, "a", hex 64 9, _, splits_mint, ?_, hingest⟩
  exact ⟨rfl, rfl, List.nil_sublist _, List.Sublist.refl _⟩

/-- The mint of the lost block stays unapplied. -/
theorem reindex_leaves_mint : ∃ lost prepared rebuilt done,
    Reindexed mintDigest mintBlocks plainStore [mintBlock] [⟨[mintBlock], [mint], mintBlock⟩]
      lost prepared rebuilt done ∧
    applyEvents plainStore.collectionAddress (mintBlocks.batchEvents [mintBlock]) noProjections ≠
      .ok done.projections := by
  obtain ⟨lost, prepared, rebuilt, done, h, _, _, _, htables⟩ := reindexed_mint
  have hevents : mintBlocks.batchEvents [mintBlock] = [mint] := by
    simp [Blocks.batchEvents, mintBlocks, mintBlock, lower_hex]
  refine ⟨lost, prepared, rebuilt, done, h, ?_⟩
  rw [hevents, htables, applyEvents, List.foldlM_cons, mint_applies]
  intro heq
  exact mintTables_ne (Except.ok.inj heq)

theorem reindex_repairs_iff_mint : ∃ rebuilt done,
    ¬Repaired mintDigest mintBlocks plainStore [mintBlock] [⟨[mintBlock], [mint], mintBlock⟩]
      rebuilt done := by
  obtain ⟨lost, prepared, rebuilt, done, h, hblocks, hrows, hrefresh, _⟩ := reindexed_mint
  refine ⟨rebuilt, done, fun hrepaired => ?_⟩
  rcases (reindex_repairs_iff h).mp hrepaired with hr | hall
  · rw [hrefresh] at hr
    cases hr
  · obtain ⟨b, hb, _⟩ := hall (eventRow mintDigest mint) (by simp [hrows])
    rw [hblocks] at hb
    cases hb

end MotorCove.Indexer
