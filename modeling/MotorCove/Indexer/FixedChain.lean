import MotorCove.Indexer.CanonicalCoverage

/-!
# A chain that stands still

A block row keeps what its hash names, the timestamp of its header and the scope
it was scanned under. Read from a chain that no longer changes, the rows above a
first part of the canonical chain depend on their heights alone.
-/

set_option autoImplicit false

namespace MotorCove.Indexer
open MotorCove.Text MotorCove.Fallible MotorCove.Effects

/-- Each row has the timestamp that its hash names, and this scope. -/
def Stamped (timestamp : String → ℕ) (scope : String) (db : Database) : Prop :=
  ∀ b ∈ db.indexedBlocks.rows, b.blockTimestamp = timestamp b.blockHash ∧ b.logScopeHash = scope

def Stamps {σ : Type} (timestamp : String → ℕ) (reader : ChainReader σ) : Prop :=
  ∀ n header, Answers (reader.getBlock n) header →
    header.timestamp = timestamp (lower header.hash)

section
variable {evidenceDigest : Evidence → String} {store : SqliteProjectionStore} {db db' : Database}
  {timestamp : String → ℕ} {scope : String} {headers : List BlockHeader}
  {events : List OrderedEvent} {header : BlockHeader}

theorem commitHeader_stamped {state state' : Database × List String}
    (h : Stamped timestamp scope state.1) (hstore : store.logScopeHash = scope)
    (hheader : header.timestamp = timestamp (lower header.hash))
    (hstep : commitHeader evidenceDigest store events state header = .ok state') :
    Stamped timestamp scope state'.1 := by
  rcases commitHeader_ok hstep with ⟨_, _, _, _, hdb, _⟩ | ⟨_, _, _, _, _, hr⟩ | ⟨_, _, hi⟩
  · rw [hdb]
    exact h
  · obtain ⟨t, hdb, hrows⟩ := recanonicalize_ok hr
    intro c hc
    rw [hdb, show ({ state.1 with indexedBlocks := t } : Database).indexedBlocks = t from rfl,
      hrows] at hc
    obtain ⟨b, hb, rfl⟩ := List.mem_map.mp hc
    split
    · exact h b hb
    · exact h b hb
  · obtain ⟨_, t, hdb, hrows⟩ := insertBlock_ok hi
    intro c hc
    rw [hdb, show ({ state.1 with indexedBlocks := t } : Database).indexedBlocks = t from rfl,
      hrows] at hc
    rcases List.mem_append.mp hc with hc | hc
    · exact h c hc
    · obtain rfl := List.mem_singleton.mp hc
      exact ⟨hheader, hstore⟩

theorem commitHeaders_stamped {state state' : Database × List String}
    (h : Stamped timestamp scope state.1) (hstore : store.logScopeHash = scope)
    (hheaders : ∀ x ∈ headers, x.timestamp = timestamp (lower x.hash))
    (hrun : headers.foldlM (commitHeader evidenceDigest store events) state = .ok state') :
    Stamped timestamp scope state'.1 := by
  induction headers generalizing state with
  | nil =>
    cases hrun
    exact h
  | cons x rest ih =>
    rw [List.foldlM_cons] at hrun
    obtain ⟨state₁, hstep, hrest⟩ := bind_ok.mp hrun
    obtain ⟨hx, hall⟩ := List.forall_mem_cons.mp hheaders
    exact ih (commitHeader_stamped h hstore hx hstep) hall hrest

theorem commit_stamped (h : Stamped timestamp scope db) (hstore : store.logScopeHash = scope)
    (hheaders : ∀ x ∈ headers, x.timestamp = timestamp (lower x.hash)) :
    Stamped timestamp scope (commit evidenceDigest store headers events header db).2 := by
  rcases commit_cases (Prod.mk.eta (p := commit evidenceDigest store headers events header db)).symm
    with hcommit | ⟨status, hdb⟩
  · obtain ⟨db₁, rc, db₂, hrun, hevents, hdb⟩ := commitTransaction_ok hcommit
    have hstamped := commitHeaders_stamped h hstore hheaders hrun
    intro b hb
    rw [hdb] at hb
    apply hstamped
    rw [recordEvents_frame hevents] at hb
    exact hb
  · rw [hdb]
    exact h

end

section
variable {σ : Type} {evidenceDigest : Evidence → String} {store : SqliteProjectionStore}
  {reader : ChainReader σ} {db db' : Database} {timestamp : String → ℕ} {scope : String}
  {startBlock : ℕ} {maximumTarget : Option ℕ}

theorem Read.answers {first : ℕ} {headers : List BlockHeader} (h : Read reader first headers) :
    ∀ x ∈ headers, ∃ n, Answers (reader.getBlock n) x := by
  unfold Read at h
  generalize List.range' first headers.length = numbers at h
  induction h with
  | nil => simp
  | cons hx _ ih => exact List.forall_mem_cons.mpr ⟨⟨_, hx⟩, ih⟩

theorem Wrote.stamped
    (h : Wrote evidenceDigest store reader startBlock maximumTarget db db')
    (hstamps : Stamps timestamp reader) (hstore : store.logScopeHash = scope)
    (hdb : Stamped timestamp scope db) : Stamped timestamp scope db' := by
  cases h with
  | nothing heq =>
    rw [heq]
    exact hdb
  | @batch _ _ _ headers _ _ status _ _ _ hchecked heq =>
    have hheaders : ∀ x ∈ headers, x.timestamp = timestamp (lower x.hash) := by
      intro x hx
      obtain ⟨n, hn⟩ := hchecked.read.answers x hx
      exact hstamps n x hn
    have hstatus : Stamped timestamp scope (db.setStatus status) := hdb
    rw [heq]
    exact commit_stamped hstatus hstore hheaders

theorem Wrote.checkpoint
    (h : Wrote evidenceDigest store reader startBlock maximumTarget db db') :
    ∃ lastScanned, db'.checkpoint = { db.checkpoint with lastScanned } := by
  cases h with
  | nothing heq =>
    rw [heq]
    exact ⟨_, rfl⟩
  | batch _ _ _ heq =>
    rw [heq]
    exact (commit_kept _ _ _ _ _).2

theorem Wrote.logScopeHash
    (h : Wrote evidenceDigest store reader startBlock maximumTarget db db') :
    db'.checkpoint.logScopeHash = db.checkpoint.logScopeHash := by
  obtain ⟨_, hcheckpoint⟩ := h.checkpoint
  rw [hcheckpoint]

theorem Wrote.scanStartBlock
    (h : Wrote evidenceDigest store reader startBlock maximumTarget db db') :
    db'.scanStartBlock = db.scanStartBlock := by
  cases h with
  | nothing heq =>
    rw [heq]
    rfl
  | batch _ _ _ heq =>
    rw [heq]
    exact (commit_kept _ _ _ _ _).1

end

/-- The states of a store under the worker: calls of `ingestRange` on whatever
fork, with a store of the scope that the tables record. -/
inductive Ingested (evidenceDigest : Evidence → String) (B : Blocks) (timestamp : String → ℕ)
    (scanStartBlock : ℕ) : Database → Prop where
  | registered (projectionBuildId logScopeHash : String) :
      Ingested evidenceDigest B timestamp scanStartBlock
        (registered scanStartBlock projectionBuildId logScopeHash)
  | ingestRange {db : Database} {σ : Type} {reader : ChainReader σ}
      (h : Ingested evidenceDigest B timestamp scanStartBlock db) (hhonest : Honest B reader)
      (hstamps : Stamps timestamp reader) (store : SqliteProjectionStore)
      (hscope : db.checkpoint.logScopeHash = store.logScopeHash) (batchSize indexingDepth : ℕ)
      (maximumTarget : Option ℕ) (finality : Finality) (s : σ) :
      Ingested evidenceDigest B timestamp scanStartBlock
        (finalState (ingestRange evidenceDigest store reader batchSize scanStartBlock indexingDepth
          maximumTarget finality) ⟨s, db, []⟩).db
  | markStale {db : Database} (h : Ingested evidenceDigest B timestamp scanStartBlock db)
      (reason : String) :
      Ingested evidenceDigest B timestamp scanStartBlock (markStale reason db)

section
variable {evidenceDigest : Evidence → String} {B : Blocks} {timestamp : String → ℕ}
  {scanStartBlock : ℕ} {db : Database}

theorem markStale_eq (reason : String) (db : Database) :
    ∃ status, markStale reason db = db.setStatus status := by
  unfold markStale
  split
  · exact ⟨db.runtimeStatus, rfl⟩
  · exact ⟨_, rfl⟩

theorem Ingested.scanStartBlock_eq (h : Ingested evidenceDigest B timestamp scanStartBlock db) :
    db.scanStartBlock = scanStartBlock := by
  induction h with
  | registered => rfl
  | @ingestRange db _ reader _ _ _ store _ batchSize indexingDepth maximumTarget finality s ih =>
    exact (ingestRange_wrote evidenceDigest store reader batchSize scanStartBlock indexingDepth
      maximumTarget finality ⟨s, db, []⟩).scanStartBlock.trans ih
  | markStale _ reason ih =>
    obtain ⟨status, hdb⟩ := markStale_eq reason _
    rw [hdb]
    exact ih

theorem Ingested.projectorVersion_eq (h : Ingested evidenceDigest B timestamp scanStartBlock db) :
    db.checkpoint.projectorVersion = projectorVersion := by
  induction h with
  | registered => rfl
  | @ingestRange db _ reader _ _ _ store _ batchSize indexingDepth maximumTarget finality s ih =>
    obtain ⟨_, hcheckpoint⟩ := (ingestRange_wrote evidenceDigest store reader batchSize
      scanStartBlock indexingDepth maximumTarget finality ⟨s, db, []⟩).checkpoint
    rw [hcheckpoint]
    exact ih
  | markStale _ reason ih =>
    obtain ⟨status, hdb⟩ := markStale_eq reason _
    rw [hdb]
    exact ih

theorem Ingested.covered (h : Ingested evidenceDigest B timestamp scanStartBlock db) :
    ∃ chain, Covered evidenceDigest B chain db := by
  induction h with
  | registered => exact ⟨[], covered_registered _ _ _⟩
  | ingestRange h hhonest _ store _ batchSize indexingDepth maximumTarget finality s ih =>
    obtain ⟨chain, hchain⟩ := ih
    have hcovered := covered_ingestRange hhonest hchain store batchSize indexingDepth maximumTarget
      finality s
    rw [h.scanStartBlock_eq] at hcovered
    exact hcovered
  | markStale _ reason ih =>
    obtain ⟨chain, hchain⟩ := ih
    obtain ⟨status, hdb⟩ := markStale_eq reason _
    rw [hdb]
    exact ⟨chain, hchain.setStatus status⟩

theorem Ingested.stamped (h : Ingested evidenceDigest B timestamp scanStartBlock db) :
    Stamped timestamp db.checkpoint.logScopeHash db := by
  induction h with
  | registered =>
    intro b hb
    cases hb
  | @ingestRange db _ reader _ _ hstamps store hscope batchSize indexingDepth maximumTarget finality s
      ih =>
    have hwrote := ingestRange_wrote evidenceDigest store reader batchSize scanStartBlock
      indexingDepth maximumTarget finality ⟨s, db, []⟩
    rw [hwrote.logScopeHash]
    exact hwrote.stamped hstamps hscope.symm ih
  | markStale _ reason ih =>
    obtain ⟨status, hdb⟩ := markStale_eq reason _
    rw [hdb]
    exact ih

end

section
variable {evidenceDigest : Evidence → String} {B : Blocks} {timestamp : String → ℕ}
  {scope : String} {chain : List BlockRow} {store : SqliteProjectionStore} {db db' : Database}

variable (store db) in
theorem deleteSource_rows :
    (deleteSource store db).indexedBlocks.rows = [] ∧
      (deleteSource store db).scanStartBlock = db.scanStartBlock := by
  obtain ⟨status, heq⟩ := markReindexStarted_eq store "SOURCE_REFRESH_REINDEX_REQUESTED" _
  rw [deleteSource, heq]
  exact ⟨rfl, rfl⟩

/-- The tables below a block as they were, and nothing canonical above, once the
store's scope is the one asked for. -/
theorem prepareForReindex_take {blockNumber : ℕ} {verifiedBackupId : Option String}
    (h : Covered evidenceDigest B chain db)
    (hstamped : db.checkpoint.logScopeHash = scope → Stamped timestamp scope db)
    (hchanged : store.sourceScopeChanged = decide (db.checkpoint.logScopeHash ≠ scope))
    (hprepare : prepareForReindex evidenceDigest store blockNumber verifiedBackupId db = .ok db') :
    Covered evidenceDigest B (chain.take (blockNumber - db.scanStartBlock)) db' ∧
      Stamped timestamp scope db' ∧ db'.scanStartBlock = db.scanStartBlock := by
  unfold prepareForReindex at hprepare
  split at hprepare
  · simp only [failIf_bind_ok, Except.ok.injEq, ne_eq, not_not] at hprepare
    obtain ⟨_, rfl, rfl⟩ := hprepare
    obtain ⟨hrows, hstart⟩ := deleteSource_rows store db
    refine ⟨?_, fun b hb => ?_, hstart⟩
    · rw [Nat.sub_self, List.take_zero]
      exact covered_deleteSource store
    · rw [hrows] at hb
      cases hb
  · rename_i hrefresh
    obtain rfl := Except.ok.inj hprepare
    obtain ⟨t, status, hrows, heq⟩ := rewindFrom_eq store blockNumber db
    refine ⟨covered_rewindFrom h store blockNumber, fun c hc => ?_, by rw [heq]⟩
    have hsame : db.checkpoint.logScopeHash = scope := by
      by_contra hne
      exact hrefresh (by simp [requiresSourceRefresh, hchanged, hne])
    rw [heq, show ({ db with indexedBlocks := t, checkpoint := _, runtimeStatus := status } :
      Database).indexedBlocks = t from rfl, hrows] at hc
    obtain ⟨b, hb, rfl⟩ := List.mem_map.mp hc
    have hkept := hstamped hsame b hb
    unfold rewound
    split
    · exact hkept
    · exact hkept

/-- The transaction of a rebuild writes the projections, the contract columns and
the status. -/
theorem rebuildTransaction_ok {projectionBuildId : String} {preserve : Bool} {events : ℕ}
    (h : rebuildTransaction store projectionBuildId preserve db = .ok (events, db')) :
    ∃ p, (canonicalRows db).foldlM (applyRow store.collectionAddress) noProjections = .ok p ∧
      db' = { db with
        projections := p
        checkpoint := { db.checkpoint with
          projectorVersion := projectorVersion, projectionBuildId
          logScopeHash := store.logScopeHash }
        runtimeStatus := if preserve = true then db.runtimeStatus
          else { db.runtimeStatus with projectionStatus := .current, recoveryReason := none } } := by
  simp only [rebuildTransaction, bind_ok, Except.ok.injEq, Prod.mk.injEq] at h
  obtain ⟨p, happlied, _, rfl⟩ := h
  refine ⟨p, happlied, ?_⟩
  split <;> rfl

theorem rebuildTransaction_projected {projectionBuildId : String} {preserve : Bool} {events : ℕ}
    (h : Covered evidenceDigest B chain db)
    (hrebuild : rebuildTransaction store projectionBuildId preserve db = .ok (events, db')) :
    Projected evidenceDigest B store.collectionAddress chain db' ∧
      db'.indexedBlocks = db.indexedBlocks ∧ db'.scanStartBlock = db.scanStartBlock := by
  obtain ⟨p, happlied, rfl⟩ := rebuildTransaction_ok hrebuild
  rw [replay_rows h.grounded.canonicalRows_ordered] at happlied
  exact ⟨⟨h.of_eq rfl rfl rfl rfl, happlied⟩, rfl, rfl⟩

end

/-- A chain as it answers from now on. -/
structure FixedChain where
  block : ℕ → BlockHeader
  head : BlockHeader
  finalized : BlockHeader

def FixedChain.target (F : FixedChain) (finality : Finality) (indexingDepth : ℕ) : ℕ :=
  match finality with
  | .immediate => F.head.number - indexingDepth
  | .rpcFinalized => F.finalized.number

/-- Whatever a reader of the chain answers is the chain's. -/
structure FixedChain.Serves {σ : Type} (F : FixedChain) (B : Blocks) (timestamp : String → ℕ)
    (reader : ChainReader σ) : Prop extends Honest B reader where
  stamps : Stamps timestamp reader
  block : ∀ n header, Answers (reader.getBlock n) header → header = F.block n
  head : ∀ header, Answers reader.getHead header → header = F.head
  finalized : ∀ getFinalizedHead ∈ reader.getFinalizedHead, ∀ header,
    Answers getFinalizedHead header → header = F.finalized

def FixedChain.Holds (F : FixedChain) (target : ℕ) (added : List BlockRow) : Prop :=
  ∀ b ∈ added, b.blockHash = lower (F.block b.blockNumber).hash ∧ b.blockNumber ≤ target

def FixedChain.row (F : FixedChain) (evidenceDigest : Evidence → String) (B : Blocks)
    (timestamp : String → ℕ) (scope : String) (n : ℕ) : BlockRow :=
  let hash := lower (F.block n).hash
  { blockHash := hash
    blockNumber := n
    parentHash := B.parentHash hash
    blockTimestamp := timestamp hash
    isCanonical := true
    scanComplete := true
    logScopeHash := scope
    observedLogCount := (B.events hash).length
    observedLogDigest := observedLogDigest evidenceDigest ((B.events hash).map OrderedEvent.toEnvelope) }

section
variable {evidenceDigest : Evidence → String} {B : Blocks} {F : FixedChain}
  {timestamp : String → ℕ} {scope : String} {chain kept added added' : List BlockRow}
  {db db' : Database} {target : ℕ}

theorem FixedChain.Holds.append (h : F.Holds target added) (h' : F.Holds target added') :
    F.Holds target (added ++ added') :=
  List.forall_mem_append.mpr ⟨h, h'⟩

theorem FixedChain.Holds.take (h : F.Holds target added) (n : ℕ) :
    F.Holds target (added.take n) :=
  fun b hb => h b (List.mem_of_mem_take hb)

theorem FixedChain.row_eq (hcovered : Covered evidenceDigest B chain db)
    (hstamped : Stamped timestamp scope db) {b : BlockRow} (hb : b ∈ chain)
    (hhash : b.blockHash = lower (F.block b.blockNumber).hash) :
    F.row evidenceDigest B timestamp scope b.blockNumber = b := by
  obtain ⟨hrow, hcanonical⟩ := (hcovered.canonical b).mp hb
  have hnamed := hcovered.named b hrow
  obtain ⟨hstamp, hscope⟩ := hstamped b hrow
  simp only [FixedChain.row, ← hhash, ← hnamed.parentHash, ← hstamp, ← hnamed.count,
    ← hnamed.digest, ← hscope]
  have hscan := hnamed.scanComplete
  cases b with
  | mk _ _ _ _ canonical scan _ _ _ =>
    obtain rfl : canonical = true := hcanonical
    obtain rfl : scan = true := hscan
    rfl

theorem Spine.numbers_added (h : Spine (kept ++ added) db) :
    added.map BlockRow.blockNumber =
      List.range' (db.scanStartBlock + kept.length) added.length := by
  have hnumbers := h.numbers
  rw [List.map_append, List.length_append, ← List.range'_append_1] at hnumbers
  exact (List.append_inj hnumbers (by simp)).2

/-- Once the target is reached, what stands above a first part depends on that
part alone. -/
theorem FixedChain.added_eq (hcovered : Covered evidenceDigest B (kept ++ added) db)
    (hstamped : Stamped timestamp scope db) (hholds : F.Holds target added)
    (hreached : target < db.scanStartBlock + (kept ++ added).length) :
    added = (List.range' (db.scanStartBlock + kept.length)
      (target + 1 - (db.scanStartBlock + kept.length))).map
        (F.row evidenceDigest B timestamp scope) := by
  have hnumbers := hcovered.toSpine.numbers_added
  have hlength : added.length = target + 1 - (db.scanStartBlock + kept.length) := by
    rw [List.length_append] at hreached
    by_cases hempty : added.length = 0
    · omega
    · have hlast : db.scanStartBlock + kept.length + (added.length - 1) ∈
          added.map BlockRow.blockNumber := by
        rw [hnumbers, List.mem_range'_1]
        omega
      obtain ⟨b, hb, hn⟩ := List.mem_map.mp hlast
      have hle := (hholds b hb).2
      omega
  have hrows : added.map (fun b => F.row evidenceDigest B timestamp scope b.blockNumber) = added := by
    conv_rhs => rw [← List.map_id added]
    apply List.map_congr_left
    intro b hb
    exact FixedChain.row_eq hcovered hstamped (List.mem_append_right _ hb) (hholds b hb).1
  rw [← hlength, ← hnumbers, List.map_map]
  exact hrows.symm

end

section
variable {σ : Type} {evidenceDigest : Evidence → String} {B : Blocks} {F : FixedChain}
  {timestamp : String → ℕ} {chain : List BlockRow} {db db' : Database} {target : ℕ}
  {reader : ChainReader σ} {store : SqliteProjectionStore} {collectionAddress : String}

theorem FixedChain.Serves.projected (hserves : F.Serves B timestamp reader)
    (h : Projected evidenceDigest B collectionAddress chain db)
    (hstore : store.collectionAddress = collectionAddress)
    (hwrote : Wrote evidenceDigest store reader db.scanStartBlock (some target) db db') :
    ∃ added, F.Holds target added ∧
      Projected evidenceDigest B collectionAddress (chain ++ added) db' := by
  cases hwrote with
  | nothing hdb =>
    rw [hdb]
    exact ⟨[], nofun, (List.append_nil chain).symm ▸ h.setStatus _⟩
  | @batch previous span last headers events header status status' hcheckpoint hspan hchecked hdb =>
    have hprojected := h.setStatus status
    have hextends := hserves.extends hprojected.covered.grounded hcheckpoint hchecked
    obtain ⟨added, hadded, hafter⟩ := projected_commit hprojected hstore hextends hchecked.final
    refine ⟨added, fun b hb => ?_, hdb ▸ hafter.setStatus status'⟩
    obtain ⟨x, hx, hhash⟩ := hadded b hb
    obtain ⟨n, hn⟩ := hchecked.read.answers x hx
    have hrow := ((hafter.covered.canonical b).mp (List.mem_append_right _ hb)).1
    have hnumber : b.blockNumber = x.number := by
      rw [(hafter.covered.named b hrow).number, hhash, (hextends.names x hx).1]
    have hblock : x = F.block x.number := by
      rw [hserves.number n x hn]
      exact hserves.block n x hn
    constructor
    · rw [hnumber, ← hblock]
      exact hhash
    · have hmem : x.number ∈ headers.map BlockHeader.number := List.mem_map_of_mem hx
      rw [hserves.read_numbers hchecked.read, List.mem_range'_1, hchecked.length] at hmem
      have hupper := hchecked.upper
      have htarget := hspan target rfl
      omega

theorem FixedChain.Serves.target_ends (hserves : F.Serves B timestamp reader) (finality : Finality)
    (indexingDepth : ℕ) (w : World σ) :
    Ends (readProjectionTarget reader finality indexingDepth) w
      (fun observation _ => ∀ header ∈ observation.eligibleHead,
        header.number = F.target finality indexingDepth) fun _ _ => True := by
  unfold readProjectionTarget
  split
  · exact ends_throw.mpr trivial
  · rw [ends_bind]
    refine (call_went reader.getHead w).mono (fun observedHead w₁ h₁ => ?_) fun _ _ _ => trivial
    obtain rfl := hserves.head observedHead h₁.2
    cases finality with
    | immediate =>
      simp only
      split
      · exact ends_pure.mpr nofun
      · split
        · rename_i hdepth
          rw [hdepth]
          rw [ends_pure]
          rintro header ⟨⟩
          rfl
        · rw [ends_bind]
          refine (call_went _ w₁).mono (fun eligibleHead w₂ h₂ => ?_) fun _ _ _ => trivial
          rw [ends_pure]
          rintro header ⟨⟩
          exact hserves.number _ _ h₂.2
    | rpcFinalized =>
      simp only
      split
      · exact ends_throw.mpr trivial
      · rename_i getFinalizedHead hsome
        rw [ends_bind]
        refine (call_went _ w₁).mono (fun eligibleHead w₂ h₂ => ?_) fun _ _ _ => trivial
        obtain rfl := hserves.finalized getFinalizedHead hsome eligibleHead h₂.2
        split
        · exact ends_throw.mpr trivial
        · rw [ends_bind]
          refine (call_went _ w₂).mono (fun canonical w₃ h₃ => ?_) fun _ _ _ => trivial
          split
          · exact ends_throw.mpr trivial
          · rw [ends_pure]
            rintro header ⟨⟩
            rfl

end
end MotorCove.Indexer
