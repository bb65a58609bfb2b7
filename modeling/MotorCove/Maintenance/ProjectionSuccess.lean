import MotorCove.Indexer.CatchUp
import MotorCove.Maintenance.ProjectionAdmission

/-!
# When an admitted operation succeeds

On a calm host a rebuild succeeds exactly when the journal verifies and replays.
A reindex succeeds against a chain that stands still and is always answered for,
when the rows that it keeps are the chain's: its rewind leaves grounded tables,
their replay folds them, and each call of its loop scans further towards the
target.
-/

set_option autoImplicit false

namespace MotorCove.Maintenance
open MotorCove.Crashes MotorCove.Effects MotorCove.Fallible MotorCove.Histories MotorCove.Indexer
  MotorCove.Text
open MotorCove.Chain (Address Deployment VehicleNFT)

section
variable {σ : Type} {evidenceDigest : Evidence → String} {config : Config} {host : Host σ}
  {s : Site} {store : SqliteProjectionStore}

theorem holds_openStore_ok {options : ProjectionMaintenanceOptions}
    {P : SqliteProjectionStore → Site → Prop} {E : Failure String → Site → Prop}
    (h : SqliteProjectionStore.open config.nftAddress config.logScopeHash (fun _ => false)
      (some options) s.db = .ok store) (hP : P store s) :
    Holds (openStore config options) s P E := by
  refine holds_bind (holds_look ?_)
  rw [h]
  exact holds_pure hP

theorem holds_callStore_ok (hcalm : host.Calm) {call : StoreCall}
    {f : Database → Except StoreError Database} {db : Database} {P : Unit → Site → Prop}
    {E : Failure String → Site → Prop} (h : f s.db = .ok db) (hP : P () (s.called call db)) :
    Holds (callStore config host call f) s P E := by
  refine holds_bind (holds_look ?_)
  rw [h]
  exact holds_act_done hcalm.operation fun _ => hP

theorem holds_updateMarker_ok (hcalm : host.Calm) {f : MaintenanceMarker → MaintenanceMarker}
    {m : MaintenanceMarker} {P : Unit → Site → Prop} {E : Failure String → Site → Prop}
    (hm : s.currentMarker = some m)
    (hP : P () { s with currentMarker := some (f m), marker := some (f m) }) :
    Holds (updateMarker host f) s P E := by
  refine holds_bind (holds_look ?_)
  rw [hm]
  exact holds_bind (holds_setCurrentMarker (holds_act_done hcalm.operation fun _ => hP))

theorem holds_readStoreCheckpoint_ok {header : Option BlockHeader}
    {P : Option BlockHeader → Site → Prop} {E : Failure String → Site → Prop}
    (h : checkpoint s.db = .ok header) (hP : P header s) :
    Holds (readStoreCheckpoint config) s P E := by
  refine holds_bind (holds_look ?_)
  rw [h]
  exact holds_pure hP

theorem runRebuild_succeeds (hcalm : host.Calm) (operationType : OperationType)
    (barrier : Option (Option String)) {E : Failure String → Site → Prop}
    (hverified : verifyRebuildSource evidenceDigest s.db = .ok ()) {p : Projections}
    (hreplayed : (canonicalRows s.db).foldlM (applyRow store.collectionAddress) noProjections =
      .ok p) :
    Holds (runRebuild evidenceDigest config host store operationType barrier) s
      (fun _ s' => s'.currentMarker = s.currentMarker ∧ ∃ id events,
        rebuildTransaction store id (store.allowReindexRecovery && s.db.isBarred) s.db =
          .ok (events, s'.db)) E := by
  unfold runRebuild
  refine holds_bind (holds_randomUUID fun id => ?_)
  refine holds_bind (holds_look (holds_attempt (holds_bind (holds_look ?_))))
  rw [hverified]
  obtain ⟨result, hresult⟩ : ∃ result, rebuildTransaction store id
      (store.allowReindexRecovery && s.db.isBarred) s.db = .ok result := by
    unfold rebuildTransaction
    simp only [hreplayed, ok_bind]
    exact ⟨_, rfl⟩
  obtain ⟨events, db⟩ := result
  rw [hresult]
  exact holds_bind (holds_act_done hcalm.operation fun _ => holds_pure ⟨rfl, id, events, hresult⟩)

end

def Rebuildable (evidenceDigest : Evidence → String) (config : Config) (db : Database) : Prop :=
  (∃ store, SqliteProjectionStore.open config.nftAddress config.logScopeHash (fun _ => false)
      (some ⟨["0"], false, false⟩) db = .ok store) ∧
    verifyRebuildSource evidenceDigest db = .ok () ∧
    ∃ p, (canonicalRows db).foldlM (applyRow config.nftAddress) noProjections = .ok p

section
variable {σ : Type} {evidenceDigest : Evidence → String} {config : Config} {host : Host σ}
  {s : Site}

theorem rebuild_run_succeeds (hcalm : host.Calm) (h : Rebuildable evidenceDigest config s.db)
    (barrier : Option (Option String)) {E : Failure String → Site → Prop} :
    Holds ((rebuildOptions evidenceDigest config host).run barrier) s (fun _ _ => True) E := by
  obtain ⟨⟨store, hopen⟩, hverified, p, hreplayed⟩ := h
  refine holds_bind (holds_openStore_ok hopen ?_)
  rw [← (openStore_fields hopen).2.1] at hreplayed
  exact (runRebuild_succeeds hcalm _ _ hverified hreplayed).mono (fun _ _ _ => trivial)
    fun _ _ => id

theorem rebuild_run_fails (h : ¬Rebuildable evidenceDigest config s.db)
    (barrier : Option (Option String)) :
    Holds ((rebuildOptions evidenceDigest config host).run barrier) s (fun _ _ => False)
      fun _ _ => True := by
  refine holds_bind (holds_openStore (fun store hopen => ?_) fun _ => trivial)
  refine runRebuild_holds (C := fun _ => False) (J := fun _ => True) trivial (fun _ _ => trivial)
    (fun id events db hverified hrebuild => h ⟨⟨store, hopen⟩, hverified, ?_⟩) fun _ _ _ => trivial
  obtain ⟨p, hp, _⟩ := rebuildTransaction_ok hrebuild
  rw [(openStore_fields hopen).2.1] at hp
  exact ⟨p, hp⟩

theorem rebuild_succeeds_iff (hcalm : host.Calm) {admission : Admission}
    (hpasses : Holds (checkAdmission config host (rebuildOptions evidenceDigest config host))
      { s with currentMarker := none }
      (fun result s' => result = admission ∧ s' = { s with currentMarker := none })
      fun _ _ => False) :
    Attempt.Succeeds evidenceDigest config ⟨.rebuild, host⟩ s ↔
      Rebuildable evidenceDigest config s.db := by
  constructor
  · intro hsucceeds
    by_contra hunsound
    have hfails : Attempt.Fails evidenceDigest config ⟨.rebuild, host⟩ s := by
      refine runProjectionMaintenance_fails rebuild_resolves fun admission _ s' _ hdb _ => ?_
      exact rebuild_run_fails (hdb ▸ hunsound) admission.barrier
    have hboth := Holds.and hsucceeds hfails 0
    unfold Ends at hboth
    split at hboth
    · exact hboth.2
    · exact hboth.1
  · intro hsound
    refine rebuild_completes hcalm hpasses fun operationId => ?_
    refine rebuild_run_succeeds hcalm ?_ admission.barrier
    exact hsound

end

def OnChain (F : FixedChain) (chain : List BlockRow) : Prop :=
  ∀ b ∈ chain, b.blockHash = lower (F.block b.blockNumber).hash

/-- The deployment that the blocks run, as it is configured. -/
structure Deployed (d : Deployment) (render : Address → String) (B : Blocks) (config : Config) :
    Prop where
  lower_render : ∀ a, lower (render a) = address a
  collection : lower config.nftAddress = address d.nft
  executes : Executes d render B config.scanStartBlock
  batchSize : 1 ≤ config.batchSize

theorem Deployed.replays {d : Deployment} {render : Address → String} {B : Blocks}
    {config : Config} (hdeployed : Deployed d render B config)
    {evidenceDigest : Evidence → String} {chain : List BlockRow} {db : Database}
    (h : Grounded evidenceDigest B chain db) (hstart : db.scanStartBlock = config.scanStartBlock)
    {collectionAddress : String} (hcollection : lower collectionAddress = address d.nft) :
    ∃ p, (canonicalRows db).foldlM (applyRow collectionAddress) noProjections = .ok p := by
  obtain ⟨w, hruns⟩ := h.runs (hstart ▸ hdeployed.executes)
  obtain ⟨_, p, hp, _⟩ := hruns.shown hdeployed.lower_render hcollection
  exact ⟨p, (replay_rows h.canonicalRows_ordered collectionAddress noProjections).trans hp⟩

/-- A reader that answers every request from a chain that stands still. -/
structure Stands {σ : Type} (F : FixedChain) (B : Blocks) (config : Config)
    (reader : ChainReader σ) : Prop where
  honest : Honest B reader
  available : F.Available reader
  reachable : ¬reader.Unreachable
  linked : F.Linked B
  reaches : F.Reaches config.finality config.indexingDepth

structure Host.Archives {σ : Type} (host : Host σ) : Prop where
  backupEnvironment : ∀ turn, ∃ backupId, backupId ≠ "" ∧
    host.backupEnvironment turn = .ok backupId
  verifyMaintenanceBackup : ∀ turn, host.verifyMaintenanceBackup turn = .ok ()

section
variable {σ : Type} {evidenceDigest : Evidence → String} {config : Config} {host : Host σ}
  {s : Site} {store : SqliteProjectionStore} {F : FixedChain} {B : Blocks} {d : Deployment}
  {render : Address → String} {chain : List BlockRow} {db : Database} {target : ℕ}
  {header : Option BlockHeader}

structure Reached (evidenceDigest : Evidence → String) (F : FixedChain) (B : Blocks) (target : ℕ)
    (chain : List BlockRow) (db : Database) : Prop where
  grounded : Grounded evidenceDigest B chain db
  onChain : OnChain F chain
  reached : target < db.scanStartBlock + chain.length

theorem heightOf_eq (hgrounded : Grounded evidenceDigest B chain db)
    (hcheckpoint : checkpoint db = .ok header) (hne : chain ≠ []) :
    heightOf header = db.scanStartBlock + chain.length := by
  have hlast := checkpoint_ok hcheckpoint
  cases header with
  | none =>
    rw [hgrounded.checkpoint] at hlast
    exact absurd (List.getLast?_eq_none_iff.mp (Option.map_eq_none_iff.mp hlast)) hne
  | some c => exact (hgrounded.toSpine.checkpoint_number hlast).2

theorem heightOf_le (hcheckpoint : checkpoint db = .ok header) : heightOf header ≤ nextBlock db := by
  have hlast := checkpoint_ok hcheckpoint
  cases header with
  | none => exact Nat.zero_le _
  | some c =>
    rw [nextBlock, hlast]
    exact le_rfl

theorem reached_of_follows (hlinked : F.Linked B) (htarget : target ≤ F.head.number)
    (h : F.Follows evidenceDigest B store target db) (hscanned : target < nextBlock db) :
    ∃ chain, Reached evidenceDigest F B target chain db := by
  obtain ⟨chain, hfolded⟩ := h.folded
  have hspine := hfolded.grounded.toSpine
  have hhashes := h.hashes hlinked htarget hfolded.grounded
  rw [hspine.nextBlock_eq] at hscanned
  refine ⟨chain, hfolded.grounded, fun b hb => ?_, hscanned⟩
  obtain ⟨i, hi, rfl⟩ := List.getElem_of_mem hb
  have hget := congrArg (fun l => l[i]?) hhashes
  simp only [List.getElem?_map, List.getElem?_eq_getElem hi, Option.map_some] at hget
  rw [List.getElem?_range' hi, Option.map_some, Option.some.injEq] at hget
  rw [hget, hspine.number_getElem hi, one_mul]

theorem Reached.canonical (h : Reached evidenceDigest F B target chain db)
    (hlow : db.scanStartBlock ≤ target) {targetHash : String}
    (hhash : lower targetHash = lower (F.block target).hash) :
    hasCanonicalBlock target targetHash db = true := by
  obtain ⟨b, hb, hnumber⟩ := h.grounded.toSpine.exists_number hlow h.reached
  obtain ⟨hrow, hcanonical⟩ := h.grounded.canonical_iff.mpr hb
  have hsame : b.blockHash = lower targetHash := by
    rw [h.onChain b hb, hnumber, hhash]
  exact List.any_eq_true.mpr ⟨b, hrow, decide_eq_true ⟨hnumber, hsame, hcanonical⟩⟩

theorem Reached.completes (h : Reached evidenceDigest F B target chain db)
    (hlow : db.scanStartBlock ≤ target) (hallow : store.allowReindexRecovery = true)
    {targetHash : String} (hhash : lower targetHash = lower (F.block target).hash) :
    ∃ db', completeReindexRecovery store target targetHash db = .ok db' := by
  have hreached := h.reached
  unfold completeReindexRecovery
  rw [failIf_neg _ (by simp [hallow]), ok_bind]
  cases hlast : db.checkpoint.lastScanned with
  | none =>
    have hnil := h.grounded.checkpoint
    rw [hlast, eq_comm, Option.map_eq_none_iff, List.getLast?_eq_none_iff] at hnil
    rw [hnil, List.length_nil] at hreached
    omega
  | some last =>
    obtain ⟨number, hash⟩ := last
    have hnumber := (h.grounded.toSpine.checkpoint_number hlast).2
    have hcovered : ¬(number < target ∨ hasCanonicalBlock target targetHash db = false) := by
      rintro (hlt | hmissing)
      · omega
      · rw [h.canonical hlow hhash] at hmissing
        cases hmissing
    simp only [failIf_neg _ hcovered, ok_bind]
    exact ⟨_, rfl⟩

theorem rangeTarget_some {eligibleTarget : ℕ} (h : target ≤ eligibleTarget) :
    rangeTarget (some target) eligibleTarget = target := by
  unfold rangeTarget
  simp only
  split
  · rfl
  · omega

variable (hcalm : host.Calm) (hstands : Stands F B config host.chain)
  (hdeployed : Deployed d render B config) (hstore : ReindexStore config store)
  (hfault : ∀ point, store.commitFaultHook point = false)
  (htarget : target ≤ F.target config.finality config.indexingDepth)
  (hlow : config.scanStartBlock ≤ target)

include hcalm hstands hdeployed hstore hfault htarget

theorem runIngest_succeeds {E : Failure String → Site → Prop}
    (hfollows : F.Follows evidenceDigest B store target s.db)
    (hstart : s.db.scanStartBlock = config.scanStartBlock) :
    Holds (runIngest evidenceDigest config host store target) s
      (fun _ s' => F.Advances evidenceDigest B store target
        (F.target config.finality config.indexingDepth) s.db s'.db) E := by
  have hcollection : lower store.collectionAddress = address d.nft :=
    hstore.collection ▸ hdeployed.collection
  refine holds_perform_of (Q := fun result => result.1 = .ok () ∧ F.Advances evidenceDigest B store
    target (F.target config.finality config.indexingDepth) s.db result.2.db) (fun turn => ?_)
    (fun _ _ h => h.2) (fun _ _ h => nomatch h.1)
    (fun turn _ _ houtcome => absurd houtcome (by simp [hcalm.operation turn]))
    fun turn _ houtcome => absurd houtcome (by simp [hcalm.operation turn])
  have hingest := ingestRange_does hdeployed.lower_render hcollection hfault hstands.honest
    hstands.available hstands.linked hstands.reaches hdeployed.batchSize
    (rangeTarget_some htarget) (w := ⟨host.chainAt turn, s.db, []⟩)
    (hstart ▸ hdeployed.executes) hfollows
  rw [hstart] at hingest
  unfold Does Ends at hingest
  split at hingest
  · rename_i w hrun
    simp only [finalState, hrun]
    exact ⟨rfl, hingest⟩
  · exact absurd hingest.1.1 hstands.reachable

include hlow

theorem catchUpFrom_succeeds {before : Option BlockHeader} {E : Failure String → Site → Prop}
    (hfollows : F.Follows evidenceDigest B store target s.db)
    (hstart : s.db.scanStartBlock = config.scanStartBlock)
    (hbefore : checkpoint s.db = .ok before) :
    Holds (catchUpFrom evidenceDigest config host store target before) s
      (fun _ s' => F.Follows evidenceDigest B store target s'.db ∧ target < nextBlock s'.db ∧
        s'.db.scanStartBlock = config.scanStartBlock) E := by
  induction hn : target + 1 - heightOf before using Nat.strongRecOn generalizing before s with
  | ind n ih =>
    have hheight := heightOf_le hbefore
    rw [catchUpFrom]
    split
    · rename_i hreached
      exact holds_pure ⟨hfollows, hreached.trans_le hheight, hstart⟩
    · rename_i hbelow
      have hnext : nextBlock s.db ≤ target := by
        rw [nextBlock, checkpoint_ok hbefore]
        cases before with
        | none => exact hstart ▸ hlow
        | some c => exact Nat.le_of_not_lt hbelow
      refine holds_bind ((runIngest_succeeds hcalm hstands hdeployed hstore hfault htarget hfollows
        hstart).mono ?_ fun _ _ => id)
      intro _ s' hadvances
      have hstart' : s'.db.scanStartBlock = config.scanStartBlock := hadvances.start.trans hstart
      obtain ⟨chain, hfolded⟩ := hadvances.follows.folded
      obtain ⟨after, hafter⟩ := hfolded.grounded.checkpoint_exists
      refine holds_bind (holds_readStoreCheckpoint_ok hafter ?_)
      -- the call scanned a block, which the checkpoint shows
      have hgrown : heightOf before < heightOf after := by
        have hlt := hadvances.next hnext
        have hlength := hfolded.grounded.toSpine.nextBlock_eq
        have hle : s'.db.scanStartBlock ≤ nextBlock s.db := by
          obtain ⟨rows, hrows⟩ := hfollows.folded
          have hrows := hrows.grounded.toSpine.nextBlock_eq
          rw [hadvances.start]
          omega
        have hne : chain ≠ [] := by
          rintro rfl
          simp only [List.length_nil] at hlength
          omega
        rw [heightOf_eq hfolded.grounded hafter hne]
        omega
      split
      · exact ih _ (by omega) hadvances.follows hstart' hafter rfl
      · rename_i hstuck
        exact absurd hgrown hstuck

theorem catchUpToReindexTarget_succeeds {E : Failure String → Site → Prop}
    (hfolded : Folded evidenceDigest B store.collectionAddress chain s.db)
    (honChain : OnChain F chain) (hscoped : Scoped store.logScopeHash s.db)
    (hscans : store.Scans s.db.runtimeStatus.projectionStatus)
    (hstart : s.db.scanStartBlock = config.scanStartBlock) :
    Holds (catchUpToReindexTarget evidenceDigest config host store target) s
      (fun _ s' => s'.db.scanStartBlock = config.scanStartBlock ∧
        ∃ chain', Reached evidenceDigest F B target chain' s'.db) E := by
  obtain ⟨before, hbefore⟩ := hfolded.grounded.checkpoint_exists
  refine holds_bind (holds_readStoreCheckpoint_ok hbefore ?_)
  by_cases hreached : target < heightOf before
  · rw [catchUpFrom, dif_pos hreached]
    have hne : chain ≠ [] := by
      rintro rfl
      have hlast := hfolded.grounded.checkpoint
      rw [checkpoint_ok hbefore] at hlast
      cases before with
      | none => exact absurd hreached (Nat.not_lt_zero _)
      | some c => cases hlast
    rw [heightOf_eq hfolded.grounded hbefore hne] at hreached
    exact holds_pure ⟨hstart, chain, hfolded.grounded, honChain, hreached⟩
  · have hfollows : F.Follows evidenceDigest B store target s.db := by
      refine ⟨⟨chain, hfolded⟩, hscoped, hscans, fun number hash hlast => ?_⟩
      have hbelow : number ≤ target := by
        have hscanned := (checkpoint_ok hbefore).symm.trans hlast
        cases before with
        | none => cases hscanned
        | some c =>
          obtain ⟨rfl, _⟩ := Prod.mk.inj (Option.some.inj hscanned)
          simp only [heightOf, Option.map_some, Option.getD_some] at hreached
          omega
      rw [hfolded.grounded.checkpoint] at hlast
      obtain ⟨b, hb, hpair⟩ := Option.map_eq_some_iff.mp hlast
      obtain ⟨rfl, rfl⟩ := Prod.mk.inj hpair
      exact ⟨hbelow, honChain b (List.mem_of_getLast? hb)⟩
    refine (catchUpFrom_succeeds hcalm hstands hdeployed hstore hfault htarget hlow hfollows
      hstart hbefore).mono ?_ fun _ _ => id
    rintro _ s' ⟨hfollows', hscanned, hstart'⟩
    have hhead := hstands.linked.target_le config.finality config.indexingDepth
    exact ⟨hstart', reached_of_follows hstands.linked (htarget.trans hhead) hfollows' hscanned⟩

theorem replay_succeeds {E : Failure String → Site → Prop} (marker : MaintenanceMarker)
    {m : MaintenanceMarker} {targetHash : String} (hm : s.currentMarker = some m)
    (hhash : lower targetHash = lower (F.block target).hash)
    (hgrounded : Grounded evidenceDigest B chain s.db) (honChain : OnChain F chain)
    (hrows : ∀ b ∈ s.db.indexedBlocks.rows, b.logScopeHash = config.logScopeHash)
    (hstart : s.db.scanStartBlock = config.scanStartBlock) (barrier : Option (Option String)) :
    Holds (do
      let events ← runRebuild evidenceDigest config host store .reindexProjection barrier
      updateMarker host fun m => { m with projectionPhase := some .catchingUp }
      catchUpToReindexTarget evidenceDigest config host store target
      let checkpoint ← readStoreCheckpoint config
      let reached ← look fun s => hasCanonicalBlock target targetHash s.db
      refuseIf (¬target < heightOf checkpoint ∨ reached = false) "REINDEX_CATCHUP_INCOMPLETE"
      callStore config host (.completeReindexRecovery marker)
        (completeReindexRecovery store target targetHash)
      pure events) s (fun _ _ => True) E := by
  have hcollection : lower store.collectionAddress = address d.nft :=
    hstore.collection ▸ hdeployed.collection
  obtain ⟨p, hp⟩ := hdeployed.replays hgrounded hstart hcollection
  refine holds_bind ((runRebuild_succeeds hcalm _ barrier (verifyRebuildSource_ok hgrounded)
    hp).mono ?_ fun _ _ => id)
  rintro events s₁ ⟨hm₁, projectionBuildId, _, hrebuild⟩
  obtain ⟨p₁, happlied, hdb₁⟩ := rebuildTransaction_ok hrebuild
  rw [replay_rows hgrounded.canonicalRows_ordered] at happlied
  have hfolded : Folded evidenceDigest B store.collectionAddress chain s₁.db := by
    rw [hdb₁]
    exact ⟨hgrounded.of_eq rfl rfl rfl rfl, happlied⟩
  have hscoped : Scoped store.logScopeHash s₁.db := by
    rw [hdb₁]
    refine ⟨fun b hb => ?_, rfl⟩
    rw [hstore.scope]
    exact hrows b hb
  have hscans : store.Scans s₁.db.runtimeStatus.projectionStatus := by
    rw [hdb₁]
    show store.Scans (if _ then _ else _ : RuntimeStatus).projectionStatus
    split
    · rename_i hpreserve
      exact .inr ⟨isBarred_iff.mp (Bool.and_eq_true_iff.mp hpreserve).2, hstore.allow⟩
    · exact .inl (.inr (.inr (.inl rfl)))
  have hstart₁ : s₁.db.scanStartBlock = config.scanStartBlock := by
    rw [hdb₁]
    exact hstart
  refine holds_bind (holds_updateMarker_ok hcalm (hm₁.trans hm) ?_)
  have hcaught := fun marker => catchUpToReindexTarget_succeeds hcalm hstands hdeployed hstore hfault
    htarget hlow (s := ⟨s₁.db, marker, marker, s₁.calls⟩) (E := E) hfolded honChain hscoped hscans
    hstart₁
  refine holds_bind ((hcaught _).mono ?_ fun _ _ => id)
  rintro _ s₂ ⟨hstart₂, chain', hreached⟩
  have hlow₂ : s₂.db.scanStartBlock ≤ target := hstart₂ ▸ hlow
  obtain ⟨header, hheader⟩ := hreached.grounded.checkpoint_exists
  have hheight : target < heightOf header := by
    have hbelow := hreached.reached
    rw [heightOf_eq hreached.grounded hheader]
    · exact hbelow
    · rintro rfl
      rw [List.length_nil] at hbelow
      omega
  obtain ⟨db', hcompleted⟩ := hreached.completes hlow₂ hstore.allow hhash
  refine holds_bind (holds_readStoreCheckpoint_ok hheader (holds_bind (holds_look ?_)))
  refine holds_bind (holds_refuseIf (fun _ => ?_) fun hnot => ?_)
  · exact holds_bind (holds_callStore_ok hcalm hcompleted (holds_pure trivial))
  · rcases hnot with hbelow | hmissing
    · exact absurd hheight hbelow
    · rw [hreached.canonical hlow₂ hhash] at hmissing
      cases hmissing

end

/-- What is left of a reindex from these tables, by the phase of its marker: the
catch-up, a refresh from the scan start, or a rewind to rows of the chain. -/
inductive Regrows (evidenceDigest : Evidence → String) (config : Config) (B : Blocks)
    (F : FixedChain) (fromBlock : ℕ) (store : SqliteProjectionStore) (db : Database) :
    Option ProjectionPhase → Prop where
  | catchingUp {chain : List BlockRow} (hgrounded : Grounded evidenceDigest B chain db)
      (honChain : OnChain F chain)
      (hrows : ∀ b ∈ db.indexedBlocks.rows, b.logScopeHash = config.logScopeHash) :
      Regrows evidenceDigest config B F fromBlock store db (some .catchingUp)
  | refreshed {phase : Option ProjectionPhase} (hphase : phase ≠ some .catchingUp)
      (hrefresh : requiresSourceRefresh evidenceDigest store db = true)
      (hfull : fromBlock = config.scanStartBlock) :
      Regrows evidenceDigest config B F fromBlock store db phase
  | rewound {phase : Option ProjectionPhase} (hphase : phase ≠ some .catchingUp)
      (hrefresh : requiresSourceRefresh evidenceDigest store db = false)
      {chain : List BlockRow} (hbelow : GroundedBelow evidenceDigest B fromBlock chain db)
      (honChain : OnChain F chain)
      (hrows : ∀ b ∈ db.indexedBlocks.rows, b.logScopeHash = config.logScopeHash) :
      Regrows evidenceDigest config B F fromBlock store db phase

/-- The store opens for the reindex, and the rest of it can be done. -/
def Recoverable (evidenceDigest : Evidence → String) (config : Config) (B : Blocks)
    (F : FixedChain) (fromBlock : ℕ) (phase : Option ProjectionPhase) (db : Database) : Prop :=
  db.scanStartBlock = config.scanStartBlock ∧ ∃ store,
    SqliteProjectionStore.open config.nftAddress config.logScopeHash (fun _ => false)
      (some ⟨["0"], decide (fromBlock = config.scanStartBlock), true⟩) db = .ok store ∧
    Regrows evidenceDigest config B F fromBlock store db phase

section
variable {σ : Type} {evidenceDigest : Evidence → String} {config : Config} {host : Host σ}
  {s : Site} {store : SqliteProjectionStore} {F : FixedChain} {B : Blocks} {d : Deployment}
  {render : Address → String} {db : Database} {target fromBlock : ℕ}
  {phase : Option ProjectionPhase} {m : MaintenanceMarker}

theorem open_faults {collectionAddress logScopeHash : String} {hook : CommitFaultPoint → Bool}
    {maintenance : Option ProjectionMaintenanceOptions}
    (h : SqliteProjectionStore.open collectionAddress logScopeHash hook maintenance db = .ok store) :
    store.commitFaultHook = hook := by
  simp only [SqliteProjectionStore.open, failIf_bind_ok, Except.ok.injEq] at h
  rw [← h.2]

theorem Regrows.prepares (h : Regrows evidenceDigest config B F fromBlock store db phase)
    (hphase : phase ≠ some .catchingUp) (hstart : db.scanStartBlock = config.scanStartBlock)
    {verifiedBackupId : Option String}
    (harchive : requiresSourceRefresh evidenceDigest store db = true →
      verifiedBackupId.getD "" ≠ "") :
    ∃ db', prepareForReindex evidenceDigest store fromBlock verifiedBackupId db = .ok db' ∧
      (∃ chain, Grounded evidenceDigest B chain db' ∧ OnChain F chain) ∧
      (∀ b ∈ db'.indexedBlocks.rows, b.logScopeHash = config.logScopeHash) ∧
      db'.scanStartBlock = config.scanStartBlock := by
  cases h with
  | catchingUp => exact absurd rfl hphase
  | refreshed _ hrefresh hfull =>
    obtain ⟨hrows, hkept⟩ := deleteSource_rows store db
    refine ⟨deleteSource store db, ?_, ⟨[], (covered_deleteSource store).grounded, nofun⟩, ?_,
      hkept.trans hstart⟩
    · rw [prepareForReindex, if_pos hrefresh, failIf_neg _ (harchive hrefresh), ok_bind,
        failIf_neg _ (not_not.mpr (hstart.trans hfull.symm)), ok_bind]
    · rw [hrows]
      exact nofun
  | rewound _ hrefresh hbelow honChain hrows =>
    refine ⟨rewindFrom store fromBlock db, ?_, ⟨_, hbelow.rewindFrom store, honChain⟩, ?_, ?_⟩
    · rw [prepareForReindex, if_neg (by simp [hrefresh])]
    · obtain ⟨t, status, ht, hdb⟩ := rewindFrom_eq store fromBlock db
      intro b hb
      rw [hdb] at hb
      obtain ⟨c, hc, rfl⟩ := List.mem_map.mp (ht ▸ hb)
      unfold Indexer.rewound
      split
      · exact hrows c hc
      · exact hrows c hc
    · obtain ⟨t, status, _, hdb⟩ := rewindFrom_eq store fromBlock db
      rw [hdb]
      exact hstart

theorem Regrows.prepare_succeeds (h : Regrows evidenceDigest config B F fromBlock store db phase)
    (hcalm : host.Calm) (hphase : phase ≠ some .catchingUp)
    (hstart : db.scanStartBlock = config.scanStartBlock) {E : Failure String → Site → Prop}
    {rest : Operation ℕ}
    (hrest : ∀ (s : Site) (m : MaintenanceMarker), s.currentMarker = some m →
      (∃ chain, Grounded evidenceDigest B chain s.db ∧ OnChain F chain) →
      (∀ b ∈ s.db.indexedBlocks.rows, b.logScopeHash = config.logScopeHash) →
      s.db.scanStartBlock = config.scanStartBlock → Holds rest s (fun _ _ => True) E)
    (hm : s.currentMarker = some m) (hdb : s.db = db) {verifiedBackupId : Option String}
    (harchive : requiresSourceRefresh evidenceDigest store db = true →
      verifiedBackupId.getD "" ≠ "") :
    Holds (do
      updateMarker host fun m => { m with projectionPhase := some .preparing }
      callStore config host (.prepareForReindex fromBlock)
        (prepareForReindex evidenceDigest store fromBlock verifiedBackupId)
      rest) s (fun _ _ => True) E := by
  obtain ⟨db', hprepared, hchain, hrows, hstart'⟩ := h.prepares hphase hstart harchive
  rw [← hdb] at hprepared
  exact holds_bind (holds_updateMarker_ok hcalm hm (holds_bind
    (holds_callStore_ok hcalm hprepared (hrest _ _ rfl hchain hrows hstart'))))

theorem archiveSource_succeeds (hcalm : host.Calm) (harchives : host.Archives)
    {E : Failure String → Site → Prop} (hm : s.currentMarker = some m) (marker : MaintenanceMarker) :
    Holds (archiveSource host marker) s (fun backupId s' => backupId ≠ "" ∧ s'.db = s.db ∧
      ∃ m', s'.currentMarker = some m') E := by
  unfold archiveSource
  split
  · rename_i backupId hnonEmpty
    have hne : backupId ≠ "" := by
      obtain ⟨_, hguard⟩ := Option.filter_eq_some_iff.mp hnonEmpty
      simpa using hguard
    exact holds_bind (holds_ask_ok harchives.verifyMaintenanceBackup
      (holds_pure ⟨hne, rfl, m, hm⟩))
  · refine holds_bind (holds_ask (fun turn backupId hanswer => ?_) fun turn failure hfailure => ?_)
    · obtain ⟨archived, hne, hback⟩ := harchives.backupEnvironment turn
      rw [hback] at hanswer
      obtain rfl := Except.ok.inj hanswer
      refine holds_bind (holds_ask_ok harchives.verifyMaintenanceBackup ?_)
      exact holds_bind (holds_updateMarker_ok hcalm hm (holds_pure ⟨hne, rfl, _, rfl⟩))
    · obtain ⟨_, _, hback⟩ := harchives.backupEnvironment turn
      rw [hback] at hfailure
      cases hfailure

/-- The run succeeds from tables of the chain, on the way to a target of the chain. -/
theorem reindex_run_succeeds (hcalm : host.Calm) (harchives : host.Archives)
    (hstands : Stands F B config host.chain) (hdeployed : Deployed d render B config)
    {targetBlock targetHash : String} (hm : s.currentMarker = some m)
    (hblock : m.targetBlock = some targetBlock) (hhash : m.targetHash = some targetHash)
    (htarget : value targetBlock.toList ≤ F.target config.finality config.indexingDepth)
    (hlow : config.scanStartBlock ≤ value targetBlock.toList)
    (hsame : lower targetHash = lower (F.block (value targetBlock.toList)).hash)
    (h : Recoverable evidenceDigest config B F fromBlock m.projectionPhase s.db)
    (barrier : Option (Option String)) {E : Failure String → Site → Prop} :
    Holds ((reindexOptions evidenceDigest config host fromBlock).run barrier) s
      (fun _ _ => True) E := by
  obtain ⟨hstart, store, hopen, hregrows⟩ := h
  have hstore := (reindexOpened_of_open hopen).toReindexStore
  have hfault : ∀ point, store.commitFaultHook point = false := by
    rw [open_faults hopen]
    exact fun _ => rfl
  refine holds_bind (holds_look ?_)
  rw [hm]
  simp only [hblock, hhash]
  refine holds_bind (holds_openStore_ok hopen ?_)
  have hreplay := fun (s' : Site) (m' : MaintenanceMarker) (hm' : s'.currentMarker = some m')
      (hchain : ∃ chain, Grounded evidenceDigest B chain s'.db ∧ OnChain F chain) hrows hstart' =>
    hchain.elim fun _ hrest =>
      replay_succeeds hcalm hstands hdeployed hstore hfault htarget hlow (E := E) m hm' hsame
        hrest.1 hrest.2 hrows hstart' barrier
  by_cases hphase : m.projectionPhase = some .catchingUp
  · rw [hphase] at hregrows
    rw [if_pos (by simp [hphase])]
    cases hregrows with
    | catchingUp hgrounded honChain hrows =>
      exact hreplay s m hm ⟨_, hgrounded, honChain⟩ hrows hstart
    | refreshed hne => exact absurd rfl hne
    | rewound hne => exact absurd rfl hne
  · rw [if_neg (by simp [hphase])]
    refine holds_bind (holds_look ?_)
    split
    · refine holds_bind ((archiveSource_succeeds hcalm harchives hm m).mono ?_ fun _ _ => id)
      rintro backupId s₁ ⟨hne, hdb₁, m₁, hm₁⟩
      exact holds_bind (holds_pure (hregrows.prepare_succeeds hcalm hphase hstart hreplay hm₁ hdb₁
        fun _ => hne))
    · rename_i hrefresh
      exact holds_bind (holds_pure (hregrows.prepare_succeeds hcalm hphase hstart hreplay hm rfl
        fun h => absurd h hrefresh))

end
end MotorCove.Maintenance
