import MotorCove.Indexer.Digest
import MotorCove.Indexer.IndexerLoop
import MotorCove.Maintenance.ProjectionSuccess

/-!
# What attempts keep of an ingested environment

Tables that ingestion left stay covered and of the deployment's scope under every
rebuild and reindex, cut anywhere. From them a rebuild replays, and a reindex can
be done again on any chain that has the rows it keeps.
-/

set_option autoImplicit false

namespace MotorCove.Maintenance
open MotorCove.Crashes MotorCove.Effects MotorCove.Fallible MotorCove.Histories MotorCove.Indexer
  MotorCove.Text
open MotorCove.Chain (Address Deployment)

/-- Tables of the configured deployment, as its ingestion leaves them. -/
structure Healthy (evidenceDigest : Evidence → String) (B : Blocks) (timestamp : String → ℕ)
    (config : Config) (db : Database) : Prop where
  covered : ∃ chain, Covered evidenceDigest B chain db
  stamped : Stamped timestamp config.logScopeHash db
  scanStartBlock : db.scanStartBlock = config.scanStartBlock
  logScopeHash : db.checkpoint.logScopeHash = config.logScopeHash
  projectorVersion : db.checkpoint.projectorVersion = projectorVersion

section
variable {evidenceDigest : Evidence → String} {B : Blocks} {timestamp : String → ℕ}
  {config : Config} {db db' : Database} {store : SqliteProjectionStore}

theorem healthy_of_ingested (h : Ingested evidenceDigest B timestamp config.scanStartBlock db)
    (hscope : db.checkpoint.logScopeHash = config.logScopeHash) :
    Healthy evidenceDigest B timestamp config db :=
  ⟨h.covered, hscope ▸ h.stamped, h.scanStartBlock_eq, hscope, h.projectorVersion_eq⟩

namespace Healthy

theorem setStatus (h : Healthy evidenceDigest B timestamp config db) (status : RuntimeStatus) :
    Healthy evidenceDigest B timestamp config (db.setStatus status) := by
  obtain ⟨chain, hcovered⟩ := h.covered
  exact ⟨⟨chain, hcovered.setStatus status⟩, h.stamped, h.scanStartBlock, h.logScopeHash,
    h.projectorVersion⟩

theorem prepared (h : Healthy evidenceDigest B timestamp config db) {fromBlock : ℕ}
    (hopened : ReindexOpened config fromBlock store db) {verifiedBackupId : Option String}
    (hprepare : prepareForReindex evidenceDigest store fromBlock verifiedBackupId db = .ok db') :
    Healthy evidenceDigest B timestamp config db' := by
  obtain ⟨chain, hcovered⟩ := h.covered
  obtain ⟨hcovered', hstamped', hstart⟩ :=
    prepareForReindex_take hcovered (fun _ => h.stamped) hopened.changed hprepare
  obtain ⟨lastScanned, hcheckpoint⟩ : ∃ lastScanned,
      db'.checkpoint = { db.checkpoint with lastScanned } := by
    unfold prepareForReindex at hprepare
    split at hprepare
    · simp only [failIf_bind_ok, Except.ok.injEq] at hprepare
      obtain ⟨_, _, rfl⟩ := hprepare
      obtain ⟨status, hdb⟩ := markReindexStarted_eq store "SOURCE_REFRESH_REINDEX_REQUESTED" _
      rw [deleteSource, hdb]
      exact ⟨none, rfl⟩
    · obtain rfl := Except.ok.inj hprepare
      obtain ⟨t, status, _, hdb⟩ := rewindFrom_eq store fromBlock db
      rw [hdb]
      exact ⟨_, rfl⟩
  refine ⟨⟨_, hcovered'⟩, hstamped', hstart.trans h.scanStartBlock, ?_, ?_⟩
  · rw [hcheckpoint]
    exact h.logScopeHash
  · rw [hcheckpoint]
    exact h.projectorVersion

theorem rebuilt (h : Healthy evidenceDigest B timestamp config db)
    (hscope : store.logScopeHash = config.logScopeHash) {projectionBuildId : String}
    {preserve : Bool} {events : ℕ}
    (hrebuild : rebuildTransaction store projectionBuildId preserve db = .ok (events, db')) :
    Healthy evidenceDigest B timestamp config db' := by
  obtain ⟨chain, hcovered⟩ := h.covered
  obtain ⟨hprojected, _, _⟩ := rebuildTransaction_projected hcovered hrebuild
  obtain ⟨p, _, rfl⟩ := rebuildTransaction_ok hrebuild
  exact ⟨⟨chain, hprojected.covered⟩, h.stamped, h.scanStartBlock, hscope, rfl⟩

theorem ingested {σ : Type} {reader : ChainReader σ}
    (h : Healthy evidenceDigest B timestamp config db) (hhonest : Honest B reader)
    (hstamps : Stamps timestamp reader) (hscope : store.logScopeHash = config.logScopeHash)
    (target : ℕ) (t : σ) :
    Healthy evidenceDigest B timestamp config (finalState (ingestRange evidenceDigest store reader
      config.batchSize config.scanStartBlock config.indexingDepth (some target) config.finality)
      ⟨t, db, []⟩).db := by
  obtain ⟨chain, hcovered⟩ := h.covered
  have hcovered' := covered_ingestRange hhonest hcovered store config.batchSize config.indexingDepth
    (some target) config.finality t
  rw [h.scanStartBlock] at hcovered'
  have hwrote := ingestRange_wrote evidenceDigest store reader config.batchSize
    config.scanStartBlock config.indexingDepth (some target) config.finality ⟨t, db, []⟩
  obtain ⟨_, hcheckpoint⟩ := hwrote.checkpoint
  refine ⟨hcovered', hwrote.stamped hstamps hscope h.stamped,
    hwrote.scanStartBlock.trans h.scanStartBlock, ?_, ?_⟩
  · rw [hcheckpoint]
    exact h.logScopeHash
  · rw [hcheckpoint]
    exact h.projectorVersion

end Healthy
end

section
variable {σ : Type} {evidenceDigest : Evidence → String} {B : Blocks} {timestamp : String → ℕ}
  {config : Config} {host : Host σ} {fromBlock : ℕ} {s : Site}

theorem healthy_steps (hhonest : Honest B host.chain) (hstamps : Stamps timestamp host.chain) :
    ReindexSteps evidenceDigest config host fromBlock (fun _ => True)
      (fun s => Healthy evidenceDigest B timestamp config s.db)
      (fun s => Healthy evidenceDigest B timestamp config s.db)
      (fun s => Healthy evidenceDigest B timestamp config s.db)
      (fun s => Healthy evidenceDigest B timestamp config s.db)
      fun s => Healthy evidenceDigest B timestamp config s.db := by
  constructor
  case ofA => exact fun _ => id
  case ofB => exact fun _ => id
  case ofC => exact fun _ => id
  case resumed => exact fun _ _ h _ _ => h
  case archived => exact fun _ _ _ h _ => ⟨h, h⟩
  case preparing => exact fun _ _ h _ _ => ⟨h, h⟩
  case prepared => exact fun _ _ _ _ h hopened hprepare => h.prepared hopened hprepare
  case rebuilt => exact fun _ _ _ _ _ _ hstore h _ hrebuild => h.rebuilt hstore.scope hrebuild
  case rebuildFailed => exact fun _ _ h => h.setStatus _
  case catchingUp => exact fun _ _ h _ => ⟨h, h⟩
  case ingested =>
    intro store m targetBlock hstore _ _ turn s h
    refine ⟨h.ingested hhonest hstamps hstore.scope _ _, ?_⟩
    obtain ⟨status, hdb⟩ := ingestToObservation_eq host.chain config.batchSize
      config.indexingDepth config.finality ⟨host.chainAt turn, s.db, []⟩
    rw [hdb]
    exact h.setStatus status
  case completed =>
    intro s store m targetBlock targetHash header db _ h _ _ _ _ _ _ hcompleted
    obtain ⟨status, hdb⟩ := completeReindexRecovery_eq hcompleted
    rw [hdb]
    exact ⟨h.setStatus status, h.setStatus status⟩

theorem healthy_carries {α : Type} {options : ProjectionOptions α}
    {R : Option MaintenanceMarker → ProjectionRecovery → Prop}
    (h : Healthy evidenceDigest B timestamp config s.db)
    (hrun : ∀ barrier s m, Healthy evidenceDigest B timestamp config s.db →
      s.currentMarker = some m →
      Holds (options.run barrier) s (fun _ s' => Healthy evidenceDigest B timestamp config s'.db)
        fun _ s' => Healthy evidenceDigest B timestamp config s'.db) :
    Carries config options R s (fun s => Healthy evidenceDigest B timestamp config s.db)
      fun s => Healthy evidenceDigest B timestamp config s.db where
  start := h
  prepared := fun _ _ _ => h
  written := fun _ _ hs _ => hs
  failed := fun _ _ _ _ hs _ _ => hs
  activated := fun _ _ hs _ => hs
  raised := fun s reason hs => by
    obtain ⟨status, hdb⟩ := barAgain_eq reason s.db
    show Healthy evidenceDigest B timestamp config (barAgain reason s.db)
    rw [hdb]
    exact hs.setStatus status
  run := fun _ _ _ _ hs _ _ hcurrent => hrun _ _ _ hs hcurrent
  ran := fun _ => id
  cleared := fun _ => id

theorem rebuild_healthy (h : Healthy evidenceDigest B timestamp config s.db) :
    Holds (rebuild evidenceDigest config host) s
      (fun _ s' => Healthy evidenceDigest B timestamp config s'.db)
      fun _ s' => Healthy evidenceDigest B timestamp config s'.db := by
  have hcarries : Carries config (rebuildOptions evidenceDigest config host)
      (fun _ recovery => recovery = noRecovery) s
      (fun s => Healthy evidenceDigest B timestamp config s.db)
      fun s => Healthy evidenceDigest B timestamp config s.db := by
    refine healthy_carries h fun barrier s m hs _ => ?_
    refine holds_bind (holds_openStore (fun store hopen => ?_) fun _ => hs)
    have hscope := (openStore_fields hopen).2.2
    exact runRebuild_holds (J := fun s => Healthy evidenceDigest B timestamp config s.db)
      (C := fun s => Healthy evidenceDigest B timestamp config s.db) hs (fun _ => id)
      (fun _ _ _ _ hrebuild => hs.rebuilt hscope hrebuild) fun _ _ hs => hs.setStatus _
  refine (hcarries.runProjectionMaintenance_holds rebuild_resolves).mono ?_ fun _ _ => id
  rintro _ _ ⟨s', hs', rfl⟩
  exact hs'

theorem reindex_healthy (hhonest : Honest B host.chain) (hstamps : Stamps timestamp host.chain)
    (h : Healthy evidenceDigest B timestamp config s.db) :
    Holds (reindex evidenceDigest config host fromBlock) s
      (fun _ s' => Healthy evidenceDigest B timestamp config s'.db)
      fun _ s' => Healthy evidenceDigest B timestamp config s'.db := by
  refine holds_bind (holds_refuseIf (fun _ => ?_) fun _ => h)
  refine holds_bind (holds_answer (fun _ => ?_) fun _ => h)
  have hcarries : Carries config (reindexOptions evidenceDigest config host fromBlock)
      (Targeted host fromBlock) s (fun s => Healthy evidenceDigest B timestamp config s.db)
      fun s => Healthy evidenceDigest B timestamp config s.db :=
    healthy_carries h fun barrier _ _ hs hcurrent =>
      (healthy_steps hhonest hstamps).run_holds hs hcurrent trivial barrier
  refine (hcarries.runProjectionMaintenance_holds reindex_resolves).mono ?_ fun _ _ => id
  rintro _ _ ⟨s', hs', rfl⟩
  exact hs'

theorem attempt_healthy {a : Attempt σ} (hhonest : Honest B a.host.chain)
    (hstamps : Stamps timestamp a.host.chain)
    (h : Healthy evidenceDigest B timestamp config s.db) :
    Healthy evidenceDigest B timestamp config (a.run evidenceDigest config s).db := by
  unfold Attempt.run Attempt.program
  split
  · exact (rebuild_healthy h).final 0
  · exact (reindex_healthy hhonest hstamps h).final 0

theorem runAttempts_healthy {attempts : List (Attempt σ)}
    (hattempts : ∀ a ∈ attempts, Honest B a.host.chain ∧ Stamps timestamp a.host.chain)
    (h : Healthy evidenceDigest B timestamp config s.db) :
    Healthy evidenceDigest B timestamp config (runAttempts evidenceDigest config attempts s).db := by
  induction attempts generalizing s with
  | nil => exact h
  | cons a attempts ih =>
    obtain ⟨⟨hhonest, hstamps⟩, hrest⟩ := List.forall_mem_cons.mp hattempts
    exact ih hrest (attempt_healthy hhonest hstamps h)

end

section
variable {evidenceDigest : Evidence → String} {B : Blocks} {timestamp : String → ℕ}
  {config : Config} {db : Database}

namespace Healthy

theorem opens (h : Healthy evidenceDigest B timestamp config db) (options : ProjectionMaintenanceOptions) :
    SqliteProjectionStore.open config.nftAddress config.logScopeHash (fun _ => false)
      (some options) db = .ok ⟨config.nftAddress, config.logScopeHash, fun _ => false, false,
        options.allowReindexRecovery⟩ := by
  have hmatches : ¬(¬(db.checkpoint.projectorVersion = Indexer.projectorVersion ∨
      ((some options).any fun m =>
        m.supportedProjectorVersions.contains db.checkpoint.projectorVersion) = true) ∨
      ¬(db.checkpoint.logScopeHash = config.logScopeHash ∨
        ((some options).any fun m => m.allowLogScopeChange) = true)) := by
    rw [not_or, not_not, not_not]
    exact ⟨.inl h.projectorVersion, .inl h.logScopeHash⟩
  simp only [SqliteProjectionStore.open]
  rw [failIf_neg _ hmatches, ok_bind]
  simp [h.logScopeHash]

theorem rebuildable (h : Healthy evidenceDigest B timestamp config db) {d : Deployment}
    {render : Address → String} (hdeployed : Deployed d render B config) :
    Rebuildable evidenceDigest config db := by
  obtain ⟨chain, hcovered⟩ := h.covered
  exact ⟨⟨_, h.opens _⟩, verifyRebuildSource_ok hcovered.grounded,
    hdeployed.replays hcovered.grounded h.scanStartBlock hdeployed.collection⟩

theorem recoverable (h : Healthy evidenceDigest B timestamp config db) {F : FixedChain}
    {fromBlock : ℕ} {phase : Option ProjectionPhase}
    (hkept : ∀ b ∈ db.indexedBlocks.rows, b.canonical = true →
      phase = some .catchingUp ∨ b.blockNumber < fromBlock →
      b.blockHash = lower (F.block b.blockNumber).hash) :
    Recoverable evidenceDigest config B F fromBlock phase db := by
  obtain ⟨chain, hcovered⟩ := h.covered
  have hrows := fun b hb => (h.stamped b hb).2
  refine ⟨h.scanStartBlock, _, h.opens _, ?_⟩
  by_cases hphase : phase = some .catchingUp
  · rw [hphase]
    refine .catchingUp hcovered.grounded (fun b hb => ?_) hrows
    obtain ⟨hrow, hcanonical⟩ := hcovered.grounded.canonical_iff.mpr hb
    exact hkept b hrow hcanonical (.inl hphase)
  · have hrefresh : requiresSourceRefresh evidenceDigest ⟨config.nftAddress, config.logScopeHash,
        fun _ => false, false, true⟩ db = false := by
      rw [requiresSourceRefresh, hcovered.source_matches]
      rfl
    have hbelow := hcovered.grounded.below fromBlock
    refine .rewound hphase hrefresh hbelow (fun b hb => ?_) hrows
    obtain ⟨hrow, hcanonical⟩ :=
      hcovered.grounded.canonical_iff.mpr (List.mem_of_mem_take hb)
    exact hkept b hrow hcanonical (.inr ((hbelow.canonical b).mp hb).2)

end Healthy
end

/-- A host that carries out what it is asked, before a chain that stands still. -/
structure Host.Settled {σ : Type} (host : Host σ) (F : FixedChain) (B : Blocks)
    (config : Config) : Prop where
  calm : host.Calm
  archives : host.Archives
  stands : Stands F B config host.chain

section
variable {σ : Type} {config : Config} {host : Host σ} {F : FixedChain} {B : Blocks}

theorem Host.Settled.has (h : host.Settled F B config) {number : ℕ} (hle : number ≤ F.head.number) :
    host.Has number (F.block number) := by
  intro turn
  rcases h.stands.available.block number hle (host.chainAt turn) with hblock | hlost
  · exact hblock
  · exact absurd (.block _ _ hlost) h.stands.reachable

theorem Host.Settled.hasEligible (h : host.Settled F B config) :
    host.HasEligible config (F.block (F.target config.finality config.indexingDepth)) := by
  intro turn db
  have hhead := h.stands.linked.target_le config.finality config.indexingDepth
  have hread := readProjectionTarget_does (w := ⟨host.chainAt turn, db, []⟩)
    (K := fun _ => True) h.stands.available h.stands.linked h.stands.reaches trivial
  unfold Does Ends at hread
  split at hread
  · rename_i observation _ hrun
    refine ⟨observation, F.block (F.target config.finality config.indexingDepth), ?_, ?_, ?_⟩
    · rw [hrun]
      rfl
    · rw [hread.1]
    · rw [h.stands.linked.number _ hhead]
      exact h.has hhead
  · exact absurd hread.1.1 h.stands.reachable

end

section
variable {σ : Type} {evidenceDigest : Evidence → String} {config : Config} {host : Host σ} {s : Site}
  {m : MaintenanceMarker} {fromBlock : ℕ} {targetBlock targetHash : String} {block : BlockHeader}
  {F : FixedChain} {B : Blocks} {d : Deployment} {render : Address → String}

/-- The admission of the operation under these markers, as it passes. -/
def Passes (evidenceDigest : Evidence → String) (config : Config) (a : Attempt σ) (s : Site)
    (admission : Admission) : Prop :=
  Holds (checkAdmission config a.host (a.options evidenceDigest config))
    { s with currentMarker := none }
    (fun result s' => result = admission ∧ s' = { s with currentMarker := none }) fun _ _ => False

theorem rebuild_passes (hcalm : host.Calm) (hm : s.marker = some m)
    (htype : m.operationType = .rebuildProjection) (howner : m.isOf config = true)
    (hrecovery : ProjectionRecovery.mk m.reindexFromBlock m.targetBlock m.targetHash = noRecovery)
    (hpolicy : s.db.runtimeStatus.projectionStatus ≠ .recoveryRequired ∨
      s.db.runtimeStatus.recoveryReason = some "PROJECTOR_INTEGRITY") :
    Passes evidenceDigest config ⟨.rebuild, host⟩ s ⟨some m, false,
      ⟨m.reindexFromBlock, m.targetBlock, m.targetHash⟩, barrierOf s.db⟩ := by
  refine resumes_admission hcalm hm htype howner ?_ ?_
  · intro _ hbarred
    rcases hpolicy with hfree | hreason
    · exact absurd (isBarred_iff.mp hbarred) hfree
    · exact hreason
  · rw [hrecovery]
    exact holds_pure ⟨rfl, rfl⟩

theorem reindex_passes (hcalm : host.Calm) (hm : s.marker = some m)
    (htype : m.operationType = .reindexProjection) (howner : m.isOf config = true)
    (hfrom : m.reindexFromBlock = some (Nat.repr fromBlock))
    (hblock : m.targetBlock = some targetBlock) (hhash : m.targetHash = some targetHash)
    (hdecimal : isDecimal targetBlock = true) (hhas : host.Has (value targetBlock.toList) block)
    (hnumber : block.number = value targetBlock.toList) (hsame : lower block.hash = lower targetHash) :
    Passes evidenceDigest config ⟨.reindex fromBlock, host⟩ s ⟨some m, false,
      ⟨m.reindexFromBlock, m.targetBlock, m.targetHash⟩, barrierOf s.db⟩ := by
  refine resumes_admission hcalm hm htype howner ?_
    (resolve_marker config hfrom hblock hhash hdecimal hhas hnumber hsame)
  intro hrebuild
  cases hrebuild

theorem transition_passes (hcalm : host.Calm) (hm : s.marker = some m)
    (htype : m.operationType = .rebuildProjection) (howner : m.isOf config = true)
    (hstage : m.stage = .failed)
    (hsource : m.lastError.any (startsWith "REBUILD_SOURCE_INCOMPLETE") = true)
    (heligible : host.HasEligible config block) :
    Passes evidenceDigest config ⟨.reindex config.scanStartBlock, host⟩ s ⟨some m, true,
      ⟨some (Nat.repr config.scanStartBlock), some (Nat.repr block.number), some block.hash⟩,
      barrierOf s.db⟩ :=
  transitions_admission hcalm hm howner htype hstage hsource rfl (if_pos rfl).symm
    ⟨Option.some_ne_none _, Option.some_ne_none _, Option.some_ne_none _⟩ (resolve_fresh heligible)

theorem reindex_succeeds (hsettled : host.Settled F B config) (hdeployed : Deployed d render B config)
    (hfrom : config.scanStartBlock ≤ fromBlock) {admission : Admission}
    (hpasses : Passes evidenceDigest config ⟨.reindex fromBlock, host⟩ s admission)
    (hexisting : admission.existing = some m)
    (hblock : admission.recovery.targetBlock = some targetBlock)
    (hhash : admission.recovery.targetHash = some targetHash)
    (hlow : config.scanStartBlock ≤ value targetBlock.toList)
    (htarget : value targetBlock.toList ≤ F.target config.finality config.indexingDepth)
    (hsame : lower (F.block (value targetBlock.toList)).hash = lower targetHash)
    (h : Recoverable evidenceDigest config B F fromBlock m.projectionPhase s.db) :
    Attempt.Succeeds evidenceDigest config ⟨.reindex fromBlock, host⟩ s := by
  refine reindex_completes hsettled.calm hfrom hpasses fun operationId => ?_
  have hphase : (preparedMarker config (reindexOptions evidenceDigest config host fromBlock)
      operationId admission).activated.projectionPhase = m.projectionPhase := by
    show (admission.existing.bind fun m => m.projectionPhase) = m.projectionPhase
    rw [hexisting]
    rfl
  exact reindex_run_succeeds hsettled.calm hsettled.archives hsettled.stands hdeployed rfl hblock
    hhash htarget hlow hsame.symm (by rw [hphase]; exact h) admission.barrier

variable (evidenceDigest config) in
/-- After any attempts on an environment, a marker admits a rerun of its own
operation or, after an incomplete source, the full reindex. On a settled host and
chain what is admitted succeeds: a rebuild if its journal verifies and replays, a
reindex if the rows it keeps are the chain's. -/
theorem maintenance_resumes (attempts : List (Attempt σ)) (db : Database)
    (hm : (runAttempts evidenceDigest config attempts ⟨db, none, none, []⟩).marker = some m) :
    let s := runAttempts evidenceDigest config attempts ⟨db, none, none, []⟩
    ((m.operationType = .reindexProjection ∧ ∃ fromBlock targetBlock targetHash,
        m.reindexFromBlock = some (Nat.repr fromBlock) ∧ m.targetBlock = some targetBlock ∧
        m.targetHash = some targetHash ∧
        (∀ (τ : Type) (host : Host τ) (block : BlockHeader), host.Calm →
          host.Has (value targetBlock.toList) block → block.number = value targetBlock.toList →
          lower block.hash = lower targetHash →
          Attempt.Resumes evidenceDigest config ⟨.reindex fromBlock, host⟩ s) ∧
        ∀ (τ : Type) (host : Host τ) (F : FixedChain) (B : Blocks) (d : Deployment)
          (render : Address → String), host.Settled F B config → Deployed d render B config →
          config.scanStartBlock ≤ value targetBlock.toList →
          value targetBlock.toList ≤ F.target config.finality config.indexingDepth →
          lower (F.block (value targetBlock.toList)).hash = lower targetHash →
          Recoverable evidenceDigest config B F fromBlock m.projectionPhase s.db →
          Attempt.Succeeds evidenceDigest config ⟨.reindex fromBlock, host⟩ s) ∨
      (m.operationType = .rebuildProjection ∧
        ((s.db.runtimeStatus.projectionStatus ≠ .recoveryRequired ∨
            s.db.runtimeStatus.recoveryReason = some "PROJECTOR_INTEGRITY") →
          ∀ (τ : Type) (host : Host τ), host.Calm →
            Attempt.Resumes evidenceDigest config ⟨.rebuild, host⟩ s ∧
            (Attempt.Succeeds evidenceDigest config ⟨.rebuild, host⟩ s ↔
              Rebuildable evidenceDigest config s.db)) ∧
        (m.stage = .failed → m.lastError.any (startsWith "REBUILD_SOURCE_INCOMPLETE") = true →
          (∀ (τ : Type) (host : Host τ) (block : BlockHeader), host.Calm →
            host.HasEligible config block →
            Attempt.Resumes evidenceDigest config ⟨.reindex config.scanStartBlock, host⟩ s) ∧
          ∀ (τ : Type) (host : Host τ) (F : FixedChain) (B : Blocks) (d : Deployment)
            (render : Address → String), host.Settled F B config → Deployed d render B config →
            config.scanStartBlock ≤ F.target config.finality config.indexingDepth →
            Recoverable evidenceDigest config B F config.scanStartBlock m.projectionPhase s.db →
            Attempt.Succeeds evidenceDigest config ⟨.reindex config.scanStartBlock, host⟩ s))) ∧
    ∀ (B : Blocks) (timestamp : String → ℕ),
      Ingested evidenceDigest B timestamp config.scanStartBlock db →
      db.checkpoint.logScopeHash = config.logScopeHash →
      (∀ a ∈ attempts, Honest B a.host.chain ∧ Stamps timestamp a.host.chain) →
      (∀ (d : Deployment) (render : Address → String), Deployed d render B config →
        Rebuildable evidenceDigest config s.db) ∧
      ∀ (F : FixedChain) (fromBlock : ℕ) (phase : Option ProjectionPhase),
        (∀ b ∈ s.db.indexedBlocks.rows, b.canonical = true →
          phase = some .catchingUp ∨ b.blockNumber < fromBlock →
          b.blockHash = lower (F.block b.blockNumber).hash) →
        Recoverable evidenceDigest config B F fromBlock phase s.db := by
  intro s
  have hempty : SiteFits config ⟨db, none, none, []⟩ :=
    ⟨fun _ h => (nomatch h), fun _ h => (nomatch h)⟩
  have hfits : Fits config m := (runAttempts_fits evidenceDigest attempts hempty).1 m hm
  refine ⟨?_, fun B timestamp hingested hscope hattempts => ?_⟩
  · rcases hfits.recovery with ⟨htype, hrecovery⟩ |
      ⟨htype, fromBlock, targetBlock, targetHash, hfrom, hfrom', hblock, hhash, hdecimal⟩
    · refine .inr ⟨htype, fun hpolicy τ host hcalm => ?_, fun hstage hsource =>
        ⟨fun τ host block hcalm heligible => ?_,
          fun τ host F B d render hsettled hdeployed hlow hrecoverable => ?_⟩⟩
      · have hpasses : Passes evidenceDigest config ⟨.rebuild, host⟩ s _ :=
          rebuild_passes hcalm hm htype hfits.owner hrecovery hpolicy
        exact ⟨rebuild_resumes hcalm hpasses, rebuild_succeeds_iff hcalm hpasses⟩
      · exact reindex_resumes hcalm le_rfl
          (transition_passes hcalm hm htype hfits.owner hstage hsource heligible)
      · have hhead := hsettled.stands.linked.target_le config.finality config.indexingDepth
        have hnumber := hsettled.stands.linked.number _ hhead
        have hvalue := (value_repr (F.block (F.target config.finality config.indexingDepth)).number).trans
          hnumber
        exact reindex_succeeds hsettled hdeployed le_rfl
          (transition_passes hsettled.calm hm htype hfits.owner hstage hsource hsettled.hasEligible)
          rfl rfl rfl (hvalue.symm ▸ hlow) hvalue.le (by rw [hvalue]) hrecoverable
    · refine .inl ⟨htype, fromBlock, targetBlock, targetHash, hfrom', hblock, hhash,
        fun τ host block hcalm hhas hnumber hsame => ?_,
        fun τ host F B d render hsettled hdeployed hlow htarget hsame hrecoverable => ?_⟩
      · exact reindex_resumes hcalm hfrom (reindex_passes hcalm hm htype hfits.owner hfrom' hblock
          hhash hdecimal hhas hnumber hsame)
      · have hhead := htarget.trans
          (hsettled.stands.linked.target_le config.finality config.indexingDepth)
        exact reindex_succeeds hsettled hdeployed hfrom (reindex_passes hsettled.calm hm htype
          hfits.owner hfrom' hblock hhash hdecimal (hsettled.has hhead)
          (hsettled.stands.linked.number _ hhead) hsame) rfl hblock hhash hlow htarget hsame
          hrecoverable
  · have hhealthy := runAttempts_healthy hattempts
      (s := ⟨db, none, none, []⟩) (healthy_of_ingested hingested hscope)
    exact ⟨fun d render hdeployed => hhealthy.rebuildable hdeployed,
      fun F fromBlock phase hkept => hhealthy.recoverable hkept⟩

end

def fundedConfig : Config := { localConfig with
  nftAddress := address 2, logScopeHash := hex 64 9 }

/-- A host before the chain of the listing and its funding. -/
def fundedHost (operation : ℕ → Outcome String) : Host Unit :=
  { localHost "" operation with chain := fundedReader }

def fundedStart : Database := registered 0 "build" (hex 64 9)

def fundedCut : List (Attempt Unit) :=
  [⟨.reindex 0, fundedHost fun turn => if turn = 22 then .doneThen .crash else .done⟩]

theorem fundedHost_settled :
    (fundedHost fun _ => .done).Settled fundedChain fundedBlocks fundedConfig where
  calm := ⟨fun _ => rfl, fun _ => rfl, fun _ => rfl, fun _ => rfl, fun _ => rfl, fun _ => rfl⟩
  archives := ⟨fun _ => ⟨"backup", by decide, rfl⟩, fun _ => rfl⟩
  stands := by
    refine ⟨fundedReader_honest, fundedReader_available, ?_, fundedChain_linked, Nat.zero_le _⟩
    rintro (⟨_, _, h, _⟩ | ⟨hsome, _, _, h, _⟩ | ⟨n, _, e, h, htransport, _⟩ | ⟨_, _, _, h, _⟩)
    · cases h
    · obtain rfl := Option.some.inj hsome
      cases h
    · change (if n = 0 then Except.ok fundedHeader else .error _) = .error e at h
      split at h
      · cases h
      · obtain rfl := Except.error.inj h
        exact absurd htransport (by decide)
    · cases h

theorem fundedConfig_deployed :
    Deployed Chain.localDeployment address fundedBlocks fundedConfig where
  lower_render := lower_address
  collection := lower_address 2
  executes := fundedBlocks_executes
  batchSize := by decide

theorem fundedReader_stamps : Stamps (fun _ => 1000) fundedReader := by
  rintro n header ⟨_, h⟩
  change (if n = 0 then Except.ok fundedHeader else .error _) = .ok header at h
  split at h
  · obtain rfl := Except.ok.inj h
    rfl
  · cases h

/-- The cut reindex has scanned the block; run again, it succeeds. -/
theorem maintenance_resumes_cut :
    let s := runAttempts mintDigest fundedConfig fundedCut ⟨fundedStart, none, none, []⟩
    s.marker.map (fun m => (m.operationType, m.reindexFromBlock, m.targetBlock, m.targetHash,
      m.projectionPhase)) = some (.reindexProjection, some "0", some "0", some (hex 64 1),
        some .catchingUp) ∧
    s.db.indexedBlocks.rows.map (fun b => (b.blockNumber, b.blockHash)) = [(0, hex 64 1)] ∧
    Attempt.Succeeds mintDigest fundedConfig ⟨.reindex 0, fundedHost fun _ => .done⟩ s := by
  intro s
  have hmarker : s.marker.map (fun m => (m.operationType, m.reindexFromBlock, m.targetBlock,
      m.targetHash, m.projectionPhase)) = some (.reindexProjection, some "0", some "0",
        some (hex 64 1), some .catchingUp) := by decide +kernel
  have hrows : s.db.indexedBlocks.rows.map (fun b => (b.blockNumber, b.blockHash)) =
      [(0, hex 64 1)] := by decide +kernel
  refine ⟨hmarker, hrows, ?_⟩
  obtain ⟨m, hm, hfields⟩ := Option.map_eq_some_iff.mp hmarker
  simp only [Prod.mk.injEq] at hfields
  obtain ⟨htype, hfrom, hblock, hhash, _⟩ := hfields
  obtain ⟨hresumes, hingested⟩ := maintenance_resumes mintDigest fundedConfig fundedCut fundedStart hm
  have hcuts : ∀ a ∈ fundedCut, Honest fundedBlocks a.host.chain ∧
      Stamps (fun _ => 1000) a.host.chain := by
    intro a ha
    rw [List.mem_singleton.mp ha]
    exact ⟨fundedReader_honest, fundedReader_stamps⟩
  have hrecoverable := (hingested fundedBlocks (fun _ => 1000) (.registered "build" (hex 64 9)) rfl
    hcuts).2 fundedChain 0 m.projectionPhase
  rcases hresumes with ⟨_, fromBlock, targetBlock, targetHash, hfrom', hblock', hhash', _,
    hsucceeds⟩ | ⟨hrebuild, _⟩
  · obtain rfl : 0 = fromBlock :=
      repr_injective.mp (Option.some.inj (hfrom.symm.trans hfrom'))
    obtain rfl : "0" = targetBlock := Option.some.inj (hblock.symm.trans hblock')
    obtain rfl : hex 64 1 = targetHash := Option.some.inj (hhash.symm.trans hhash')
    refine hsucceeds Unit _ fundedChain fundedBlocks _ _ fundedHost_settled fundedConfig_deployed
      (Nat.zero_le _) (Nat.zero_le _) rfl (hrecoverable fun b hb _ _ => ?_)
    have hpair : (b.blockNumber, b.blockHash) ∈ [(0, hex 64 1)] :=
      hrows ▸ List.mem_map_of_mem hb
    obtain ⟨_, hhashed⟩ := Prod.mk.inj (List.mem_singleton.mp hpair)
    rw [hhashed]
    exact (lower_hex 64 1).symm
  · rw [htype] at hrebuild
    cases hrebuild

end MotorCove.Maintenance
