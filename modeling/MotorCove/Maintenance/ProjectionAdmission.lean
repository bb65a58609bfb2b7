import MotorCove.Maintenance.ProjectionRuns

/-!
# Which operation a marker admits

A marker that attempts leave behind belongs to the deployment and carries what
its type needs. What the admission then asks of the status and of the chain
decides which operation may follow.
-/

set_option autoImplicit false

namespace MotorCove.Maintenance
open MotorCove.Crashes MotorCove.Effects MotorCove.Fallible MotorCove.Histories MotorCove.Indexer
  MotorCove.Text

/-- A marker of this deployment: of a rebuild, or of a reindex with its target. -/
structure Fits (config : Config) (m : MaintenanceMarker) : Prop where
  owner : m.isOf config = true
  recovery : (m.operationType = .rebuildProjection ∧
      ProjectionRecovery.mk m.reindexFromBlock m.targetBlock m.targetHash = noRecovery) ∨
    (m.operationType = .reindexProjection ∧ ∃ fromBlock targetBlock targetHash,
      config.scanStartBlock ≤ fromBlock ∧ m.reindexFromBlock = some (Nat.repr fromBlock) ∧
      m.targetBlock = some targetBlock ∧ m.targetHash = some targetHash ∧
      isDecimal targetBlock = true)

def SiteFits (config : Config) (s : Site) : Prop :=
  (∀ m, s.marker = some m → Fits config m) ∧ ∀ m, s.currentMarker = some m → Fits config m

section
variable {config : Config} {s s₀ : Site} {m : MaintenanceMarker}

theorem Fits.failedWith (h : Fits config m) (message : String) :
    Fits config (m.failedWith message) := ⟨h.owner, h.recovery⟩

theorem Fits.activated (h : Fits config m) : Fits config m.activated := ⟨h.owner, h.recovery⟩

theorem SiteFits.withCurrent (h : SiteFits config s) (hm : Fits config m) :
    SiteFits config { s with currentMarker := some m } := by
  refine ⟨h.1, ?_⟩
  rintro m' ⟨⟩
  exact hm

theorem SiteFits.withMarker (h : SiteFits config s) (hm : Fits config m) :
    SiteFits config { s with marker := some m } := by
  refine ⟨?_, h.2⟩
  rintro m' ⟨⟩
  exact hm

theorem preparedMarker_isOf {α : Type} (options : ProjectionOptions α) (operationId : String)
    (admission : Admission) :
    (preparedMarker config options operationId admission).isOf config = true := by
  simp only [MaintenanceMarker.isOf, preparedMarker, beq_self_eq_true, Bool.and_self]

theorem fits_carries {α : Type} {options : ProjectionOptions α}
    {R : Option MaintenanceMarker → ProjectionRecovery → Prop} (h : SiteFits config s₀)
    (hprepared : ∀ admission operationId, Admitted config options R s₀ admission →
      Fits config (preparedMarker config options operationId admission))
    (hrun : ∀ barrier s m, SiteFits config s → s.currentMarker = some m →
      m.operationType = options.operationType →
      Holds (options.run barrier) s (fun _ s' => SiteFits config s')
        fun _ s' => SiteFits config s') :
    Carries config options R s₀ (SiteFits config) (SiteFits config) where
  start := ⟨h.1, fun _ hm => nomatch hm⟩
  prepared := fun admission operationId hadmitted =>
    SiteFits.withCurrent h (hprepared admission operationId hadmitted)
  written := fun _ m hs hm => SiteFits.withMarker hs (hs.2 m hm)
  failed := fun _ m _ message hs hm _ => SiteFits.withMarker hs ((hs.2 m hm).failedWith message)
  activated := fun _ m hs hm => SiteFits.withCurrent hs (hs.2 m hm).activated
  raised := fun _ _ hs => hs
  run := fun _ _ _ _ hs _ _ hcurrent => hrun _ _ _ hs hcurrent rfl
  ran := fun _ => id
  cleared := fun _ hs => ⟨fun _ hm => (nomatch hm), hs.2⟩

end

section
variable {σ : Type} {evidenceDigest : Evidence → String} {config : Config} {host : Host σ}
  {fromBlock : ℕ} {s : Site}

theorem rebuild_fits (h : SiteFits config s) :
    Holds (rebuild evidenceDigest config host) s (fun _ s' => SiteFits config s')
      fun _ s' => SiteFits config s' := by
  have hcarries : Carries config (rebuildOptions evidenceDigest config host)
      (fun _ recovery => recovery = noRecovery) s (SiteFits config) (SiteFits config) := by
    refine fits_carries h (fun admission operationId hadmitted => ?_) fun barrier s m hs _ _ => ?_
    · obtain ⟨_, hrecovery⟩ := hadmitted.resolved
      refine ⟨preparedMarker_isOf _ _ _, .inl ⟨rfl, ?_⟩⟩
      simp only [preparedMarker, hrecovery, noRecovery]
    · exact holds_bind (holds_openStore (fun store _ => runRebuild_holds hs (fun _ => id)
        (fun _ _ _ _ _ => hs) fun _ _ hs => hs) fun _ => hs)
  refine (hcarries.runProjectionMaintenance_holds rebuild_resolves).mono ?_ fun _ _ => id
  rintro _ _ ⟨s', hs', rfl⟩
  exact hcarries.cleared s' hs'

theorem fits_steps : ReindexSteps evidenceDigest config host fromBlock (fun _ => True)
    (SiteFits config) (SiteFits config) (SiteFits config) (SiteFits config) (SiteFits config) := by
  have hupdate : ∀ (s : Site) (m : MaintenanceMarker), SiteFits config s → Fits config m →
      SiteFits config { s with currentMarker := some m } ∧
      SiteFits config { s with currentMarker := some m, marker := some m } := fun s m hs hm =>
    ⟨hs.withCurrent hm, (hs.withCurrent hm).withMarker hm⟩
  constructor
  case ofA => exact fun _ => id
  case ofB => exact fun _ => id
  case ofC => exact fun _ => id
  case resumed => exact fun _ _ hs _ _ => hs
  case archived =>
    exact fun s m _ hs hm => hupdate s _ hs ⟨(hs.2 m hm).owner, (hs.2 m hm).recovery⟩
  case preparing =>
    exact fun s m hs hm _ => hupdate s _ hs ⟨(hs.2 m hm).owner, (hs.2 m hm).recovery⟩
  case prepared => exact fun _ _ _ _ hs _ _ => hs
  case rebuilt => exact fun _ _ _ _ _ _ _ hs _ _ => hs
  case rebuildFailed => exact fun _ _ hs => hs
  case catchingUp =>
    exact fun s m hs hm => hupdate s _ hs ⟨(hs.2 m hm).owner, (hs.2 m hm).recovery⟩
  case ingested => exact fun _ _ _ _ _ _ _ _ hs => ⟨hs, hs⟩
  case completed => exact fun _ _ _ _ _ _ _ _ hs _ _ _ _ _ _ _ => ⟨hs, hs⟩

theorem reindex_fits (h : SiteFits config s) :
    Holds (reindex evidenceDigest config host fromBlock) s (fun _ s' => SiteFits config s')
      fun _ s' => SiteFits config s' := by
  refine holds_bind (holds_refuseIf (fun hfrom => ?_) fun _ => h)
  refine holds_bind (holds_answer (fun _ => ?_) fun _ => h)
  have hcarries : Carries config (reindexOptions evidenceDigest config host fromBlock)
      (Targeted host fromBlock) s (SiteFits config) (SiteFits config) := by
    refine fits_carries h (fun admission operationId hadmitted => ?_)
      fun barrier s m hs hcurrent _ => fits_steps.run_holds hs hcurrent trivial barrier
    obtain ⟨_, hfrom', targetBlock, targetHash, hblock, hhash, hdecimal, _⟩ := hadmitted.resolved
    exact ⟨preparedMarker_isOf _ _ _, .inr ⟨rfl, fromBlock, targetBlock, targetHash,
      Nat.le_of_not_lt hfrom, hfrom', hblock, hhash, hdecimal⟩⟩
  refine (hcarries.runProjectionMaintenance_holds reindex_resolves).mono ?_ fun _ _ => id
  rintro _ _ ⟨s', hs', rfl⟩
  exact hcarries.cleared s' hs'

theorem attempt_fits (a : Attempt σ) (h : SiteFits config s) :
    SiteFits config (a.run evidenceDigest config s) := by
  unfold Attempt.run Attempt.program
  split
  · exact (rebuild_fits h).final 0
  · exact (reindex_fits h).final 0

variable (evidenceDigest) in
theorem runAttempts_fits (attempts : List (Attempt σ)) (h : SiteFits config s) :
    SiteFits config (runAttempts evidenceDigest config attempts s) := by
  induction attempts generalizing s with
  | nil => exact h
  | cons a attempts ih => exact ih (attempt_fits a h)

end
section
variable {σ : Type}

structure Host.Calm (host : Host σ) : Prop where
  operation : ∀ turn, host.operation turn = .done
  verifyOwnedEnvironment : ∀ turn, host.verifyOwnedEnvironment turn = .ok ()
  verifyDeployment : ∀ turn, host.verifyDeployment turn = .ok ()
  acquireMaintenanceLocks : ∀ turn, host.acquireMaintenanceLocks turn = .ok ()
  openProjectionDatabase : ∀ turn, host.openProjectionDatabase turn = .ok ()
  verifyDatabase : ∀ turn, host.verifyDatabase turn = .ok ()

/-- The chain answers with this block whenever it is asked for the number. -/
def Host.Has (host : Host σ) (number : ℕ) (block : BlockHeader) : Prop :=
  ∀ turn, (host.chain.getBlock number (host.chainAt turn)).1 = .ok block

/-- The chain has an eligible head, and this block at its number. -/
def Host.HasEligible (host : Host σ) (config : Config) (block : BlockHeader) : Prop :=
  ∀ turn db, ∃ observation eligibleHead,
    resultOf ((readProjectionTarget host.chain config.finality config.indexingDepth).run
      ⟨host.chainAt turn, db, []⟩) = .ok observation ∧
    observation.eligibleHead = some eligibleHead ∧ host.Has eligibleHead.number block

end

section
variable {σ : Type} {evidenceDigest : Evidence → String} {config : Config} {host : Host σ}
  {fromBlock : ℕ} {s : Site} {m : MaintenanceMarker} {block : BlockHeader}
  {P : BlockHeader → Site → Prop} {E : Failure String → Site → Prop}

theorem holds_readBlock_has {number : ℕ} (hhas : host.Has number block) (h : P block s) :
    Holds (readBlock host number) s P E :=
  holds_ask_ok (fun turn => by rw [hhas turn]; rfl) h

variable (config) in
theorem resolve_marker {targetBlock targetHash : String}
    (hfrom : m.reindexFromBlock = some (Nat.repr fromBlock))
    (hblock : m.targetBlock = some targetBlock) (hhash : m.targetHash = some targetHash)
    (hdecimal : isDecimal targetBlock = true) (hhas : host.Has (value targetBlock.toList) block)
    (hnumber : block.number = value targetBlock.toList) (hsame : lower block.hash = lower targetHash) :
    Holds (resolveReindexOperationRecovery config host fromBlock (some m)) s
      (fun recovery s' => s' = s ∧ recovery = ⟨m.reindexFromBlock, m.targetBlock, m.targetHash⟩) E := by
  refine holds_bind (holds_refuseIf (fun _ => ?_) fun hne => absurd hfrom hne)
  rw [hblock, hhash]
  refine holds_bind (holds_refuseIf (fun _ => ?_) fun hnot => ?_)
  · refine holds_bind (holds_readBlock_has hhas (holds_bind (holds_readBlock_has hhas ?_)))
    refine holds_bind (holds_refuseIf (fun _ => holds_pure ⟨rfl, rfl⟩) fun hchanged => ?_)
    simp [hnumber, hsame] at hchanged
  · rw [hdecimal] at hnot
    cases hnot

theorem resolve_fresh (heligible : host.HasEligible config block) :
    Holds (resolveReindexOperationRecovery config host fromBlock none) s
      (fun recovery s' => s' = s ∧ recovery =
        ⟨some (Nat.repr fromBlock), some (Nat.repr block.number), some block.hash⟩) E := by
  refine holds_bind (holds_bind (holds_ask (fun turn observation hanswer => ?_)
    fun turn failure hfailure => ?_))
  · obtain ⟨_, eligibleHead, hread, hsome, hhas⟩ := heligible turn s.db
    rw [hread] at hanswer
    obtain rfl := Except.ok.inj hanswer
    rw [hsome]
    refine holds_bind (holds_readBlock_has hhas (holds_bind (holds_readBlock_has hhas ?_)))
    refine holds_bind (holds_refuseIf (fun _ => holds_pure (holds_pure ⟨rfl, rfl⟩))
      fun hchanged => ?_)
    simp at hchanged
  · obtain ⟨_, _, hread, _⟩ := heligible turn s.db
    rw [hread] at hfailure
    cases hfailure

section
variable {α : Type} {options : ProjectionOptions α} {recovery : ProjectionRecovery}

/-- The policy admits every operation but a rebuild over a foreign barrier. -/
def Allowed (options : ProjectionOptions α) (db : Database) : Prop :=
  options.operationType = .rebuildProjection → db.isBarred = true →
    db.runtimeStatus.recoveryReason = some "PROJECTOR_INTEGRITY"

theorem holds_policy (hcalm : host.Calm) (hallowed : Allowed options s.db) (transition : Bool) :
    Holds (do
      ask fun turn _ => host.openProjectionDatabase turn
      let persisted ← look fun s => s.db.runtimeStatus
      refuseIf (persisted.projectionStatus = .recoveryRequired ∧
        options.operationType = .rebuildProjection ∧
        persisted.recoveryReason ≠ some "PROJECTOR_INTEGRITY")
        ("RECOVERY_OPERATION_NOT_ALLOWED: " ++ persisted.recoveryReason.getD "UNKNOWN")
      pure ⟨some m, transition, recovery, if persisted.projectionStatus = .recoveryRequired then
        some persisted.recoveryReason else none⟩ : Operation Admission) s
      (fun admission s' => admission = ⟨some m, transition, recovery, barrierOf s.db⟩ ∧ s' = s) E := by
  refine holds_bind (holds_ask_ok hcalm.openProjectionDatabase ?_)
  refine holds_bind (holds_look (holds_bind (holds_refuseIf (fun _ => holds_pure ⟨rfl, rfl⟩) ?_)))
  rintro ⟨hbarred, htype, hreason⟩
  exact absurd (hallowed htype (isBarred_iff.mpr hbarred)) hreason

theorem findTransition_same (htype : m.operationType = options.operationType) :
    findTransition config options (some m) = pure false := by
  refine if_pos ?_
  rw [htype]
  by_cases hreindex : options.operationType = .reindexProjection
  · rw [hreindex]
    exact .inr (.inr (.inl nofun))
  · exact .inr (.inl hreindex)

theorem findTransition_full (howner : m.isOf config = true)
    (htype : m.operationType = .rebuildProjection) (hstage : m.stage = .failed)
    (hsource : m.lastError.any (startsWith "REBUILD_SOURCE_INCOMPLETE") = true)
    (hoptions : options.operationType = .reindexProjection)
    (hrequired : options.requiredReindexFromBlock ≠ none) :
    findTransition config options (some m) = pure true := by
  refine (if_neg ?_).trans ?_
  · simp [hrequired, hoptions, htype, hstage, hsource]
  · simp only [howner, refuseIf, Bool.true_eq_false, if_false, pure_bind]

theorem resumes_admission (hcalm : host.Calm) (hm : s.marker = some m)
    (htype : m.operationType = options.operationType) (howner : m.isOf config = true)
    (hallowed : Allowed options s.db)
    (hresolve : Holds (options.resolveRecovery (some m)) s (fun recovery s' => s' = s ∧
      recovery = ⟨m.reindexFromBlock, m.targetBlock, m.targetHash⟩) E) :
    Holds (checkAdmission config host options) s (fun admission s' => admission = ⟨some m, false,
      ⟨m.reindexFromBlock, m.targetBlock, m.targetHash⟩, barrierOf s.db⟩ ∧ s' = s) E := by
  unfold checkAdmission
  refine holds_bind (holds_ask_ok hcalm.verifyOwnedEnvironment ?_)
  refine holds_bind (holds_ask_ok hcalm.acquireMaintenanceLocks ?_)
  refine holds_bind (holds_look ?_)
  rw [hm]
  rw [findTransition_same htype, pure_bind]
  refine holds_bind (holds_refuseIf (fun _ => ?_) fun hne => ?_)
  · refine holds_bind (hresolve.mono ?_ fun _ _ => id)
    rintro _ s' ⟨rfl, rfl⟩
    refine holds_bind (holds_refuseIf (fun _ => ?_) fun hne => absurd hne.1 nofun)
    refine holds_bind (holds_refuseIf (fun _ => holds_policy hcalm hallowed false) fun hne => ?_)
    simp at hne
  · rcases hne with hne | hne
    · exact absurd htype hne
    · rw [howner] at hne
      cases hne

theorem transitions_admission (hcalm : host.Calm) (hm : s.marker = some m)
    (howner : m.isOf config = true) (htype : m.operationType = .rebuildProjection)
    (hstage : m.stage = .failed)
    (hsource : m.lastError.any (startsWith "REBUILD_SOURCE_INCOMPLETE") = true)
    (hoptions : options.operationType = .reindexProjection)
    (hrequired : recovery.reindexFromBlock = options.requiredReindexFromBlock)
    (hsome : recovery.reindexFromBlock ≠ none ∧ recovery.targetBlock ≠ none ∧
      recovery.targetHash ≠ none)
    (hresolve : Holds (options.resolveRecovery none) s
      (fun result s' => s' = s ∧ result = recovery) E) :
    Holds (checkAdmission config host options) s (fun admission s' =>
      admission = ⟨some m, true, recovery, barrierOf s.db⟩ ∧ s' = s) E := by
  unfold checkAdmission
  refine holds_bind (holds_ask_ok hcalm.verifyOwnedEnvironment ?_)
  refine holds_bind (holds_ask_ok hcalm.acquireMaintenanceLocks ?_)
  refine holds_bind (holds_look ?_)
  rw [hm]
  rw [findTransition_full howner htype hstage hsource hoptions (hrequired ▸ hsome.1), pure_bind]
  refine holds_bind (holds_pure (holds_bind (hresolve.mono ?_ fun _ _ => id)))
  rintro _ s' ⟨rfl, rfl⟩
  refine holds_bind (holds_refuseIf (fun _ => ?_) fun hne => ?_)
  · have hallowed : Allowed options s'.db := fun h => by rw [hoptions] at h; cases h
    exact holds_bind (holds_pure (holds_policy hcalm hallowed true))
  · rcases hne.2 with hne | hne | hne
    · exact absurd hrequired hne
    · exact absurd hne hsome.2.1
    · exact absurd hne hsome.2.2

theorem holds_randomUUID {P : String → Site → Prop} (h : ∀ id, P id s) :
    Holds (randomUUID host) s P E :=
  holds_ask (fun _ id _ => h id) fun _ _ hfailure => nomatch hfailure

/-- What a run that lowered a barrier has to leave. -/
def Reopened (db : Database) : Prop :=
  (db.runtimeStatus.projectionStatus = .current ∨ db.runtimeStatus.projectionStatus = .syncing) ∧
    db.runtimeStatus.recoveryReason = none

/-- Once admitted, an operation on a calm host ends without a marker unless its
run fails. -/
theorem runProjectionMaintenance_completes (hcalm : host.Calm) {admission : Admission}
    (hpasses : Holds (checkAdmission config host options) { s with currentMarker := none }
      (fun result s' => result = admission ∧ s' = { s with currentMarker := none }) E)
    (hrun : ∀ operationId,
      let m := (preparedMarker config options operationId admission).activated
      Holds (options.run admission.barrier) { s with marker := some m, currentMarker := some m }
        (fun _ s' => Reopened s'.db) fun _ _ => False) :
    Holds (runProjectionMaintenance config host options) s (fun _ s' => s'.marker = none) E := by
  unfold runProjectionMaintenance
  refine holds_bind (holds_setCurrentMarker (holds_bind (hpasses.mono ?_ fun _ _ => id)))
  rintro result _ ⟨hresult, rfl⟩
  rw [hresult]
  refine holds_bind (holds_randomUUID fun fresh => ?_)
  generalize (if admission.transition = true then fresh
    else (admission.existing.map fun m => m.operationId).getD fresh) = operationId
  refine holds_bind (holds_setCurrentMarker ?_)
  -- The first write of the marker may be skipped; the active marker replaces it.
  have hactive : ∀ marker, Holds (runActive host options
      (preparedMarker config options operationId admission) admission.barrier)
      ⟨s.db, marker, some (preparedMarker config options operationId admission), s.calls⟩
      (fun _ _ => True) fun _ _ => False := by
    intro marker
    refine holds_bind (holds_ask_ok hcalm.verifyDatabase ?_)
    refine holds_bind (holds_bind (holds_setCurrentMarker (holds_act_done hcalm.operation fun _ => ?_)))
    refine holds_bind ((hrun operationId).mono ?_ fun _ _ => id)
    intro result s' hopen
    refine holds_bind (holds_bind (holds_look (holds_refuseIf (fun _ => ?_) fun hnot => ?_)))
    · exact holds_pure trivial
    · rcases hnot.2 with ⟨hcurrent, hsyncing⟩ | hreason
      · exact hopen.1.elim hcurrent hsyncing
      · exact hreason hopen.2
  have hfirst : Holds (attempt (do
      if admission.existing = none ∨ admission.transition = true then
        writeMarker host (preparedMarker config options operationId admission)
      else pure ()
      ask fun turn _ => host.openProjectionDatabase turn) fun message => failMarker host message)
      ⟨s.db, s.marker, some (preparedMarker config options operationId admission), s.calls⟩
      (fun _ s' => ∃ marker, s' = ⟨s.db, marker,
        some (preparedMarker config options operationId admission), s.calls⟩) E := by
    refine holds_attempt ?_
    split
    · exact holds_bind (holds_act_done hcalm.operation fun _ =>
        holds_ask_ok hcalm.openProjectionDatabase ⟨_, rfl⟩)
    · exact holds_ask_ok hcalm.openProjectionDatabase ⟨_, rfl⟩
  refine holds_bind (hfirst.mono ?_ fun _ _ => id)
  rintro _ _ ⟨marker, rfl⟩
  refine holds_bind (holds_attempt ((hactive marker).mono ?_ fun _ _ => False.elim))
  intro result s' _
  exact holds_bind (holds_attempt (holds_act_done hcalm.operation fun _ => holds_pure rfl))

end

end

section
variable {σ : Type} {evidenceDigest : Evidence → String} {config : Config} {host : Host σ}
  {fromBlock : ℕ} {s : Site}

theorem rebuild_reopens (barrier : Option (Option String)) :
    Holds ((rebuildOptions evidenceDigest config host).run barrier) s
      (fun _ s' => Reopened s'.db) fun _ _ => True := by
  refine holds_bind (holds_openStore (fun store hstore => ?_) fun _ => trivial)
  refine runRebuild_holds (C := fun s => Reopened s.db) trivial (fun _ _ => trivial) ?_
    fun _ _ _ => trivial
  intro id events db _ hrebuild
  rw [(openStore_fields hstore).1] at hrebuild
  simp only [rebuildTransaction, bind_ok, Bool.false_and, Bool.false_eq_true, if_false,
    Except.ok.injEq, Prod.mk.injEq] at hrebuild
  obtain ⟨_, _, _, rfl⟩ := hrebuild
  exact ⟨.inl rfl, rfl⟩

variable (evidenceDigest config host fromBlock) in
theorem reindex_reopens (m : MaintenanceMarker) (s : Site) (barrier : Option (Option String)) :
    Holds ((reindexOptions evidenceDigest config host fromBlock).run barrier)
      { s with marker := some m, currentMarker := some m }
      (fun _ s' => Reopened s'.db) fun _ _ => True := by
  have hsteps : ReindexSteps evidenceDigest config host fromBlock (fun _ => True) (fun _ => True)
      (fun _ => True) (fun _ => True) (fun _ => True) fun s => Reopened s.db := by
    constructor
    case completed =>
      intro s store m targetBlock targetHash header db _ _ _ _ _ _ _ _ hcompleted
      unfold completeReindexRecovery at hcompleted
      simp only [failIf_bind_ok] at hcompleted
      obtain ⟨_, hcompleted⟩ := hcompleted
      split at hcompleted
      · cases hcompleted
      · simp only [failIf_bind_ok, Except.ok.injEq] at hcompleted
        obtain ⟨_, rfl⟩ := hcompleted
        exact ⟨trivial, .inr rfl, rfl⟩
    all_goals simp [KeepsIngest]
  exact hsteps.run_holds trivial rfl trivial barrier

end

section
variable {σ : Type} (evidenceDigest : Evidence → String) (config : Config)

def Attempt.options (a : Attempt σ) : ProjectionOptions ℕ :=
  match a.operation with
  | .rebuild => rebuildOptions evidenceDigest config a.host
  | .reindex fromBlock => reindexOptions evidenceDigest config a.host fromBlock

/-- No admission of the attempt passes. -/
def Attempt.Refused (a : Attempt σ) (s : Site) : Prop :=
  Holds (checkAdmission config a.host (a.options evidenceDigest config)) { s with currentMarker := none }
    (fun _ _ => False) fun _ _ => True

/-- Every check of the admission passes, and unless the run then fails the
attempt ends without a marker. -/
def Attempt.Resumes (a : Attempt σ) (s : Site) : Prop :=
  ∃ admission,
    Holds (checkAdmission config a.host (a.options evidenceDigest config)) { s with currentMarker := none }
      (fun result s' => result = admission ∧ s' = { s with currentMarker := none })
      (fun _ _ => False) ∧
    ((∀ operationId,
      let m := (preparedMarker config (a.options evidenceDigest config) operationId
        admission).activated
      Holds ((a.options evidenceDigest config).run admission.barrier)
        { s with marker := some m, currentMarker := some m } (fun _ _ => True) fun _ _ => False) →
      Holds (a.program evidenceDigest config) s (fun _ s' => s'.marker = none) fun _ _ => False)

/-- The attempt ends without a marker, whatever its turns are. -/
def Attempt.Succeeds (a : Attempt σ) (s : Site) : Prop :=
  Holds (a.program evidenceDigest config) s (fun _ s' => s'.marker = none) fun _ _ => False

/-- The attempt never returns a result. -/
def Attempt.Fails (a : Attempt σ) (s : Site) : Prop :=
  Holds (a.program evidenceDigest config) s (fun _ _ => False) fun _ _ => True

variable {evidenceDigest config} {host : Host σ} {fromBlock : ℕ} {s : Site} {m : MaintenanceMarker}

theorem rebuild_completes (hcalm : host.Calm) {admission : Admission}
    (hpasses : Holds (checkAdmission config host (rebuildOptions evidenceDigest config host))
      { s with currentMarker := none }
      (fun result s' => result = admission ∧ s' = { s with currentMarker := none })
      fun _ _ => False)
    (hrun : ∀ operationId,
      let m := (preparedMarker config (rebuildOptions evidenceDigest config host) operationId
        admission).activated
      Holds ((rebuildOptions evidenceDigest config host).run admission.barrier)
        { s with marker := some m, currentMarker := some m } (fun _ _ => True) fun _ _ => False) :
    Attempt.Succeeds evidenceDigest config ⟨.rebuild, host⟩ s := by
  refine runProjectionMaintenance_completes hcalm hpasses fun operationId => ?_
  exact ((rebuild_reopens _).and (hrun operationId)).mono (fun _ _ h => h.1) fun _ _ h => h.2

theorem rebuild_resumes (hcalm : host.Calm) {admission : Admission}
    (hpasses : Holds (checkAdmission config host (rebuildOptions evidenceDigest config host))
      { s with currentMarker := none }
      (fun result s' => result = admission ∧ s' = { s with currentMarker := none })
      fun _ _ => False) :
    Attempt.Resumes evidenceDigest config ⟨.rebuild, host⟩ s :=
  ⟨admission, hpasses, rebuild_completes hcalm hpasses⟩

theorem reindex_completes (hcalm : host.Calm) (hfrom : config.scanStartBlock ≤ fromBlock)
    {admission : Admission}
    (hpasses : Holds (checkAdmission config host (reindexOptions evidenceDigest config host fromBlock))
      { s with currentMarker := none }
      (fun result s' => result = admission ∧ s' = { s with currentMarker := none })
      fun _ _ => False)
    (hrun : ∀ operationId,
      let m := (preparedMarker config (reindexOptions evidenceDigest config host fromBlock)
        operationId admission).activated
      Holds ((reindexOptions evidenceDigest config host fromBlock).run admission.barrier)
        { s with marker := some m, currentMarker := some m } (fun _ _ => True) fun _ _ => False) :
    Attempt.Succeeds evidenceDigest config ⟨.reindex fromBlock, host⟩ s := by
  refine holds_bind (holds_refuseIf (fun _ => ?_) fun hbefore => absurd hfrom (Nat.not_le.mpr hbefore))
  refine holds_bind (holds_ask_ok hcalm.verifyDeployment ?_)
  refine runProjectionMaintenance_completes hcalm hpasses fun operationId => ?_
  have hreopens := reindex_reopens evidenceDigest config host fromBlock
    (preparedMarker config (reindexOptions evidenceDigest config host fromBlock) operationId
      admission).activated s admission.barrier
  exact (hreopens.and (hrun operationId)).mono (fun _ _ h => h.1) fun _ _ h => h.2

theorem reindex_resumes (hcalm : host.Calm) (hfrom : config.scanStartBlock ≤ fromBlock)
    {admission : Admission}
    (hpasses : Holds (checkAdmission config host (reindexOptions evidenceDigest config host fromBlock))
      { s with currentMarker := none }
      (fun result s' => result = admission ∧ s' = { s with currentMarker := none })
      fun _ _ => False) :
    Attempt.Resumes evidenceDigest config ⟨.reindex fromBlock, host⟩ s :=
  ⟨admission, hpasses, reindex_completes hcalm hfrom hpasses⟩

theorem runProjectionMaintenance_fails {options : ProjectionOptions ℕ}
    {R : Option MaintenanceMarker → ProjectionRecovery → Prop} (hresolves : Resolves options R)
    (hrun : ∀ admission operationId s', Admitted config options R s admission → s'.db = s.db →
      s'.currentMarker = some (preparedMarker config options operationId admission).activated →
      Holds (options.run admission.barrier) s' (fun _ _ => False) fun _ _ => True) :
    Holds (runProjectionMaintenance config host options) s (fun _ _ => False) fun _ _ => True := by
  have hcarries : Carries config options R s (fun _ => True) fun _ => False := by
    constructor
    case run =>
      exact fun admission operationId s' hadmitted _ hdb _ hcurrent =>
        hrun admission operationId s' hadmitted hdb hcurrent
    all_goals simp
  refine (hcarries.runProjectionMaintenance_holds hresolves).mono ?_ fun _ _ => id
  rintro _ _ ⟨_, hnever, _⟩
  exact hnever

end

def failedRebuild : List (Attempt Unit) :=
  [⟨.rebuild, localHost "0x01" fun turn =>
    if turn = 12 then .undone (.thrown "disk I/O error") else .done⟩]

def cutReindex : List (Attempt Unit) :=
  [⟨.reindex 0, localHost "0x01" fun turn => if turn = 17 then .doneThen .crash else .done⟩]

theorem rebuild_refused {σ : Type} {evidenceDigest : Evidence → String} {config : Config}
    {host : Host σ} {s : Site} (hbarred : s.db.isBarred = true)
    (hreason : s.db.runtimeStatus.recoveryReason ≠ some "PROJECTOR_INTEGRITY") :
    Attempt.Refused evidenceDigest config ⟨.rebuild, host⟩ s :=
  (checkAdmission_holds rebuild_resolves _).mono
    (fun _ _ h => hreason (h.2.policy rfl hbarred)) fun _ _ _ => trivial

theorem rebuild_refused_by_reindex {σ : Type} {evidenceDigest : Evidence → String} {config : Config}
    {host : Host σ} {s : Site} {m : MaintenanceMarker} (hm : s.marker = some m)
    (htype : m.operationType = .reindexProjection) :
    Attempt.Refused evidenceDigest config ⟨.rebuild, host⟩ s := by
  refine (checkAdmission_holds rebuild_resolves _).mono ?_ fun _ _ _ => trivial
  rintro admission _ ⟨_, hadmitted⟩
  cases htransition : admission.transition with
  | true => exact nomatch (hadmitted.transition m hm htransition).2.1
  | false =>
    have hrebuild := (hadmitted.resumed m hm htransition).1
    rw [htype] at hrebuild
    cases hrebuild

theorem reindex_refused_by_rebuild {σ : Type} {evidenceDigest : Evidence → String} {config : Config}
    {host : Host σ} {fromBlock : ℕ} {s : Site} {m : MaintenanceMarker} (hm : s.marker = some m)
    (htype : m.operationType = .rebuildProjection)
    (hsource : m.lastError.any (startsWith "REBUILD_SOURCE_INCOMPLETE") = false) :
    Attempt.Refused evidenceDigest config ⟨.reindex fromBlock, host⟩ s := by
  refine (checkAdmission_holds reindex_resolves _).mono ?_ fun _ _ _ => trivial
  rintro admission _ ⟨_, hadmitted⟩
  cases htransition : admission.transition with
  | true =>
    have hsource' := (hadmitted.transition m hm htransition).2.2.1
    rw [hsource] at hsource'
    cases hsource'
  | false =>
    have hreindex := (hadmitted.resumed m hm htransition).1
    rw [htype] at hreindex
    cases hreindex

/-- A reindex is refused once the chain no longer has the target of its marker. -/
theorem reindex_refused_by_chain {σ : Type} {evidenceDigest : Evidence → String} {config : Config}
    {host : Host σ} {fromBlock : ℕ} {s : Site} {m : MaintenanceMarker} {targetHash : String}
    (hm : s.marker = some m) (htype : m.operationType = .reindexProjection)
    (hhash : m.targetHash = some targetHash)
    (hgone : ∀ number, ¬host.Gave number targetHash) :
    Attempt.Refused evidenceDigest config ⟨.reindex fromBlock, host⟩ s := by
  refine (checkAdmission_holds reindex_resolves _).mono ?_ fun _ _ _ => trivial
  rintro admission _ ⟨_, hadmitted⟩
  cases htransition : admission.transition with
  | true =>
    have hrebuild := (hadmitted.transition m hm htransition).1
    rw [htype] at hrebuild
    cases hrebuild
  | false =>
    obtain ⟨_, _, ⟨_, targetBlock, hash, _, hrecovered, _, hgave⟩, _, _, hsame⟩ :=
      hadmitted.resumed m hm htransition
    obtain rfl : targetHash = hash :=
      Option.some.inj (hhash.symm.trans (hsame.trans hrecovered))
    exact hgone _ hgave

theorem archiveSource_keeps {σ : Type} {host : Host σ} {s : Site} (marker : MaintenanceMarker) :
    Holds (archiveSource host marker) s (fun _ s' => s'.db = s.db) fun _ _ => True := by
  unfold archiveSource
  split
  · exact holds_bind (holds_answer (fun _ => holds_pure rfl) fun _ => trivial)
  · refine holds_bind (holds_answer (fun backupId => ?_) fun _ => trivial)
    refine holds_bind (holds_answer (fun _ => ?_) fun _ => trivial)
    exact holds_bind (holds_updateMarker (fun _ => trivial) (fun _ _ => holds_pure rfl)
      (fun _ _ _ => trivial) fun _ _ _ => trivial)

/-- A partial reindex whose source needs a refresh fails on any host and chain,
until its rewind is behind it. -/
theorem partial_reindex_fails {σ : Type} {evidenceDigest : Evidence → String} {config : Config}
    {host : Host σ} {fromBlock : ℕ} {s : Site}
    (hphase : ∀ m, s.marker = some m → m.projectionPhase ≠ some .catchingUp)
    (hmismatch : hasSourceContentMismatch evidenceDigest s.db = true)
    (hbeyond : s.db.scanStartBlock ≠ fromBlock) :
    Attempt.Fails evidenceDigest config ⟨.reindex fromBlock, host⟩ s := by
  refine holds_bind (holds_refuseIf (fun _ => ?_) fun _ => trivial)
  refine holds_bind (holds_answer (fun _ => ?_) fun _ => trivial)
  refine runProjectionMaintenance_fails reindex_resolves fun admission operationId s' hadmitted hdb
    hcurrent => ?_
  refine holds_bind (holds_look ?_)
  rw [hcurrent]
  dsimp only
  split
  · refine holds_bind (holds_openStore (fun store _ => ?_) fun _ => trivial)
    have hnew : (preparedMarker config (reindexOptions evidenceDigest config host fromBlock)
        operationId admission).activated.projectionPhase ≠ some .catchingUp := by
      intro hcatching
      obtain ⟨m, hexisting, hm⟩ := Option.bind_eq_some_iff.mp hcatching
      rw [hadmitted.existing] at hexisting
      exact hphase m hexisting hm
    rw [if_neg (by simpa using hnew)]
    have hrefresh : requiresSourceRefresh evidenceDigest store s'.db = true := by
      rw [requiresSourceRefresh, hdb, hmismatch, Bool.or_true]
    refine holds_bind (holds_look ?_)
    rw [if_pos hrefresh]
    refine holds_bind ((archiveSource_keeps _).mono ?_ fun _ _ => id)
    intro backupId s₁ hdb₁
    refine holds_bind (holds_pure (holds_bind (holds_updateMarker (fun _ => trivial)
      (fun _ _ => ?_) (fun _ _ _ => trivial) fun _ _ _ => trivial)))
    -- the refresh is refused, whatever the archive is
    have hrefused : ∀ db, prepareForReindex evidenceDigest store fromBlock (some backupId) s₁.db ≠
        .ok db := by
      intro db hprepare
      rw [hdb₁] at hprepare
      unfold prepareForReindex at hprepare
      rw [if_pos hrefresh] at hprepare
      simp only [failIf_bind_ok] at hprepare
      exact hprepare.2.1 (hdb ▸ hbeyond)
    exact holds_bind (holds_callStore (fun db hdb => absurd hdb (hrefused db))
      (fun _ _ _ => trivial) fun _ => trivial)
  · exact holds_refuse trivial

theorem reindex_refused_by_block {σ : Type} {evidenceDigest : Evidence → String} {config : Config}
    {host : Host σ} {fromBlock : ℕ} {s : Site} {m : MaintenanceMarker} (hm : s.marker = some m)
    (htype : m.operationType = .reindexProjection)
    (hfrom : m.reindexFromBlock ≠ some (Nat.repr fromBlock)) :
    Attempt.Refused evidenceDigest config ⟨.reindex fromBlock, host⟩ s := by
  refine (checkAdmission_holds reindex_resolves _).mono ?_ fun _ _ _ => trivial
  rintro admission _ ⟨_, hadmitted⟩
  cases htransition : admission.transition with
  | true =>
    have hrebuild := (hadmitted.transition m hm htransition).1
    rw [htype] at hrebuild
    cases hrebuild
  | false =>
    obtain ⟨_, _, ⟨hresolved, _⟩, hsame, _⟩ := hadmitted.resumed m hm htransition
    exact hfrom (hsame.trans hresolved)

/-- A block row of an abandoned fork whose digest was altered. -/
def alteredSite : Site := { emptySite with db := { emptySite.db with
  indexedBlocks := ⟨[⟨"0x05", 5, "0x04", 1000, false, true, "scope", 0, "altered"⟩], by simp⟩ } }

def partialReindex : List (Attempt Unit) := [⟨.reindex 1, localHost "0x01" fun _ => .done⟩]

/-- After the failed transaction no operation is admitted by any host or chain,
and after the cut reindex none is once the chain has replaced its target. A
partial reindex of an altered source leaves no other operation, and fails itself. -/
theorem maintenance_wedges :
    (let s := runAttempts (fun _ => "") localConfig failedRebuild emptySite
     s.marker.isSome = true ∧
        ∀ (τ : Type) (a : Attempt τ), a.Refused (fun _ => "") localConfig s) ∧
    (let s := runAttempts (fun _ => "") localConfig cutReindex emptySite
     s.marker.isSome = true ∧ ∀ a : Attempt Unit, a.host.chain = genesisChain "0x02" →
        a.Refused (fun _ => "") localConfig s) ∧
    (let s := runAttempts (fun _ => "") localConfig partialReindex alteredSite
     s.marker.isSome = true ∧ ∀ (τ : Type) (a : Attempt τ),
        a.Refused (fun _ => "") localConfig s ∨ a.Fails (fun _ => "") localConfig s) := by
  refine ⟨?_, ?_, ?_⟩
  · intro s
    have hsome : s.marker.isSome = true := by decide
    refine ⟨hsome, fun τ a => ?_⟩
    obtain ⟨m, hm⟩ := Option.isSome_iff_exists.mp hsome
    have hmarker : s.marker.map (fun m => (m.operationType,
        m.lastError.any (startsWith "REBUILD_SOURCE_INCOMPLETE"))) =
        some (.rebuildProjection, false) := by decide
    rw [hm] at hmarker
    obtain ⟨htype, hsource⟩ := Prod.mk.inj (Option.some.inj hmarker)
    obtain ⟨operation, host⟩ := a
    cases operation with
    | rebuild =>
      exact rebuild_refused (show s.db.isBarred = true by decide)
        (show s.db.runtimeStatus.recoveryReason ≠ some "PROJECTOR_INTEGRITY" by decide)
    | reindex fromBlock => exact reindex_refused_by_rebuild hm htype hsource
  · intro s
    have hsome : s.marker.isSome = true := by decide
    refine ⟨hsome, fun a hchain => ?_⟩
    obtain ⟨m, hm⟩ := Option.isSome_iff_exists.mp hsome
    have hmarker : s.marker.map (fun m => (m.operationType, m.targetHash)) =
        some (.reindexProjection, some "0x01") := by decide
    rw [hm] at hmarker
    obtain ⟨htype, hhash⟩ := Prod.mk.inj (Option.some.inj hmarker)
    obtain ⟨operation, host⟩ := a
    cases operation with
    | rebuild => exact rebuild_refused_by_reindex hm htype
    | reindex fromBlock =>
      refine reindex_refused_by_chain hm htype hhash ?_
      rintro number ⟨asked, turn, block, hread, _, hsame⟩
      dsimp only at hchain
      rw [hchain] at hread
      obtain rfl := Except.ok.inj hread
      exact absurd hsame (by decide)
  · intro s
    have hsome : s.marker.isSome = true := by decide
    refine ⟨hsome, fun τ a => ?_⟩
    obtain ⟨m, hm⟩ := Option.isSome_iff_exists.mp hsome
    have hmarker : s.marker.map (fun m => (m.operationType, m.reindexFromBlock,
        m.projectionPhase)) = some (.reindexProjection, some "1", some .preparing) := by decide
    rw [hm] at hmarker
    simp only [Option.map_some, Option.some.injEq, Prod.mk.injEq] at hmarker
    obtain ⟨htype, hfrom, hphase⟩ := hmarker
    obtain ⟨operation, host⟩ := a
    cases operation with
    | rebuild => exact .inl (rebuild_refused_by_reindex hm htype)
    | reindex fromBlock =>
      by_cases hblock : fromBlock = 1
      · rw [hblock]
        refine .inr (partial_reindex_fails (fun m' hm' => ?_) (by decide) (by decide))
        obtain rfl := Option.some.inj (hm.symm.trans hm')
        rw [hphase]
        decide
      · refine .inl (reindex_refused_by_block hm htype fun hsame => hblock ?_)
        exact repr_injective.mp (Option.some.inj (hsame.symm.trans hfrom))

end MotorCove.Maintenance
