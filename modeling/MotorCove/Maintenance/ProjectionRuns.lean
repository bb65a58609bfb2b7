import MotorCove.Maintenance.ProjectionOperation

/-!
# What an operation goes through

The admission reads and changes nothing. After it the site passes through marker
writes, the run, and at its end the marker's removal or its failed copy; what
each of these keeps, the operation keeps, wherever it stops.
-/

set_option autoImplicit false

namespace MotorCove.Maintenance
open MotorCove.Crashes MotorCove.Effects MotorCove.Fallible MotorCove.Histories MotorCove.Indexer
  MotorCove.Text

section
variable {σ α : Type} {config : Config} {host : Host σ} {options : ProjectionOptions α}

def barrierOf (db : Database) : Option (Option String) :=
  if db.runtimeStatus.projectionStatus = .recoveryRequired then
    some db.runtimeStatus.recoveryReason
  else none

theorem isBarred_iff {db : Database} :
    db.isBarred = true ↔ db.runtimeStatus.projectionStatus = .recoveryRequired := by
  simp only [Database.isBarred, beq_iff_eq]

/-- What holds of an admission that has passed every check. -/
structure Admitted (config : Config) (options : ProjectionOptions α)
    (R : Option MaintenanceMarker → ProjectionRecovery → Prop) (s : Site) (admission : Admission) :
    Prop where
  existing : admission.existing = s.marker
  barrier : admission.barrier = barrierOf s.db
  policy : options.operationType = .rebuildProjection → s.db.isBarred = true →
    s.db.runtimeStatus.recoveryReason = some "PROJECTOR_INTEGRITY"
  fresh : s.marker = none → admission.transition = false ∧ R none admission.recovery
  resumed : ∀ m, s.marker = some m → admission.transition = false →
    m.operationType = options.operationType ∧ m.isOf config = true ∧
    R (some m) admission.recovery ∧ m.reindexFromBlock = admission.recovery.reindexFromBlock ∧
    m.targetBlock = admission.recovery.targetBlock ∧ m.targetHash = admission.recovery.targetHash
  transition : ∀ m, s.marker = some m → admission.transition = true →
    m.operationType = .rebuildProjection ∧ options.operationType = .reindexProjection ∧
    m.lastError.any (startsWith "REBUILD_SOURCE_INCOMPLETE") = true ∧ R none admission.recovery

theorem Admitted.resolved {R : Option MaintenanceMarker → ProjectionRecovery → Prop} {s : Site}
    {admission : Admission}
    (h : Admitted config options R s admission) : ∃ existing, R existing admission.recovery := by
  cases hmarker : s.marker with
  | none => exact ⟨none, (h.fresh hmarker).2⟩
  | some m =>
    cases htransition : admission.transition with
    | true => exact ⟨none, (h.transition m hmarker htransition).2.2.2⟩
    | false => exact ⟨some m, (h.resumed m hmarker htransition).2.2.1⟩

/-- The resolution of the recovery changes nothing, and its results satisfy `R`. -/
def Resolves (options : ProjectionOptions α)
    (R : Option MaintenanceMarker → ProjectionRecovery → Prop) : Prop :=
  ∀ existing s, Holds (options.resolveRecovery existing) s
    (fun recovery s' => s' = s ∧ R existing recovery) fun _ s' => s' = s

theorem holds_answer {β : Type} {answer : ℕ → Site → Except (Failure String) β} {s : Site}
    {P : β → Site → Prop} {E : Failure String → Site → Prop} (h : ∀ b, P b s)
    (hE : ∀ failure, E failure s) : Holds (ask answer) s P E :=
  holds_ask (fun _ b _ => h b) fun _ failure _ => hE failure

theorem holds_setCurrentMarker {marker : Option MaintenanceMarker} {s : Site}
    {P : Unit → Site → Prop} {E : Failure String → Site → Prop}
    (h : P () { s with currentMarker := marker }) : Holds (setCurrentMarker marker) s P E :=
  holds_act (fun _ _ => h) (fun _ _ => nofun) fun _ _ => nofun

theorem isTransition_holds {m : MaintenanceMarker} {s : Site} :
    Holds (isSourceIncompleteRebuildTransition config options m) s
      (fun transition s' => s' = s ∧ (transition = true → m.operationType = .rebuildProjection ∧
        options.operationType = .reindexProjection ∧
        m.lastError.any (startsWith "REBUILD_SOURCE_INCOMPLETE") = true)) fun _ s' => s' = s := by
  unfold isSourceIncompleteRebuildTransition
  split
  · exact holds_pure ⟨rfl, nofun⟩
  · rename_i hall
    simp only [not_or, ne_eq, not_not, Bool.not_eq_false] at hall
    obtain ⟨_, hoptions, htype, _, hsource⟩ := hall
    exact holds_bind (holds_refuseIf (fun _ => holds_pure ⟨rfl, fun _ => ⟨htype, hoptions, hsource⟩⟩)
      fun _ => rfl)

theorem checkAdmission_holds {R : Option MaintenanceMarker → ProjectionRecovery → Prop}
    (hresolves : Resolves options R) (s : Site) :
    Holds (checkAdmission config host options) s
      (fun admission s' => s' = s ∧ Admitted config options R s admission) fun _ s' => s' = s := by
  unfold checkAdmission
  refine holds_bind (holds_answer (fun _ => ?_) fun _ => rfl)
  refine holds_bind (holds_answer (fun _ => ?_) fun _ => rfl)
  refine holds_bind (holds_look ?_)
  have hpolicy : ∀ {recovery : ProjectionRecovery} {transition : Bool},
      (s.marker = none → transition = false ∧ R none recovery) →
      (∀ m, s.marker = some m → transition = false →
        m.operationType = options.operationType ∧ m.isOf config = true ∧
        R (some m) recovery ∧ m.reindexFromBlock = recovery.reindexFromBlock ∧
        m.targetBlock = recovery.targetBlock ∧ m.targetHash = recovery.targetHash) →
      (∀ m, s.marker = some m → transition = true →
        m.operationType = .rebuildProjection ∧ options.operationType = .reindexProjection ∧
        m.lastError.any (startsWith "REBUILD_SOURCE_INCOMPLETE") = true ∧ R none recovery) →
      Holds (do
        ask fun turn _ => host.openProjectionDatabase turn
        let persisted ← look fun s => s.db.runtimeStatus
        refuseIf (persisted.projectionStatus = .recoveryRequired ∧
          options.operationType = .rebuildProjection ∧
          persisted.recoveryReason ≠ some "PROJECTOR_INTEGRITY")
          ("RECOVERY_OPERATION_NOT_ALLOWED: " ++ persisted.recoveryReason.getD "UNKNOWN")
        pure ⟨s.marker, transition, recovery, if persisted.projectionStatus = .recoveryRequired then
          some persisted.recoveryReason else none⟩ : Operation Admission) s
        (fun admission s' => s' = s ∧ Admitted config options R s admission)
        fun _ s' => s' = s := by
    intro recovery transition hfresh hresumed htransition
    refine holds_bind (holds_answer (fun _ => ?_) fun _ => rfl)
    refine holds_bind (holds_look ?_)
    refine holds_bind (holds_refuseIf (fun hallowed => ?_) fun _ => rfl)
    refine holds_pure ⟨rfl, ⟨rfl, rfl, fun htype hbarred => ?_, hfresh, hresumed, htransition⟩⟩
    by_contra hne
    exact hallowed ⟨isBarred_iff.mp hbarred, htype, hne⟩
  cases hmarker : s.marker with
  | none =>
    refine holds_bind (holds_pure (holds_bind (holds_pure ?_)))
    refine holds_bind ((hresolves none s).mono ?_ fun _ _ => id)
    rintro recovery s' ⟨rfl, hR⟩
    refine holds_bind (holds_refuseIf (fun _ => ?_) fun _ => rfl)
    refine holds_bind (holds_pure ?_)
    rw [← hmarker]
    exact hpolicy (fun _ => ⟨rfl, hR⟩) (fun m hm => (nomatch hmarker.symm.trans hm))
      fun m hm => (nomatch hmarker.symm.trans hm)
  | some m =>
    refine holds_bind (isTransition_holds.mono ?_ fun _ _ => id)
    rintro transition s' ⟨rfl, htypes⟩
    have hm' : ∀ m', s'.marker = some m' → m' = m :=
      fun m' h => Option.some.inj (h.symm.trans hmarker)
    cases transition with
    | true =>
      refine holds_bind (holds_pure ?_)
      refine holds_bind ((hresolves none s').mono ?_ fun _ _ => id)
      rintro recovery s'' ⟨rfl, hR⟩
      refine holds_bind (holds_refuseIf (fun _ => ?_) fun _ => rfl)
      refine holds_bind (holds_pure ?_)
      rw [← hmarker]
      refine hpolicy (fun hnone => (nomatch hnone.symm.trans hmarker)) (fun _ _ => nofun) ?_
      rintro m' hsome -
      obtain rfl := hm' m' hsome
      exact ⟨(htypes rfl).1, (htypes rfl).2.1, (htypes rfl).2.2, hR⟩
    | false =>
      refine holds_bind (holds_refuseIf (fun howner => ?_) fun _ => rfl)
      refine holds_bind ((hresolves (some m) s').mono ?_ fun _ _ => id)
      rintro recovery s'' ⟨rfl, hR⟩
      refine holds_bind (holds_refuseIf (fun _ => ?_) fun _ => rfl)
      refine holds_bind (holds_refuseIf (fun hsame => ?_) fun _ => rfl)
      rw [← hmarker]
      refine hpolicy (fun hnone => (nomatch hnone.symm.trans hmarker)) ?_ fun _ _ => nofun
      rintro m' hsome -
      obtain rfl := hm' m' hsome
      simp only [not_or, ne_eq, not_not, Bool.not_eq_false] at howner hsame
      exact ⟨howner.1, howner.2, hR, hsame.1, hsame.2.1, hsame.2.2⟩

def MaintenanceMarker.failedWith (m : MaintenanceMarker) (message : String) : MaintenanceMarker :=
  { m with stage := .failed, lastError := some message }

def MaintenanceMarker.activated (m : MaintenanceMarker) : MaintenanceMarker :=
  { m with stage := .active }

variable (config options) in
/-- What every step of an operation keeps of the site `s₀` it started from: `J`
throughout, `D` after a run that returned. -/
structure Carries (R : Option MaintenanceMarker → ProjectionRecovery → Prop) (s₀ : Site)
    (J D : Site → Prop) : Prop where
  start : J { s₀ with currentMarker := none }
  prepared : ∀ admission operationId, Admitted config options R s₀ admission →
    J { s₀ with currentMarker := some (preparedMarker config options operationId admission) }
  written : ∀ s m, J s → s.currentMarker = some m → J { s with marker := some m }
  failed : ∀ s m old message, J s → s.currentMarker = some m → s.marker = some old →
    J { s with marker := some (m.failedWith message) }
  activated : ∀ s m, J s → s.currentMarker = some m →
    J { s with currentMarker := some m.activated }
  raised : ∀ s reason, J s → J (s.called (.raiseBarrier reason) (barAgain reason s.db))
  run : ∀ admission operationId s, Admitted config options R s₀ admission → J s →
    s.db = s₀.db → s.calls = s₀.calls →
    s.currentMarker = some (preparedMarker config options operationId admission).activated →
    Holds (options.run admission.barrier) s (fun _ s' => D s') fun _ s' => J s'
  ran : ∀ s, D s → J s
  cleared : ∀ s, D s → J { s with marker := none }

variable {R : Option MaintenanceMarker → ProjectionRecovery → Prop} {s₀ s : Site}
  {J D : Site → Prop}

variable (host) in
theorem Carries.failMarker_holds {β : Type} {P : β → Site → Prop}
    (h : Carries config options R s₀ J D) (hs : J s) (message : String) :
    Holds (failMarker host message : Operation β) s P fun _ s' => J s' := by
  unfold failMarker
  refine holds_bind (holds_look ?_)
  split
  · rename_i current old hboth
    obtain ⟨hcurrent, hmarker⟩ := Prod.mk.inj hboth
    have hfailed := h.failed s current old message hs hcurrent hmarker
    exact holds_bind (holds_act_of (fun _ => holds_refuse hfailed) (fun _ _ => hfailed) fun _ => hs)
  · exact holds_refuse hs

theorem Carries.raiseBarrier_holds (h : Carries config options R s₀ J D) (hs : J s)
    (barrier : Option (Option String)) :
    Holds (raiseBarrier host barrier) s (fun _ s' => J s') fun _ s' => J s' := by
  cases barrier with
  | none => exact holds_pure hs
  | some reason =>
    have hraised := h.raised s reason hs
    unfold raiseBarrier
    exact holds_act_of (fun _ => hraised) (fun _ _ => hraised) fun _ => hs

theorem Carries.publishMarker_holds (h : Carries config options R s₀ J D)
    {m : MaintenanceMarker} (hs : J { s with currentMarker := some m }) :
    Holds (publishMarker host m) s
      (fun _ s' => s' = { s with currentMarker := some m, marker := some m } ∧ J s')
      fun _ s' => J s' := by
  have hwritten := h.written _ m hs rfl
  exact holds_bind (holds_setCurrentMarker (holds_act_of (fun _ => ⟨rfl, hwritten⟩)
    (fun _ _ => hwritten) fun _ => hs))

variable (host) in
theorem Carries.runActive_holds (h : Carries config options R s₀ J D)
    {admission : Admission} {operationId : String}
    (hadmitted : Admitted config options R s₀ admission) (hs : J s) (hdb : s.db = s₀.db)
    (hcalls : s.calls = s₀.calls)
    (hcurrent : s.currentMarker = some (preparedMarker config options operationId admission)) :
    Holds (runActive host options (preparedMarker config options operationId admission)
      admission.barrier) s (fun _ s' => D s') fun _ s' => J s' := by
  unfold runActive
  refine holds_bind (holds_answer (fun _ => ?_) fun _ => hs)
  refine holds_bind ((h.publishMarker_holds (h.activated s _ hs hcurrent)).mono ?_ fun _ _ => id)
  rintro _ _ ⟨rfl, hactive⟩
  refine holds_bind ((h.run admission operationId _ hadmitted hactive hdb hcalls rfl).mono ?_
    fun _ _ => id)
  intro result s' hs'
  refine holds_bind (holds_bind (holds_look (holds_refuseIf (fun _ => ?_) fun _ => h.ran s' hs')))
  exact holds_pure hs'

theorem Carries.runProjectionMaintenance_holds (h : Carries config options R s₀ J D)
    (hresolves : Resolves options R) :
    Holds (runProjectionMaintenance config host options) s₀
      (fun _ s' => ∃ s, D s ∧ s' = { s with marker := none }) fun _ s' => J s' := by
  unfold runProjectionMaintenance
  refine holds_bind (holds_setCurrentMarker ?_)
  refine holds_bind ((checkAdmission_holds hresolves _).mono ?_ fun _ s' hs' => hs' ▸ h.start)
  rintro admission s' ⟨rfl, hadmitted⟩
  have hadmitted₀ : Admitted config options R s₀ admission :=
    ⟨hadmitted.existing, hadmitted.barrier, hadmitted.policy, hadmitted.fresh, hadmitted.resumed,
      hadmitted.transition⟩
  refine holds_bind (holds_answer (fun fresh => ?_) fun _ => h.start)
  generalize (if admission.transition = true then fresh
    else (admission.existing.map fun m => m.operationId).getD fresh) = operationId
  have hprepared := h.prepared admission operationId hadmitted₀
  refine holds_bind (holds_setCurrentMarker ?_)
  -- Before the database is open again: the first write of the marker.
  have hfirst : Holds (attempt (do
      if admission.existing = none ∨ admission.transition = true then
        writeMarker host (preparedMarker config options operationId admission)
      else pure ()
      ask fun turn _ => host.openProjectionDatabase turn) fun message => failMarker host message)
      { s₀ with currentMarker := some (preparedMarker config options operationId admission) }
      (fun _ s' => J s' ∧ s'.db = s₀.db ∧ s'.calls = s₀.calls ∧
        s'.currentMarker = some (preparedMarker config options operationId admission))
      fun _ s' => J s' := by
    have hfail := fun s' (hs' : J s') => caught_of (P := fun (_ : Unit) s' => J s' ∧
        s'.db = s₀.db ∧ s'.calls = s₀.calls ∧
        s'.currentMarker = some (preparedMarker config options operationId admission))
      (E := fun _ s' => J s') hs' fun message => h.failMarker_holds host hs' message
    refine holds_attempt ?_
    split
    · have hwritten := h.written _ _ hprepared rfl
      exact holds_bind (holds_act_of
        (fun _ => holds_answer (fun _ => ⟨hwritten, rfl, rfl, rfl⟩) (hfail _ hwritten))
        (fun _ => hfail _ hwritten) (hfail _ hprepared))
    · exact holds_answer (fun _ => ⟨hprepared, rfl, rfl, rfl⟩) (hfail _ hprepared)
  refine holds_bind (hfirst.mono ?_ fun _ _ => id)
  rintro _ s₁ ⟨hs₁, hdb, hcalls, hcurrent⟩
  have hactive := h.runActive_holds host hadmitted₀ hs₁ hdb hcalls hcurrent
  refine holds_bind (holds_attempt (hactive.mono (fun result s₂ hs₂ => ?_)
    fun failure s₂ hs₂ => caught_of hs₂ (fun message => ?_) failure))
  · refine holds_bind (holds_attempt ?_)
    have hcleared := h.cleared s₂ hs₂
    exact holds_act_of (fun _ => holds_pure ⟨s₂, hs₂, rfl⟩)
      (fun _ => caught_of hcleared fun message => h.failMarker_holds host hcleared message)
      (caught_of (h.ran s₂ hs₂) fun message => h.failMarker_holds host (h.ran s₂ hs₂) message)
  · exact holds_bind ((h.raiseBarrier_holds hs₂ _).mono
      (fun _ s₃ hs₃ => h.failMarker_holds host hs₃ message) fun _ _ => id)

end

section
variable {σ : Type} {evidenceDigest : Evidence → String} {config : Config} {host : Host σ}
  {s : Site} {store : SqliteProjectionStore}

theorem barAgain_eq (reason : Option String) (db : Database) :
    ∃ status, barAgain reason db = db.setStatus status := by
  unfold barAgain
  split
  · exact ⟨db.runtimeStatus, rfl⟩
  · exact ⟨_, rfl⟩

theorem completeReindexRecovery_eq {target : ℕ} {targetHash : String} {db db' : Database}
    (h : completeReindexRecovery store target targetHash db = .ok db') :
    ∃ status, db' = db.setStatus status := by
  simp only [completeReindexRecovery, failIf_bind_ok] at h
  obtain ⟨_, h⟩ := h
  split at h
  · cases h
  · simp only [failIf_bind_ok, Except.ok.injEq] at h
    exact ⟨_, h.2.symm⟩

theorem ingestToObservation_eq (reader : ChainReader σ) (batchSize indexingDepth : ℕ)
    (finality : Finality) (w : Indexer.World σ) : ∃ status,
      (finalState (ingestToObservation reader batchSize indexingDepth finality) w).db =
        w.db.setStatus status := by
  refine (ends_final (Q := fun w' : Indexer.World σ => ∃ status, w'.db = w.db.setStatus status)).mp ?_
  have hof : ∀ {acts : List Act} {w' : Indexer.World σ}, Went w acts w' →
      ∃ status, w'.db = w.db.setStatus status := fun h => h.2
  unfold ingestToObservation
  split
  · exact ends_throw.mpr (hof (Went.refl w))
  · rw [ends_bind]
    refine (readCheckpoint_went w).mono (fun header w₁ h₁ => ?_) fun _ w₁ h₁ => ?_
    · obtain ⟨rfl, _⟩ := h₁
      rw [ends_bind]
      refine (verifyCheckpoint_went finality header w₁).mono (fun _ w₂ h₂ => ?_)
        fun _ _ h₂ => hof h₂
      rw [ends_bind]
      refine (readTarget_went finality indexingDepth _ w₂).mono (fun observation w₃ h₃ => ?_)
        fun _ _ h₃ => hof (h₂.trans h₃)
      rw [ends_bind]
      refine (update_observe_went _ _ w₃).mono (fun _ w₄ h₄ => ?_)
        fun _ _ h₄ => hof ((h₂.trans h₃).trans h₄.1)
      exact ends_pure.mpr (hof ((h₂.trans h₃).trans h₄.1))
    · rw [h₁]
      exact hof (Went.refl w)

theorem keeps_ingestToObservation {I : Database → Prop}
    (h : KeptByRequests evidenceDigest store I) (chain : ChainReader σ)
    (batchSize indexingDepth : ℕ) (finality : Finality) :
    Keeps I (ingestToObservation chain batchSize indexingDepth finality) := by
  unfold ingestToObservation
  split
  · exact keeps_throw _
  · exact keeps_bind keeps_readCheckpoint fun checkpoint =>
      keeps_bind (keeps_verifyCheckpoint h _ _) fun _ =>
      keeps_bind (keeps_readTarget h _ _ _) fun observation =>
      keeps_bind (keeps_update (h.observe _ _)) fun _ => keeps_pure _

theorem holds_callStore {call : StoreCall} {f : Database → Except StoreError Database}
    {P : Unit → Site → Prop} {E : Failure String → Site → Prop}
    (h : ∀ db, f s.db = .ok db → P () (s.called call db))
    (hdone : ∀ db failure, f s.db = .ok db → E failure (s.called call db))
    (hundone : ∀ failure, E failure s) : Holds (callStore config host call f) s P E := by
  refine holds_bind (holds_look ?_)
  split
  · exact holds_refuse (hundone _)
  · rename_i db hdb
    exact holds_act_of (fun _ => h db hdb) (fun _ failure => hdone db failure hdb) hundone

theorem holds_openStore {options : ProjectionMaintenanceOptions}
    {P : SqliteProjectionStore → Site → Prop} {E : Failure String → Site → Prop}
    (h : ∀ store, SqliteProjectionStore.open config.nftAddress config.logScopeHash (fun _ => false)
      (some options) s.db = .ok store → P store s)
    (hE : ∀ failure, E failure s) : Holds (openStore config options) s P E := by
  refine holds_bind (holds_look ?_)
  split
  · exact holds_refuse (hE _)
  · rename_i store hstore
    exact holds_pure (h store hstore)

theorem holds_readStoreCheckpoint {P : Option BlockHeader → Site → Prop}
    {E : Failure String → Site → Prop} (h : ∀ header, checkpoint s.db = .ok header → P header s)
    (hE : ∀ failure, E failure s) : Holds (readStoreCheckpoint config) s P E := by
  refine holds_bind (holds_look ?_)
  split
  · exact holds_refuse (hE _)
  · rename_i header hheader
    exact holds_pure (h header hheader)

theorem holds_updateMarker {f : MaintenanceMarker → MaintenanceMarker} {P : Unit → Site → Prop}
    {E : Failure String → Site → Prop} (hE : ∀ failure, E failure s)
    (h : ∀ m, s.currentMarker = some m →
      P () { s with currentMarker := some (f m), marker := some (f m) })
    (hdone : ∀ m failure, s.currentMarker = some m →
      E failure { s with currentMarker := some (f m), marker := some (f m) })
    (hundone : ∀ m failure, s.currentMarker = some m →
      E failure { s with currentMarker := some (f m) }) :
    Holds (updateMarker host f) s P E := by
  refine holds_bind (holds_look ?_)
  split
  · exact holds_refuse (hE _)
  · rename_i m hm
    exact holds_bind (holds_setCurrentMarker (holds_act_of (fun _ => h m hm)
      (fun _ failure => hdone m failure hm) fun failure => hundone m failure hm))

/-- What a rebuild keeps: `B` before its transaction, `C` after it, `J` in failure. -/
theorem runRebuild_holds {operationType : OperationType} {barrier : Option (Option String)}
    {C J : Site → Prop} (hs : J s) (hofC : ∀ s, C s → J s)
    (hrebuilt : ∀ id events db, verifyRebuildSource evidenceDigest s.db = .ok () →
      rebuildTransaction store id (store.allowReindexRecovery && s.db.isBarred) s.db =
        .ok (events, db) → C (s.called (.rebuildFromJournal operationType barrier id) db))
    (hfailed : ∀ s reason, J s → J (s.called (.rebuildFailed reason)
      (markRecoveryRequired reason s.db))) :
    Holds (runRebuild evidenceDigest config host store operationType barrier) s
      (fun _ s' => C s') fun _ s' => J s' := by
  have hcaught := fun s' (hs' : J s') => caught_of (P := fun (_ : ℕ) s' => C s')
    (E := fun _ s' => J s') (d := s') hs' fun message =>
      (holds_bind (holds_act_of (fun _ => holds_refuse (hfailed s' _ hs'))
        (fun _ _ => hfailed s' _ hs') fun _ => hs') : Holds (do
          let reason := if startsWith "REBUILD_SOURCE_INCOMPLETE" message = true then
            "REBUILD_SOURCE_INCOMPLETE" else "REBUILD_FAILED"
          act host.operation fun _ s => s.called (.rebuildFailed reason)
            (markRecoveryRequired reason s.db)
          refuse message) s' _ _)
  unfold runRebuild
  refine holds_bind (holds_answer (fun id => ?_) fun _ => hs)
  refine holds_bind (holds_look (holds_attempt (holds_bind (holds_look ?_))))
  split
  · exact holds_refuse (hcaught s hs _)
  · rename_i hverified
    split
    · exact holds_refuse (hcaught s hs _)
    · rename_i events db hdb
      have hC := hrebuilt id events db hverified hdb
      exact holds_bind (holds_act_of (fun _ => holds_pure hC) (fun _ => hcaught _ (hofC _ hC))
        (hcaught s hs))

/-- Each ingestion towards a target keeps `C`, in full or cut. -/
def KeepsIngest (evidenceDigest : Evidence → String) (config : Config) (host : Host σ)
    (store : SqliteProjectionStore) (target : ℕ) (C : Site → Prop) : Prop :=
  ∀ turn s, C s →
    C (s.called .ingestRange (finalState (Indexer.ingestRange evidenceDigest store host.chain
      config.batchSize config.scanStartBlock config.indexingDepth (some target) config.finality)
      ⟨host.chainAt turn, s.db, []⟩).db) ∧
    C (s.called .ingestRange (finalState (ingestToObservation host.chain config.batchSize
      config.indexingDepth config.finality) ⟨host.chainAt turn, s.db, []⟩).db)

variable {C J : Site → Prop} {target : ℕ}

theorem runIngest_holds (h : KeepsIngest evidenceDigest config host store target C)
    (hofC : ∀ s, C s → J s) (hs : C s) :
    Holds (runIngest evidenceDigest config host store target) s (fun _ s' => C s')
      fun _ s' => J s' := by
  refine holds_perform (fun turn _ s' hwhole => ?_) (fun turn _ s' hwhole => ?_)
    (fun turn _ => hofC _ (h turn s hs).1) fun turn _ => ?_
  · exact (Prod.mk.inj hwhole).2 ▸ (h turn s hs).1
  · exact hofC _ ((Prod.mk.inj hwhole).2 ▸ (h turn s hs).1)
  · split
    · exact hofC _ (h turn s hs).2
    · exact hofC _ hs

theorem catchUpFrom_holds (h : KeepsIngest evidenceDigest config host store target C)
    (hofC : ∀ s, C s → J s) {before : Option BlockHeader} (hs : C s) :
    Holds (catchUpFrom evidenceDigest config host store target before) s (fun _ s' => C s')
      fun _ s' => J s' := by
  induction hn : target + 1 - heightOf before using Nat.strongRecOn generalizing before s with
  | ind n ih =>
    rw [catchUpFrom]
    split
    · exact holds_pure hs
    · refine holds_bind ((runIngest_holds h hofC hs).mono ?_ fun _ _ => id)
      intro _ s' hs'
      refine holds_bind (holds_readStoreCheckpoint (fun after _ => ?_) fun _ => hofC s' hs')
      split
      · exact ih _ (by omega) hs' rfl
      · exact holds_refuse (hofC s' hs')

end

section
variable {σ : Type} (evidenceDigest : Evidence → String) (config : Config) (host : Host σ)
  (fromBlock : ℕ)

structure ReindexStore (store : SqliteProjectionStore) : Prop where
  allow : store.allowReindexRecovery = true
  collection : store.collectionAddress = config.nftAddress
  scope : store.logScopeHash = config.logScopeHash

structure ReindexOpened (store : SqliteProjectionStore) (db : Database) : Prop extends
    ReindexStore config store where
  changed : store.sourceScopeChanged = decide (db.checkpoint.logScopeHash ≠ config.logScopeHash)
  full : db.checkpoint.logScopeHash ≠ config.logScopeHash → fromBlock = config.scanStartBlock

/-- What the steps of a reindex under a marker of `M` keep: `J` throughout, `A`
from the phase PREPARING on, `B` before the replay, `C` after it, `D` at the end. -/
structure ReindexSteps (M : MaintenanceMarker → Prop) (J A B C D : Site → Prop) : Prop where
  ofA : ∀ s, A s → J s
  ofB : ∀ s, B s → J s
  ofC : ∀ s, C s → J s
  resumed : ∀ s m, J s → s.currentMarker = some m → m.projectionPhase = some .catchingUp → B s
  archived : ∀ s m backupId, J s → s.currentMarker = some m →
    J { s with currentMarker := some { m with backupId := some backupId } } ∧
    J { s with currentMarker := some { m with backupId := some backupId }
               marker := some { m with backupId := some backupId } }
  preparing : ∀ s m, J s → s.currentMarker = some m → m.projectionPhase ≠ some .catchingUp →
    J { s with currentMarker := some { m with projectionPhase := some .preparing } } ∧
    A { s with currentMarker := some { m with projectionPhase := some .preparing }
               marker := some { m with projectionPhase := some .preparing } }
  prepared : ∀ s store verifiedBackupId db, A s → ReindexOpened config fromBlock store s.db →
    prepareForReindex evidenceDigest store fromBlock verifiedBackupId s.db = .ok db →
    B (s.called (.prepareForReindex fromBlock) db)
  rebuilt : ∀ s store barrier id events db, ReindexStore config store → B s →
    verifyRebuildSource evidenceDigest s.db = .ok () →
    rebuildTransaction store id (store.allowReindexRecovery && s.db.isBarred) s.db =
      .ok (events, db) →
    C (s.called (.rebuildFromJournal .reindexProjection barrier id) db)
  rebuildFailed : ∀ s reason, J s →
    J (s.called (.rebuildFailed reason) (markRecoveryRequired reason s.db))
  catchingUp : ∀ s m, C s → s.currentMarker = some m →
    C { s with currentMarker := some { m with projectionPhase := some .catchingUp } } ∧
    C { s with currentMarker := some { m with projectionPhase := some .catchingUp }
               marker := some { m with projectionPhase := some .catchingUp } }
  ingested : ∀ store m targetBlock, ReindexStore config store → M m →
    m.targetBlock = some targetBlock →
    KeepsIngest evidenceDigest config host store (value targetBlock.toList) C
  completed : ∀ s store m targetBlock targetHash header db, ReindexStore config store → C s → M m →
    m.targetBlock = some targetBlock → m.targetHash = some targetHash →
    checkpoint s.db = .ok header → value targetBlock.toList < heightOf header →
    hasCanonicalBlock (value targetBlock.toList) targetHash s.db = true →
    completeReindexRecovery store (value targetBlock.toList) targetHash s.db = .ok db →
    J (s.called (.completeReindexRecovery m) db) ∧ D (s.called (.completeReindexRecovery m) db)

variable {evidenceDigest config host fromBlock} {s : Site} {M : MaintenanceMarker → Prop}
  {J A B C D : Site → Prop} {m : MaintenanceMarker}

theorem ReindexSteps.archiveSource_holds (h : ReindexSteps evidenceDigest config host fromBlock M J A B C D)
    (hs : J s) (hm : s.currentMarker = some m) :
    Holds (archiveSource host m) s
      (fun _ s' => J s' ∧ s'.db = s.db ∧
        ∃ m', s'.currentMarker = some m' ∧ m'.projectionPhase = m.projectionPhase)
      fun _ s' => J s' := by
  unfold archiveSource
  split
  · exact holds_bind (holds_answer (fun _ => holds_pure ⟨hs, rfl, m, hm, rfl⟩) fun _ => hs)
  · refine holds_bind (holds_answer (fun backupId => ?_) fun _ => hs)
    refine holds_bind (holds_answer (fun _ => ?_) fun _ => hs)
    refine holds_bind (holds_updateMarker (fun _ => hs) (fun m' hm' => ?_)
      (fun m' _ hm' => (h.archived s m' backupId hs hm').2)
      fun m' _ hm' => (h.archived s m' backupId hs hm').1)
    obtain rfl := Option.some.inj (hm.symm.trans hm')
    exact holds_pure ⟨(h.archived s m backupId hs hm).2, rfl, _, rfl, rfl⟩

theorem openStore_fields {options : ProjectionMaintenanceOptions} {db : Database}
    {store : SqliteProjectionStore}
    (h : SqliteProjectionStore.open config.nftAddress config.logScopeHash (fun _ => false)
      (some options) db = .ok store) :
    store.allowReindexRecovery = options.allowReindexRecovery ∧
      store.collectionAddress = config.nftAddress ∧ store.logScopeHash = config.logScopeHash := by
  simp only [SqliteProjectionStore.open, failIf_bind_ok, Except.ok.injEq] at h
  rw [← h.2]
  exact ⟨rfl, rfl, rfl⟩

theorem reindexOpened_of_open {store : SqliteProjectionStore} {db : Database}
    (h : SqliteProjectionStore.open config.nftAddress config.logScopeHash (fun _ => false)
      (some ⟨["0"], decide (fromBlock = config.scanStartBlock), true⟩) db = .ok store) :
    ReindexOpened config fromBlock store db := by
  simp only [SqliteProjectionStore.open, failIf_bind_ok, Except.ok.injEq] at h
  obtain ⟨hsupported, rfl⟩ := h
  refine ⟨⟨rfl, rfl, rfl⟩, rfl, fun hchanged => ?_⟩
  by_contra hpartial
  exact hsupported (.inr (by simp [hchanged, hpartial]))

theorem ReindexSteps.prepare_holds (h : ReindexSteps evidenceDigest config host fromBlock M J A B C D)
    {store : SqliteProjectionStore} (hopened : ReindexOpened config fromBlock store s.db)
    {verifiedBackupId : Option String} {rest : Operation ℕ} (hrest : ∀ s, B s → Holds rest s (fun _ s' => D s') fun _ s' => J s')
    (hs : J s) (hm : s.currentMarker = some m) (hphase : m.projectionPhase ≠ some .catchingUp) :
    Holds (do
      updateMarker host fun m => { m with projectionPhase := some .preparing }
      callStore config host (.prepareForReindex fromBlock)
        (prepareForReindex evidenceDigest store fromBlock verifiedBackupId)
      rest) s (fun _ s' => D s') fun _ s' => J s' := by
  have hof : ∀ m', s.currentMarker = some m' → m'.projectionPhase ≠ some .catchingUp := by
    intro m' hm'
    rwa [← Option.some.inj (hm.symm.trans hm')]
  refine holds_bind (holds_updateMarker (fun _ => hs) (fun m' hm' => ?_)
    (fun m' _ hm' => h.ofA _ (h.preparing s m' hs hm' (hof m' hm')).2)
    fun m' _ hm' => (h.preparing s m' hs hm' (hof m' hm')).1)
  have hprepared := fun db => h.prepared _ store verifiedBackupId db
    (h.preparing s m' hs hm' (hof m' hm')).2 hopened
  exact holds_bind (holds_callStore (fun db hdb => hrest _ (hprepared db hdb))
    (fun db _ hdb => h.ofB _ (hprepared db hdb))
    fun _ => h.ofA _ (h.preparing s m' hs hm' (hof m' hm')).2)

theorem ReindexSteps.replay_holds (h : ReindexSteps evidenceDigest config host fromBlock M J A B C D)
    {store : SqliteProjectionStore} (barrier : Option (Option String))
    {targetBlock targetHash : String} (hstore : ReindexStore config store) (hmarker : M m)
    (hblock : m.targetBlock = some targetBlock)
    (hhash : m.targetHash = some targetHash) (hs : B s) :
    Holds (do
      let events ← runRebuild evidenceDigest config host store .reindexProjection barrier
      updateMarker host fun m => { m with projectionPhase := some .catchingUp }
      catchUpToReindexTarget evidenceDigest config host store (value targetBlock.toList)
      let checkpoint ← readStoreCheckpoint config
      let reached ← look fun s => hasCanonicalBlock (value targetBlock.toList) targetHash s.db
      refuseIf (¬value targetBlock.toList < heightOf checkpoint ∨ reached = false)
        "REINDEX_CATCHUP_INCOMPLETE"
      callStore config host (.completeReindexRecovery m)
        (completeReindexRecovery store (value targetBlock.toList) targetHash)
      pure events) s (fun _ s' => D s') fun _ s' => J s' := by
  refine holds_bind ((runRebuild_holds (C := C) (h.ofB s hs) h.ofC (fun id events db => ?_)
    h.rebuildFailed).mono ?_ fun _ _ => id)
  · exact h.rebuilt s store barrier id events db hstore hs
  intro events s₁ hs₁
  refine holds_bind (holds_updateMarker (fun _ => h.ofC s₁ hs₁) (fun m' hm' => ?_)
    (fun m' _ hm' => h.ofC _ (h.catchingUp s₁ m' hs₁ hm').2)
    fun m' _ hm' => h.ofC _ (h.catchingUp s₁ m' hs₁ hm').1)
  have hphase := (h.catchingUp s₁ m' hs₁ hm').2
  have hingested := h.ingested store m targetBlock hstore hmarker hblock
  refine holds_bind (holds_bind (holds_readStoreCheckpoint (fun before _ => ?_)
    fun _ => h.ofC _ hphase))
  refine (catchUpFrom_holds hingested h.ofC hphase).mono ?_ fun _ _ => id
  intro _ s₂ hs₂
  refine holds_bind (holds_readStoreCheckpoint (fun header hheader => ?_) fun _ => h.ofC s₂ hs₂)
  refine holds_bind (holds_look ?_)
  refine holds_bind (holds_refuseIf (fun hreached => ?_) fun _ => h.ofC s₂ hs₂)
  simp only [not_or, not_not, Bool.not_eq_false] at hreached
  have hcompleted := fun db => h.completed s₂ store m targetBlock targetHash header db hstore hs₂
    hmarker hblock hhash hheader hreached.1 hreached.2
  exact holds_bind (holds_callStore (fun db hdb => holds_pure (hcompleted db hdb).2)
    (fun db _ hdb => (hcompleted db hdb).1) fun _ => h.ofC s₂ hs₂)

theorem ReindexSteps.run_holds (h : ReindexSteps evidenceDigest config host fromBlock M J A B C D)
    (hs : J s) (hm : s.currentMarker = some m) (hmarker : M m)
    (barrier : Option (Option String)) :
    Holds ((reindexOptions evidenceDigest config host fromBlock).run barrier) s
      (fun _ s' => D s') fun _ s' => J s' := by
  refine holds_bind (holds_look ?_)
  rw [hm]
  dsimp only
  split
  · rename_i targetBlock targetHash hblock hhash
    refine holds_bind (holds_openStore (fun store hstore => ?_) fun _ => hs)
    have hopened := reindexOpened_of_open hstore
    have hreplay := fun s (hs : B s) => h.replay_holds barrier
      hopened.toReindexStore hmarker hblock hhash hs
    split
    · rename_i hphase
      exact hreplay s (h.resumed s m hs hm (by simpa using hphase))
    · rename_i hphase
      have hphase : m.projectionPhase ≠ some .catchingUp := by simpa using hphase
      refine holds_bind (holds_look ?_)
      split
      · refine holds_bind ((h.archiveSource_holds hs hm).mono ?_ fun _ _ => id)
        rintro backupId s₁ ⟨hs₁, hdb₁, m₁, hm₁, hphase₁⟩
        refine holds_bind (holds_pure ?_)
        exact h.prepare_holds (hdb₁ ▸ hopened) hreplay hs₁ hm₁ (hphase₁ ▸ hphase)
      · exact holds_bind (holds_pure (h.prepare_holds hopened hreplay hs hm hphase))
  · exact holds_refuse hs

end

section
variable {σ : Type} {evidenceDigest : Evidence → String} {config : Config} {host : Host σ}
  {fromBlock : ℕ} {s : Site}

/-- Some answer of the chain was a block of this number and hash. -/
def Host.Gave (host : Host σ) (number : ℕ) (hash : String) : Prop :=
  ∃ asked turn block, (host.chain.getBlock asked (host.chainAt turn)).1 = .ok block ∧
    block.number = number ∧ lower block.hash = lower hash

def Targeted (host : Host σ) (fromBlock : ℕ) (_ : Option MaintenanceMarker)
    (recovery : ProjectionRecovery) : Prop :=
  recovery.reindexFromBlock = some (Nat.repr fromBlock) ∧ ∃ targetBlock targetHash,
    recovery.targetBlock = some targetBlock ∧ recovery.targetHash = some targetHash ∧
    isDecimal targetBlock = true ∧ host.Gave (value targetBlock.toList) targetHash

theorem holds_readBlock {number : ℕ} {P : BlockHeader → Site → Prop}
    {E : Failure String → Site → Prop}
    (h : ∀ turn block, (host.chain.getBlock number (host.chainAt turn)).1 = .ok block → P block s)
    (hE : ∀ failure, E failure s) : Holds (readBlock host number) s P E := by
  refine holds_ask (fun turn block hread => ?_) fun _ failure _ => hE failure
  cases hblock : (host.chain.getBlock number (host.chainAt turn)).1 with
  | ok answer =>
    rw [hblock] at hread
    obtain rfl := Except.ok.inj hread
    exact h turn answer hblock
  | error e =>
    rw [hblock] at hread
    cases hread

theorem isDecimal_repr (n : ℕ) : isDecimal (Nat.repr n) = true := by
  simp only [isDecimal, Bool.and_eq_true, List.all_eq_true, decide_eq_true_eq]
  constructor
  · intro hnil
    have hlength : 0 < (Nat.repr n).length := Nat.length_repr_pos
    rw [← String.length_toList, hnil] at hlength
    exact absurd hlength (by decide)
  · exact repr_isDigit n

theorem rebuild_resolves : Resolves (rebuildOptions evidenceDigest config host)
    fun _ recovery => recovery = noRecovery := fun _ _ => holds_pure ⟨rfl, rfl⟩

theorem reindex_resolves : Resolves (reindexOptions evidenceDigest config host fromBlock)
    (Targeted host fromBlock) := by
  intro existing s
  cases existing with
  | none =>
    refine holds_bind (holds_bind (holds_answer (fun observation => ?_) fun _ => rfl))
    split
    · exact holds_refuse rfl
    · rename_i eligibleHead _
      refine holds_bind (holds_readBlock (fun _ first _ => ?_) fun _ => rfl)
      refine holds_bind (holds_readBlock (fun turn confirmation hread => ?_) fun _ => rfl)
      refine holds_bind (holds_refuseIf (fun _ => ?_) fun _ => rfl)
      refine holds_pure (holds_pure ⟨rfl, rfl, Nat.repr confirmation.number, confirmation.hash,
        rfl, rfl, isDecimal_repr _, eligibleHead.number, turn, confirmation, hread, ?_, rfl⟩)
      rw [value_repr]
  | some m =>
    refine holds_bind (holds_refuseIf (fun hfrom => ?_) fun _ => rfl)
    split
    · rename_i targetBlock targetHash hblock hhash
      refine holds_bind (holds_refuseIf (fun hdecimal => ?_) fun _ => rfl)
      refine holds_bind (holds_readBlock (fun _ first _ => ?_) fun _ => rfl)
      refine holds_bind (holds_readBlock (fun turn confirmation hread => ?_) fun _ => rfl)
      refine holds_bind (holds_refuseIf (fun hagrees => ?_) fun _ => rfl)
      simp only [not_or, ne_eq, not_not] at hfrom hagrees
      exact holds_pure ⟨rfl, hfrom, targetBlock, targetHash, rfl, rfl, by simpa using hdecimal,
        value targetBlock.toList, turn, confirmation, hread, hagrees.2.1, hagrees.2.2.2⟩
    · exact holds_refuse rfl

end
end MotorCove.Maintenance
