import MotorCove.Indexer.Digest
import MotorCove.Maintenance.ProjectionRuns

/-!
# What lowers the recovery barrier

Each call on the tables is either lawful for the barrier or one of the two that
may lower it: the replay of a rebuild admitted for its reason, and the end of a
reindex that reached its target.
-/

set_option autoImplicit false

namespace MotorCove.Maintenance
open MotorCove.Crashes MotorCove.Effects MotorCove.Fallible MotorCove.Histories MotorCove.Indexer
  MotorCove.Text

section
variable (evidenceDigest : Evidence → String)

def Clears (before : Database) : StoreCall → Database → Prop
  | .rebuildFromJournal operationType barrier projectionBuildId, after =>
    operationType = .rebuildProjection ∧ barrier = some (some "PROJECTOR_INTEGRITY") ∧
      before.runtimeStatus.recoveryReason = some "PROJECTOR_INTEGRITY" ∧
      ∃ store events, rebuildFromJournal evidenceDigest store projectionBuildId before =
        (.ok events, after)
  | .completeReindexRecovery marker, _ =>
    marker.operationType = .reindexProjection ∧ ∃ targetBlock targetHash,
      marker.targetBlock = some targetBlock ∧ marker.targetHash = some targetHash ∧
      hasCanonicalBlock (value targetBlock.toList) targetHash before = true
  | _, _ => False

def Lawful (before : Database) (call : StoreCall) (after : Database) : Prop :=
  before.isBarred = true → after.isBarred = false → Clears evidenceDigest before call after

/-- The calls since `s₀` are lawful and lead to the tables of `s`. -/
def Noted (s₀ s : Site) : Prop :=
  ∃ calls, s.calls = s₀.calls ++ calls ∧ IsHistory (Lawful evidenceDigest) s₀.db calls s.db

variable {evidenceDigest} {s₀ s s' : Site}

theorem Noted.refl (s : Site) : Noted evidenceDigest s s :=
  ⟨[], (List.append_nil _).symm, rfl⟩

theorem Noted.trans (h : Noted evidenceDigest s₀ s) (h' : Noted evidenceDigest s s') :
    Noted evidenceDigest s₀ s' := by
  obtain ⟨calls, hcalls, hpast⟩ := h
  obtain ⟨calls', hcalls', hrest⟩ := h'
  refine ⟨calls ++ calls', ?_, (isHistory_append _).mpr ⟨s.db, hpast, hrest⟩⟩
  rw [hcalls', hcalls, List.append_assoc]

theorem Noted.called (h : Noted evidenceDigest s₀ s) {call : StoreCall} {db : Database}
    (hlawful : Lawful evidenceDigest s.db call db) :
    Noted evidenceDigest s₀ (s.called call db) :=
  h.trans ⟨[⟨s.db, call, db⟩], rfl, rfl, hlawful, rfl⟩

theorem lawful_of_barred {before after : Database} {call : StoreCall}
    (h : before.isBarred = true → after.isBarred = true) :
    Lawful evidenceDigest before call after := by
  intro hbefore hafter
  rw [h hbefore] at hafter
  cases hafter

theorem barAgain_isBarred (reason : Option String) (db : Database) :
    (barAgain reason db).isBarred = true := by
  unfold barAgain
  split
  · assumption
  · rfl

theorem markReindexStarted_isBarred {store : SqliteProjectionStore} {reason : String}
    {db : Database} (hallow : store.allowReindexRecovery = true) (h : db.isBarred = true) :
    (markReindexStarted store reason db).isBarred = true := by
  unfold markReindexStarted
  rw [if_pos ⟨hallow, isBarred_iff.mp h⟩]
  exact h

theorem prepareForReindex_isBarred {store : SqliteProjectionStore} {fromBlock : ℕ}
    {verifiedBackupId : Option String} {db db' : Database}
    (hallow : store.allowReindexRecovery = true) (h : db.isBarred = true)
    (hprepare : prepareForReindex evidenceDigest store fromBlock verifiedBackupId db = .ok db') :
    db'.isBarred = true := by
  unfold prepareForReindex at hprepare
  split at hprepare
  · simp only [failIf_bind_ok, Except.ok.injEq] at hprepare
    obtain ⟨_, _, rfl⟩ := hprepare
    exact markReindexStarted_isBarred hallow h
  · obtain rfl := Except.ok.inj hprepare
    exact markReindexStarted_isBarred hallow h

theorem rebuildTransaction_isBarred {store : SqliteProjectionStore} {id : String} {events : ℕ}
    {db db' : Database} (h : db.isBarred = true)
    (hrebuild : rebuildTransaction store id true db = .ok (events, db')) : db'.isBarred = true := by
  simp only [rebuildTransaction, bind_ok, if_true, Except.ok.injEq, Prod.mk.injEq] at hrebuild
  obtain ⟨_, _, _, rfl⟩ := hrebuild
  exact h

theorem rebuildFromJournal_of {store : SqliteProjectionStore} {id : String} {events : ℕ}
    {db db' : Database} (hverified : verifyRebuildSource evidenceDigest db = .ok ())
    (hrebuild : rebuildTransaction store id (store.allowReindexRecovery && db.isBarred) db =
      .ok (events, db')) :
    rebuildFromJournal evidenceDigest store id db = (.ok events, db') := by
  simp only [Database.isBarred] at hrebuild
  simp only [rebuildFromJournal, hverified, hrebuild]
  rfl

end

section
variable {σ : Type} {evidenceDigest : Evidence → String} {config : Config} {host : Host σ}
  {fromBlock : ℕ}

theorem rebuild_carries (s₀ : Site) :
    Carries config (rebuildOptions evidenceDigest config host) (fun _ recovery => recovery = noRecovery)
      s₀ (Noted evidenceDigest s₀) (Noted evidenceDigest s₀) where
  start := Noted.refl s₀
  prepared := fun _ _ _ => Noted.refl s₀
  written := fun _ _ h _ => h
  failed := fun _ _ _ _ h _ _ => h
  activated := fun _ _ h _ => h
  raised := fun _ reason h => h.called (lawful_of_barred fun _ => barAgain_isBarred reason _)
  run := by
    intro admission operationId s hadmitted hs hdb _ _
    refine holds_bind (holds_openStore (fun store hstore => ?_) fun _ => hs)
    refine runRebuild_holds hs (fun _ => id) (fun id events db hverified hrebuild => ?_) ?_
    · refine hs.called fun hbarred _ => ?_
      have hbarred₀ : s₀.db.isBarred = true := hdb ▸ hbarred
      have hreason := hadmitted.policy rfl hbarred₀
      refine ⟨rfl, ?_, hdb ▸ hreason, store, events, rebuildFromJournal_of hverified hrebuild⟩
      rw [hadmitted.barrier, barrierOf, if_pos (isBarred_iff.mp hbarred₀), hreason]
    · exact fun s reason h => h.called (lawful_of_barred fun _ => rfl)
  ran := fun _ => id
  cleared := fun _ h => h

/-- What a reindex keeps: the calls are lawful, and its marker is a reindex's. -/
def NotedReindex (evidenceDigest : Evidence → String) (s₀ s : Site) : Prop :=
  Noted evidenceDigest s₀ s ∧ ∀ m, s.currentMarker = some m → m.operationType = .reindexProjection

theorem reindex_steps (s₀ : Site) :
    ReindexSteps evidenceDigest config host fromBlock
      (fun m => m.operationType = .reindexProjection) (NotedReindex evidenceDigest s₀)
      (NotedReindex evidenceDigest s₀) (NotedReindex evidenceDigest s₀)
      (NotedReindex evidenceDigest s₀) (NotedReindex evidenceDigest s₀) := by
  have hupdate : ∀ (s : Site) (m : MaintenanceMarker), m.operationType = .reindexProjection →
      NotedReindex evidenceDigest s₀ s →
      NotedReindex evidenceDigest s₀ { s with currentMarker := some m } ∧
      NotedReindex evidenceDigest s₀ { s with currentMarker := some m, marker := some m } := by
    intro s m htype hs
    have hall : ∀ m', some m = some m' → m'.operationType = .reindexProjection := by
      rintro m' ⟨⟩
      exact htype
    exact ⟨⟨hs.1, hall⟩, ⟨hs.1, hall⟩⟩
  constructor
  case ofA => exact fun _ => id
  case ofB => exact fun _ => id
  case ofC => exact fun _ => id
  case resumed => exact fun _ _ h _ _ => h
  case archived => exact fun s m backupId hs hm => hupdate s _ (hs.2 m hm) hs
  case preparing => exact fun s m hs hm _ => hupdate s _ (hs.2 m hm) hs
  case prepared =>
    intro s store verifiedBackupId db hs hopened hprepare
    exact ⟨hs.1.called (lawful_of_barred fun h =>
      prepareForReindex_isBarred hopened.allow h hprepare), hs.2⟩
  case rebuilt =>
    intro s store barrier id events db hstore hs _ hrebuild
    refine ⟨hs.1.called (lawful_of_barred fun h => ?_), hs.2⟩
    rw [hstore.allow, h] at hrebuild
    exact rebuildTransaction_isBarred h hrebuild
  case rebuildFailed =>
    exact fun s reason hs => ⟨hs.1.called (lawful_of_barred fun _ => rfl), hs.2⟩
  case catchingUp => exact fun s m hs hm => hupdate s _ (hs.2 m hm) hs
  case ingested =>
    intro store m targetBlock _ _ _ turn s hs
    have hkept := barred_requests evidenceDigest store
    constructor
    · refine ⟨hs.1.called (lawful_of_barred fun h => ?_), hs.2⟩
      exact ends_final.mp (keeps_ingestRange hkept config.batchSize config.scanStartBlock
        config.indexingDepth (some (value targetBlock.toList)) config.finality _ h)
    · refine ⟨hs.1.called (lawful_of_barred fun h => ?_), hs.2⟩
      exact ends_final.mp (keeps_ingestToObservation hkept host.chain config.batchSize
        config.indexingDepth config.finality _ h)
  case completed =>
    intro s store m targetBlock targetHash header db _ hs htype hblock hhash _ _ hreached _
    have hcalled : NotedReindex evidenceDigest s₀ (s.called (.completeReindexRecovery m) db) :=
      ⟨hs.1.called fun _ _ => ⟨htype, targetBlock, targetHash, hblock, hhash, hreached⟩, hs.2⟩
    exact ⟨hcalled, hcalled⟩

theorem reindex_carries (s₀ : Site) :
    Carries config (reindexOptions evidenceDigest config host fromBlock) (Targeted host fromBlock)
      s₀ (NotedReindex evidenceDigest s₀) (NotedReindex evidenceDigest s₀) where
  start := ⟨Noted.refl s₀, fun _ hm => nomatch hm⟩
  prepared := by
    intro admission operationId _
    refine ⟨Noted.refl s₀, ?_⟩
    rintro m ⟨⟩
    rfl
  written := fun _ _ h _ => h
  failed := fun _ _ _ _ h _ _ => h
  activated := by
    intro s m h hm
    refine ⟨h.1, ?_⟩
    rintro m' ⟨⟩
    exact h.2 m hm
  raised := fun _ reason h =>
    ⟨h.1.called (lawful_of_barred fun _ => barAgain_isBarred reason _), h.2⟩
  run := by
    intro admission operationId s _ hs _ _ hcurrent
    exact (reindex_steps s₀).run_holds hs hcurrent (hs.2 _ hcurrent) admission.barrier
  ran := fun _ => id
  cleared := fun _ h => h

theorem attempt_noted (a : Attempt σ) (s : Site) :
    Noted evidenceDigest s (a.run evidenceDigest config s) := by
  unfold Attempt.run Attempt.program
  split
  · refine Holds.final ?_ 0
    refine ((rebuild_carries s).runProjectionMaintenance_holds rebuild_resolves).mono ?_
      fun _ _ => id
    rintro _ _ ⟨s', hs', rfl⟩
    exact hs'
  · refine Holds.final (holds_bind (holds_refuseIf (fun _ => ?_) fun _ => Noted.refl s)) 0
    refine holds_bind (holds_answer (fun _ => ?_) fun _ => Noted.refl s)
    refine ((reindex_carries s).runProjectionMaintenance_holds reindex_resolves).mono ?_
      fun _ _ h => h.1
    rintro _ _ ⟨s', hs', rfl⟩
    exact hs'.1

variable (evidenceDigest config) in
theorem runAttempts_noted (attempts : List (Attempt σ)) (s : Site) :
    Noted evidenceDigest s (runAttempts evidenceDigest config attempts s) := by
  induction attempts generalizing s with
  | nil => exact Noted.refl s
  | cons a attempts ih => exact (attempt_noted a s).trans (ih _)

end

variable {σ : Type} (evidenceDigest : Evidence → String) (config : Config)

/-- Ordinary operations leave the barrier and everything behind it as it is, and
attempts at maintenance lower it in one of two ways, with or without a marker. -/
theorem recoveryRequired_is_barrier (s : Site)
    (hbarred : s.db.runtimeStatus.projectionStatus = .recoveryRequired) :
    (∀ ops : List Ordinary,
      let db' := ops.foldl (fun db op => op.apply evidenceDigest db) s.db
      db'.runtimeStatus.projectionStatus = .recoveryRequired ∧ db'.checkpoint = s.db.checkpoint ∧
      db'.projections = s.db.projections ∧
      (s.db.runtimeStatus.recoveryReason ≠ some "PROJECTOR_INTEGRITY" →
        db'.runtimeStatus.recoveryReason ≠ some "PROJECTOR_INTEGRITY")) ∧
    ∀ attempts : List (Attempt σ),
      let s' := runAttempts evidenceDigest config attempts s
      s'.db.runtimeStatus.projectionStatus ≠ .recoveryRequired →
      ∃ past t rest, s'.calls = s.calls ++ (past ++ t :: rest) ∧
        t.before.isBarred = true ∧ t.after.isBarred = false ∧
        Clears evidenceDigest t.before t.label t.after ∧
        ∀ later ∈ rest, later.after.isBarred = false := by
  constructor
  · intro ops
    have h := (BarrierStands.refl hbarred).run evidenceDigest ops
    refine ⟨h.status, ?_, ?_, h.reason_ne⟩
    · rw [h.tables]
      rfl
    · rw [h.tables]
      rfl
  · intro attempts s' hlowered
    obtain ⟨calls, hcalls, hhistory⟩ := runAttempts_noted evidenceDigest config
      attempts s
    obtain ⟨past, t, rest, rfl, hlawful, hbefore, hafter, hrest⟩ :=
      hhistory.last_end (P := fun db => db.isBarred = true) (.inl (isBarred_iff.mpr hbarred))
        fun h => hlowered (isBarred_iff.mp h)
    simp only [Bool.not_eq_true] at hafter hrest
    exact ⟨past, t, rest, hcalls, hbefore, hafter, hlawful hbefore hafter, hrest⟩

/-- A rebuild lowers the barrier of an integrity failure. -/
theorem recoveryRequired_is_barrier_rebuild :
    let s := { emptySite with db := markRecoveryRequired "PROJECTOR_INTEGRITY" emptySite.db }
    let s' := runAttempts mintDigest localConfig
      [⟨.rebuild, localHost "0x00" fun _ => .done⟩] s
    s'.db.runtimeStatus.projectionStatus = .current ∧ ∃ past t rest,
      s'.calls = s.calls ++ (past ++ t :: rest) ∧ t.before.isBarred = true ∧
      t.after.isBarred = false ∧ Clears mintDigest t.before t.label t.after ∧
      ∀ later ∈ rest, later.after.isBarred = false := by
  intro s s'
  have hcurrent : s'.db.runtimeStatus.projectionStatus = .current := by decide
  refine ⟨hcurrent, (recoveryRequired_is_barrier mintDigest localConfig s rfl).2
    [⟨.rebuild, localHost "0x00" fun _ => .done⟩] ?_⟩
  rw [hcurrent]
  decide

end MotorCove.Maintenance
