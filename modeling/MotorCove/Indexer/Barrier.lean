import MotorCove.Indexer.IngestKept

/-!
# The recovery barrier in ordinary operation

A store that is not a reindex's own finds the status RECOVERY_REQUIRED and can
only write another reason beside it. No row and no checkpoint changes.
-/

set_option autoImplicit false

namespace MotorCove.Indexer
open MotorCove.Text MotorCove.Fallible MotorCove.Effects

def Database.isBarred (db : Database) : Bool :=
  db.runtimeStatus.projectionStatus == .recoveryRequired

/-- A store opened without `allowReindexRecovery`. -/
structure OrdinaryStore extends SqliteProjectionStore where
  ordinary : allowReindexRecovery = false

inductive Ordinary : Type 1 where
  | observe (head eligibleHead : ℕ)
  | markStale (reason : String)
  | markCurrent (observedHead eligibleHead : ℕ)
  | markRecoveryRequired (reason : String) (hreason : reason ∈ ingestReasons)
  | commit (store : OrdinaryStore) (headers : List BlockHeader) (events : List OrderedEvent)
      (checkpoint : BlockHeader)
  | ingestRange {σ : Type} (store : OrdinaryStore) (chain : ChainReader σ) (s : σ)
      (batchSize startBlock indexingDepth : ℕ) (maximumTarget : Option ℕ) (finality : Finality)

/-- What an operation leaves in the tables, whether or not it fails. -/
def Ordinary.apply (evidenceDigest : Evidence → String) : Ordinary → Database → Database
  | .observe head eligibleHead, db => (MotorCove.Indexer.observe head eligibleHead db).toOption.getD db
  | .markStale reason, db => MotorCove.Indexer.markStale reason db
  | .markCurrent observedHead eligibleHead, db =>
    (MotorCove.Indexer.markCurrent observedHead eligibleHead db).toOption.getD db
  | .markRecoveryRequired reason _, db => MotorCove.Indexer.markRecoveryRequired reason db
  | .commit store headers events checkpoint, db =>
    (MotorCove.Indexer.commit evidenceDigest store.toSqliteProjectionStore headers events checkpoint
      db).2
  | .ingestRange store chain s batchSize startBlock indexingDepth maximumTarget finality, db =>
    (finalState (MotorCove.Indexer.ingestRange evidenceDigest store.toSqliteProjectionStore chain
      batchSize startBlock indexingDepth maximumTarget finality) ⟨s, db, []⟩).db

/-- The barrier of `db₀` still stands, and nothing but the status has changed. -/
structure BarrierStands (db₀ db : Database) : Prop where
  status : db.runtimeStatus.projectionStatus = .recoveryRequired
  tables : db = db₀.setStatus db.runtimeStatus
  reason : db.runtimeStatus.recoveryReason = db₀.runtimeStatus.recoveryReason ∨
    ∃ reason ∈ ingestReasons, db.runtimeStatus.recoveryReason = some reason

variable {evidenceDigest : Evidence → String} {db₀ db db' : Database}

theorem BarrierStands.refl (h : db.runtimeStatus.projectionStatus = .recoveryRequired) :
    BarrierStands db db := ⟨h, rfl, .inl rfl⟩

theorem BarrierStands.markRecoveryRequired (h : BarrierStands db₀ db) {reason : String}
    (hreason : reason ∈ ingestReasons) :
    BarrierStands db₀ (markRecoveryRequired reason db) where
  status := rfl
  tables := by
    rw [h.tables]
    rfl
  reason := .inr ⟨reason, hreason, rfl⟩

theorem BarrierStands.observe (h : BarrierStands db₀ db) {head eligibleHead : ℕ}
    (hobserve : observe head eligibleHead db = .ok db') : BarrierStands db₀ db' := by
  simp only [MotorCove.Indexer.observe, bind_ok, Except.ok.injEq] at hobserve
  obtain ⟨_, _, rfl⟩ := hobserve
  constructor
  · show (if db.runtimeStatus.projectionStatus = .uninitialized ∨
      db.runtimeStatus.projectionStatus = .stale then .syncing
      else db.runtimeStatus.projectionStatus) = ProjectionStatus.recoveryRequired
    rw [h.status]
    rfl
  · rw [h.tables]
    rfl
  · exact h.reason

/-- The update of `markCurrent` names the statuses it replaces. -/
theorem BarrierStands.markCurrent (h : BarrierStands db₀ db) {observedHead eligibleHead : ℕ}
    (hmark : markCurrent observedHead eligibleHead db = .ok db') : BarrierStands db₀ db' := by
  simp only [MotorCove.Indexer.markCurrent, h.status, reduceCtorEq, or_self, if_false] at hmark
  obtain rfl := Except.ok.inj hmark
  exact h

theorem BarrierStands.markStale (h : BarrierStands db₀ db) (reason : String) :
    BarrierStands db₀ (markStale reason db) := by
  unfold MotorCove.Indexer.markStale
  rw [if_pos h.status]
  exact h

theorem BarrierStands.commit (h : BarrierStands db₀ db) (store : OrdinaryStore)
    (headers : List BlockHeader) (events : List OrderedEvent) (header : BlockHeader) :
    BarrierStands db₀
      (commit evidenceDigest store.toSqliteProjectionStore headers events header db).2 := by
  have hgate : db.runtimeStatus.projectionStatus = .recoveryRequired ∧
      store.allowReindexRecovery = false := ⟨h.status, store.ordinary⟩
  have hrefused : commitTransaction evidenceDigest store.toSqliteProjectionStore headers events
      header db = .error (.recoveryRequired (db.runtimeStatus.recoveryReason.getD "UNKNOWN")) := by
    unfold commitTransaction failIf
    rw [if_pos hgate]
    rfl
  unfold MotorCove.Indexer.commit
  split
  · exact h
  · rw [hrefused]
    exact h

theorem barrierStands_requests (store : OrdinaryStore) (db₀ : Database) :
    KeptByRequests evidenceDigest store.toSqliteProjectionStore (BarrierStands db₀) where
  recoveryRequired := fun _ hreason _ h => h.markRecoveryRequired hreason
  observe := fun _ _ _ _ h hobserve => h.observe hobserve
  markCurrent := fun _ _ _ _ h hmark => h.markCurrent hmark
  commit := fun headers events header _ h => h.commit store headers events header

theorem BarrierStands.apply (h : BarrierStands db₀ db) (op : Ordinary) :
    BarrierStands db₀ (op.apply evidenceDigest db) := by
  cases op with
  | observe head eligibleHead =>
    simp only [Ordinary.apply]
    cases hobserve : MotorCove.Indexer.observe head eligibleHead db with
    | ok db' => exact h.observe hobserve
    | error _ => exact h
  | markStale reason => exact h.markStale reason
  | markCurrent observedHead eligibleHead =>
    simp only [Ordinary.apply]
    cases hmark : MotorCove.Indexer.markCurrent observedHead eligibleHead db with
    | ok db' => exact h.markCurrent hmark
    | error _ => exact h
  | markRecoveryRequired reason hreason => exact h.markRecoveryRequired hreason
  | commit store headers events header => exact h.commit store headers events header
  | ingestRange store chain s batchSize startBlock indexingDepth maximumTarget finality =>
    exact ends_final.mp (keeps_ingestRange (barrierStands_requests store db₀) batchSize startBlock
      indexingDepth maximumTarget finality _ h)

variable (evidenceDigest) in
theorem BarrierStands.run (h : BarrierStands db₀ db) (ops : List Ordinary) :
    BarrierStands db₀ (ops.foldl (fun db op => op.apply evidenceDigest db) db) := by
  induction ops generalizing db with
  | nil => exact h
  | cons op ops ih => exact ih (h.apply op)

/-- The reasons of `ingestRange` never admit a rebuild. -/
theorem BarrierStands.reason_ne (h : BarrierStands db₀ db)
    (hreason : db₀.runtimeStatus.recoveryReason ≠ some "PROJECTOR_INTEGRITY") :
    db.runtimeStatus.recoveryReason ≠ some "PROJECTOR_INTEGRITY" := by
  rcases h.reason with hsame | ⟨reason, hmem, hsome⟩
  · rw [hsame]
    exact hreason
  · rw [hsome]
    intro heq
    obtain rfl := Option.some.inj heq
    exact absurd hmem (by decide)

theorem commit_isBarred (store : SqliteProjectionStore) (headers : List BlockHeader)
    (events : List OrderedEvent) (header : BlockHeader) (h : db.isBarred = true) :
    (commit evidenceDigest store headers events header db).2.isBarred = true := by
  unfold MotorCove.Indexer.commit
  split
  · exact h
  · split
    · rename_i hcommitted
      rw [Database.isBarred, commitTransaction_frame hcommitted]
      exact h
    · rfl
    · exact h

variable (evidenceDigest) in
/-- A call of `ingestRange` by a reindex does not lower it either. -/
theorem barred_requests (store : SqliteProjectionStore) :
    KeptByRequests evidenceDigest store fun db => db.isBarred = true where
  recoveryRequired := fun _ _ _ _ => rfl
  observe := by
    intro head eligibleHead db db' h hobserve
    simp only [Database.isBarred, beq_iff_eq] at h ⊢
    exact ((BarrierStands.refl h).observe hobserve).status
  markCurrent := by
    intro observedHead eligibleHead db db' h hmark
    simp only [Database.isBarred, beq_iff_eq] at h ⊢
    exact ((BarrierStands.refl h).markCurrent hmark).status
  commit := fun headers events header _ h => commit_isBarred store headers events header h

end MotorCove.Indexer
