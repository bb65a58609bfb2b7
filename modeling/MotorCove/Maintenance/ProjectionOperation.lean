import MotorCove.Crashes
import MotorCove.Histories
import MotorCove.Indexer.Barrier
import MotorCove.Maintenance.Marker

/-!
# Rebuild and reindex as maintenance operations

An operation is admitted against the marker of an earlier one and the persisted
status, runs under its own marker, and leaves a failed marker behind when it
fails. Every durable step may fail, and the process may crash around it; the
host and the chain reader answer arbitrarily. The site notes each call that
changes the tables.
-/

set_option autoImplicit false

namespace MotorCove.Maintenance
open MotorCove.Crashes MotorCove.Effects MotorCove.Histories MotorCove.Indexer MotorCove.Text

def entityText : Entity → String
  | .sale => "sale"
  | .paymentClaim => "payment-claim"

def storeMessage (deploymentId : String) : StoreError → String
  | .deploymentNotRegistered => "DEPLOYMENT_NOT_REGISTERED"
  | .projectionContractMismatch => "PROJECTION_CONTRACT_MISMATCH"
  | .maintenanceContractUnsupported => "MAINTENANCE_PROJECTION_CONTRACT_UNSUPPORTED"
  | .checkpointBlockMissing => "CHECKPOINT_BLOCK_MISSING"
  | .reindexMaintenanceRequired => "REINDEX_MAINTENANCE_REQUIRED"
  | .reindexCatchupIncomplete => "REINDEX_CATCHUP_INCOMPLETE"
  | .recoveryRequired reason => "PROJECTION_RECOVERY_REQUIRED: " ++ reason
  | .completedBlockContentMismatch => "COMPLETED_BLOCK_CONTENT_MISMATCH"
  | .eventIdentityContentMismatch => "EVENT_IDENTITY_CONTENT_MISMATCH"
  | .commitIntegrity ordered (.integrity entity entityId _ missing) =>
    "PROJECTOR_INTEGRITY: deployment=" ++ deploymentId ++ " event=" ++ ordered.event.kind ++
      " blockHash=" ++ ordered.blockHash ++ " transactionHash=" ++ ordered.transactionHash ++
      " logIndex=" ++ Nat.repr ordered.logIndex ++ " entity=" ++ entityText entity ++ ":" ++
      entityId ++ " missing=" ++ missing
  | .commitIntegrity _ (.failure message) => message
  | .projector message => message
  | .ownershipProjectionMissingOwner => "OWNERSHIP_PROJECTION_MISSING_OWNER"
  | .constraint name => "constraint failed: " ++ name
  | .jsonSyntax => "Unexpected token in JSON"
  | .sourceRefreshArchiveRequired => "SOURCE_REFRESH_ARCHIVE_REQUIRED"
  | .sourceRefreshMustStartAtDeployment => "SOURCE_REFRESH_REINDEX_MUST_START_AT_DEPLOYMENT"
  | .rebuildSourceIncomplete detail => "REBUILD_SOURCE_INCOMPLETE: " ++ detail
  | .fault => "fault"

def chainMessage (error : ChainError) : String := error.text.message.getD ""

def ingestMessage (deploymentId : String) : IngestError → String
  | .chain cause => chainMessage cause
  | .transportUnavailable operation _ => "CHAIN_TRANSPORT_UNAVAILABLE: " ++ operation
  | .indexBatchSizeInvalid => "INDEX_BATCH_SIZE_INVALID"
  | .publicIndexingDepthUnsupported => "PUBLIC_INDEXING_DEPTH_UNSUPPORTED"
  | .providerCapabilityUnavailable => "PROVIDER_CAPABILITY_UNAVAILABLE: finalized tag"
  | .finalizedHeadExceedsObservedHead => "FINALIZED_HEAD_EXCEEDS_OBSERVED_HEAD"
  | .finalizedBlockHashChanged => "FINALIZED_BLOCK_HASH_CHANGED"
  | .recoveryRequired detail => "RECOVERY_REQUIRED: " ++ detail
  | .rangeEmpty => "RANGE_EMPTY"
  | .store cause => storeMessage deploymentId cause

/-- `text.startsWith(start)`. -/
def startsWith (start text : String) : Bool := start.toList.isPrefixOf text.toList

structure ProjectionRecovery where
  reindexFromBlock : Option String
  targetBlock : Option String
  targetHash : Option String
  deriving DecidableEq, Repr

def noRecovery : ProjectionRecovery := ⟨none, none, none⟩

/-- The calls that change the tables. A rebuild carries the operation it belongs
to and the reason of the barrier that its admission found, if it found one. -/
inductive StoreCall where
  | prepareForReindex (fromBlock : ℕ)
  | rebuildFromJournal (operationType : OperationType) (barrier : Option (Option String))
      (projectionBuildId : String)
  | rebuildFailed (reason : String)
  | ingestRange
  | completeReindexRecovery (marker : MaintenanceMarker)
  | raiseBarrier (reason : Option String)
  deriving DecidableEq, Repr

/-- The database and the marker, the marker as the running process holds it, and
the calls on the database so far. -/
structure Site where
  db : Database
  marker : Option MaintenanceMarker
  currentMarker : Option MaintenanceMarker
  calls : List (Transition Database StoreCall)

def Site.called (s : Site) (call : StoreCall) (db : Database) : Site :=
  { s with db, calls := s.calls ++ [⟨s.db, call, db⟩] }

structure Config where
  environment : EnvironmentPaths
  contractVersion : String
  deploymentId : String
  nftAddress : String
  logScopeHash : String
  scanStartBlock : ℕ
  batchSize : ℕ
  indexingDepth : ℕ
  finality : Finality

structure Host (σ : Type) where
  operation : ℕ → Outcome String
  /-- An ingestion that was cut had stored its observation. -/
  observed : ℕ → Bool
  verifyOwnedEnvironment : ℕ → Except (Failure String) Unit
  verifyDeployment : ℕ → Except (Failure String) Unit
  acquireMaintenanceLocks : ℕ → Except (Failure String) Unit
  openProjectionDatabase : ℕ → Except (Failure String) Unit
  verifyDatabase : ℕ → Except (Failure String) Unit
  backupEnvironment : ℕ → Except (Failure String) String
  verifyMaintenanceBackup : ℕ → Except (Failure String) Unit
  randomUUID : ℕ → String
  chain : ChainReader σ
  chainAt : ℕ → σ

abbrev Operation (α : Type) := Prog String Site α

section
variable {σ α : Type} (evidenceDigest : Evidence → String) (config : Config) (host : Host σ)

def randomUUID : Operation String := ask fun turn _ => .ok (host.randomUUID turn)

def setCurrentMarker (marker : Option MaintenanceMarker) : Operation Unit :=
  act (fun _ => .done) fun _ s => { s with currentMarker := marker }

def writeMarker (marker : MaintenanceMarker) : Operation Unit :=
  act host.operation fun _ s => { s with marker := some marker }

def clearMarker : Operation Unit :=
  act host.operation fun _ s => { s with marker := none }

/-- `currentMarker = marker`, then its write. -/
def publishMarker (marker : MaintenanceMarker) : Operation Unit := do
  setCurrentMarker (some marker)
  writeMarker host marker

def callStore (call : StoreCall) (f : Database → Except StoreError Database) : Operation Unit := do
  match f (← look Site.db) with
  | .error e => refuse (storeMessage config.deploymentId e)
  | .ok db => act host.operation fun _ s => s.called call db

def openStore (options : ProjectionMaintenanceOptions) : Operation SqliteProjectionStore := do
  match SqliteProjectionStore.open config.nftAddress config.logScopeHash (fun _ => false)
      (some options) (← look Site.db) with
  | .error e => refuse (storeMessage config.deploymentId e)
  | .ok store => pure store

/-- `rebuildFromJournal`, step by step: its transaction, or the status its
failure leaves. -/
def runRebuild (store : SqliteProjectionStore) (operationType : OperationType)
    (barrier : Option (Option String)) : Operation ℕ := do
  let projectionBuildId ← randomUUID host
  let preserveRecoveryBarrier ← look fun s => store.allowReindexRecovery && s.db.isBarred
  attempt (do
      let db ← look Site.db
      match verifyRebuildSource evidenceDigest db with
      | .error e => refuse (storeMessage config.deploymentId e)
      | .ok () =>
        match rebuildTransaction store projectionBuildId preserveRecoveryBarrier db with
        | .error e => refuse (storeMessage config.deploymentId e)
        | .ok (events, db) => do
          act host.operation fun _ s =>
            s.called (.rebuildFromJournal operationType barrier projectionBuildId) db
          pure events)
    fun message => do
      let reason := if startsWith "REBUILD_SOURCE_INCOMPLETE" message = true then
        "REBUILD_SOURCE_INCOMPLETE" else "REBUILD_FAILED"
      act host.operation fun _ s => s.called (.rebuildFailed reason)
        (markRecoveryRequired reason s.db)
      refuse message

/-- `ingestRange` up to its first write on the way to a batch. -/
def ingestToObservation (chain : ChainReader σ) (batchSize indexingDepth : ℕ)
    (finality : Finality) : Ingest σ (Option BlockHeader × ProjectionTargetObservation) :=
  if batchSize < 1 then throw .indexBatchSizeInvalid
  else do
    let checkpoint ← readCheckpoint
    verifyCheckpoint chain finality checkpoint
    let observation ← readTarget chain finality indexingDepth "projection target"
    let head := observation.observedHead.number
    update (observe head ((observation.eligibleHead.map BlockHeader.number).getD head))
    pure (checkpoint, observation)

def resultOf {ε τ : Type} : EStateM.Result ε τ α → Except ε α
  | .ok a _ => .ok a
  | .error e _ => .error e

/-- One `ingestRange` towards the target. Between two of its writes lies a read of
the chain, which may fail, or its observation: a cut leaves no other state. -/
def runIngest (store : SqliteProjectionStore) (target : ℕ) : Operation Unit :=
  perform host.operation
    (fun turn s => if host.observed turn = true then
        s.called .ingestRange (finalState (ingestToObservation host.chain config.batchSize
          config.indexingDepth config.finality) ⟨host.chainAt turn, s.db, []⟩).db
      else s)
    fun turn s =>
      let ingest := Indexer.ingestRange evidenceDigest store host.chain config.batchSize
        config.scanStartBlock config.indexingDepth (some target) config.finality
      ((resultOf (ingest.run ⟨host.chainAt turn, s.db, []⟩)).mapError
          (ingestMessage config.deploymentId),
        s.called .ingestRange (finalState ingest ⟨host.chainAt turn, s.db, []⟩).db)

def readStoreCheckpoint : Operation (Option BlockHeader) := do
  match checkpoint (← look Site.db) with
  | .error e => refuse (storeMessage config.deploymentId e)
  | .ok header => pure header

/-- Zero without a checkpoint, as `-1n` in the comparison of the loop. -/
def heightOf (checkpoint : Option BlockHeader) : ℕ :=
  (checkpoint.map fun c => c.number + 1).getD 0

/-- The loop of `catchUpToReindexTarget`, from the checkpoint just read. -/
def catchUpFrom (store : SqliteProjectionStore) (target : ℕ) (before : Option BlockHeader) :
    Operation Unit :=
  if _hreached : target < heightOf before then pure ()
  else do
    runIngest evidenceDigest config host store target
    let after ← readStoreCheckpoint config
    if _hprogress : heightOf before < heightOf after then catchUpFrom store target after
    else refuse "REINDEX_CATCHUP_NO_PROGRESS"
termination_by target + 1 - heightOf before
decreasing_by omega

def catchUpToReindexTarget (store : SqliteProjectionStore) (target : ℕ) : Operation Unit := do
  catchUpFrom evidenceDigest config host store target (← readStoreCheckpoint config)

def readBlock (number : ℕ) : Operation BlockHeader :=
  ask fun turn _ => (host.chain.getBlock number (host.chainAt turn)).1.mapError fun e =>
    .thrown (chainMessage e)

def resolveEligibleReindexTarget : Operation BlockHeader := do
  let observation ← ask fun turn s =>
    (resultOf ((readProjectionTarget host.chain config.finality config.indexingDepth).run
      ⟨host.chainAt turn, s.db, []⟩)).mapError fun e =>
        .thrown (ingestMessage config.deploymentId e)
  match observation.eligibleHead with
  | none => refuse "REINDEX_TARGET_NOT_AVAILABLE"
  | some eligibleHead => do
    let first ← readBlock host eligibleHead.number
    let confirmation ← readBlock host eligibleHead.number
    refuseIf (first.hash ≠ confirmation.hash ∨ first.number ≠ confirmation.number)
      "REINDEX_TARGET_CHANGED"
    pure confirmation

def isDecimal (text : String) : Bool := text.toList ≠ [] && text.toList.all Char.isDigit

/-- An existing marker keeps its target, as long as the chain has it. -/
def resolveReindexOperationRecovery (fromBlock : ℕ) :
    Option MaintenanceMarker → Operation ProjectionRecovery
  | some existing => do
    refuseIf (existing.reindexFromBlock ≠ some (Nat.repr fromBlock)) "MAINTENANCE_INCOMPLETE"
    match existing.targetBlock, existing.targetHash with
    | some targetBlock, some targetHash => do
      refuseIf (isDecimal targetBlock = false) "MAINTENANCE_INCOMPLETE"
      let targetNumber := value targetBlock.toList
      let first ← readBlock host targetNumber
      let confirmation ← readBlock host targetNumber
      refuseIf (first.number ≠ targetNumber ∨ confirmation.number ≠ targetNumber ∨
        first.hash ≠ confirmation.hash ∨ lower confirmation.hash ≠ lower targetHash)
        "REINDEX_TARGET_CHANGED"
      pure ⟨existing.reindexFromBlock, some targetBlock, some targetHash⟩
    | _, _ => refuse "MAINTENANCE_INCOMPLETE"
  | none => do
    let target ← resolveEligibleReindexTarget config host
    pure ⟨some (Nat.repr fromBlock), some (Nat.repr target.number), some target.hash⟩

structure ProjectionOptions (α : Type) where
  operationType : OperationType
  /-- `sourceIncompleteRebuildTransition.requiredReindexFromBlock`. -/
  requiredReindexFromBlock : Option String
  resolveRecovery : Option MaintenanceMarker → Operation ProjectionRecovery
  /-- The barrier that the admission found is only noted with the calls. -/
  run : Option (Option String) → Operation α

variable (options : ProjectionOptions α)

/-- The marker is of this environment, release and deployment. -/
def MaintenanceMarker.isOf (existing : MaintenanceMarker) : Bool :=
  existing.expectedDeploymentId == some config.deploymentId &&
    existing.environmentId == config.environment.environmentId &&
    existing.targetDatabase == config.environment.databasePath &&
    existing.expectedSchemaContract == config.contractVersion

def isSourceIncompleteRebuildTransition (existing : MaintenanceMarker) : Operation Bool :=
  if options.requiredReindexFromBlock = none ∨ options.operationType ≠ .reindexProjection ∨
      existing.operationType ≠ .rebuildProjection ∨ existing.stage ≠ .failed ∨
      (existing.lastError.any (startsWith "REBUILD_SOURCE_INCOMPLETE")) = false then pure false
  else do
    refuseIf (existing.isOf config = false) "MAINTENANCE_INCOMPLETE"
    pure true

def assertMarkerOwner (existing : MaintenanceMarker) : Operation Unit :=
  refuseIf (existing.operationType ≠ options.operationType ∨ existing.isOf config = false)
    "MAINTENANCE_INCOMPLETE"

def assertMarkerRecovery (existing : MaintenanceMarker) (recovery : ProjectionRecovery) :
    Operation Unit :=
  refuseIf (existing.reindexFromBlock ≠ recovery.reindexFromBlock ∨
    existing.targetBlock ≠ recovery.targetBlock ∨ existing.targetHash ≠ recovery.targetHash)
    "MAINTENANCE_INCOMPLETE"

structure Admission where
  existing : Option MaintenanceMarker
  transition : Bool
  recovery : ProjectionRecovery
  barrier : Option (Option String)

/-- A text that JavaScript takes for true. -/
def nonEmpty (text : Option String) : Option String := text.filter fun s => s != ""

def preparedMarker (operationId : String) (admission : Admission) : MaintenanceMarker where
  operationId := operationId
  operationType := options.operationType
  stage := .prepared
  environmentId := config.environment.environmentId
  targetDatabase := config.environment.databasePath
  expectedSchemaContract := config.contractVersion
  expectedDeploymentId := some config.deploymentId
  reindexFromBlock := admission.recovery.reindexFromBlock
  targetBlock := admission.recovery.targetBlock
  targetHash := admission.recovery.targetHash
  projectionPhase := admission.existing.bind fun m => m.projectionPhase
  backupId := nonEmpty (admission.existing.bind fun m => m.backupId)
  transitionedFromOperationId :=
    if admission.transition = true then admission.existing.map fun m => m.operationId
    else nonEmpty (admission.existing.bind fun m => m.transitionedFromOperationId)
  transitionedFromOperationType :=
    if admission.transition = true then admission.existing.map fun m => m.operationType
    else admission.existing.bind fun m => m.transitionedFromOperationType
  transitionedFromLastError :=
    if admission.transition = true then nonEmpty (admission.existing.bind fun m => m.lastError)
    else nonEmpty (admission.existing.bind fun m => m.transitionedFromLastError)
  lastError := none

/-- `existing ? isSourceIncompleteRebuildTransition(existing) : false`. -/
def findTransition : Option MaintenanceMarker → Operation Bool
  | none => pure false
  | some existing => isSourceIncompleteRebuildTransition config options existing

/-- `if (existing && !transition)`. -/
def whenResumed (existing : Option MaintenanceMarker) (transition : Bool)
    (check : MaintenanceMarker → Operation Unit) : Operation Unit :=
  match existing, transition with
  | some m, false => check m
  | _, _ => pure ()

/-- The checks before the operation has a marker of its own. -/
def checkAdmission : Operation Admission := do
  ask fun turn _ => host.verifyOwnedEnvironment turn
  ask fun turn _ => host.acquireMaintenanceLocks turn
  let existing ← look Site.marker
  let transition ← findTransition config options existing
  whenResumed existing transition (assertMarkerOwner config options)
  let recovery ← options.resolveRecovery (if transition = true then none else existing)
  refuseIf (transition = true ∧ (recovery.reindexFromBlock ≠ options.requiredReindexFromBlock ∨
    recovery.targetBlock = none ∨ recovery.targetHash = none)) "MAINTENANCE_INCOMPLETE"
  whenResumed existing transition fun m => assertMarkerRecovery m recovery
  ask fun turn _ => host.openProjectionDatabase turn
  let persisted ← look fun s => s.db.runtimeStatus
  refuseIf (persisted.projectionStatus = .recoveryRequired ∧
    options.operationType = .rebuildProjection ∧
    persisted.recoveryReason ≠ some "PROJECTOR_INTEGRITY")
    ("RECOVERY_OPERATION_NOT_ALLOWED: " ++ persisted.recoveryReason.getD "UNKNOWN")
  pure ⟨existing, transition, recovery,
    if persisted.projectionStatus = .recoveryRequired then some persisted.recoveryReason else none⟩

/-- The part of the `catch` that keeps the marker. -/
def failMarker (message : String) : Operation α := do
  match ← look fun s => (s.currentMarker, s.marker) with
  | (some current, some _) =>
    writeMarker host { current with stage := .failed, lastError := some message }
  | _ => pure ()
  refuse message

/-- `SET projection_status='RECOVERY_REQUIRED'` where it is another. -/
def barAgain (reason : Option String) (db : Database) : Database :=
  if db.isBarred = true then db
  else db.setStatus { db.runtimeStatus with
    projectionStatus := .recoveryRequired, recoveryReason := reason }

/-- The part of the `catch` that raises a barrier again. -/
def raiseBarrier (barrier : Option (Option String)) : Operation Unit := do
  match barrier with
  | none => pure ()
  | some reason =>
    act host.operation fun _ s => s.called (.raiseBarrier reason) (barAgain reason s.db)

def checkPostcondition (barrier : Option (Option String)) : Operation Unit := do
  let final ← look fun s => s.db.runtimeStatus
  refuseIf (barrier ≠ none ∧ ((final.projectionStatus ≠ .current ∧
    final.projectionStatus ≠ .syncing) ∨ final.recoveryReason ≠ none))
    "RECOVERY_POSTCONDITION_INCOMPLETE"

/-- The run under the active marker, with the database open. -/
def runActive (prepared : MaintenanceMarker) (barrier : Option (Option String)) : Operation α := do
  ask fun turn _ => host.verifyDatabase turn
  publishMarker host { prepared with stage := .active }
  let result ← options.run barrier
  checkPostcondition barrier
  pure result

def runProjectionMaintenance : Operation (String × α) := do
  setCurrentMarker none
  let admission ← checkAdmission config host options
  let fresh ← randomUUID host
  let operationId := if admission.transition = true then fresh
    else (admission.existing.map fun m => m.operationId).getD fresh
  let prepared := preparedMarker config options operationId admission
  setCurrentMarker (some prepared)
  attempt (do
      if admission.existing = none ∨ admission.transition = true then writeMarker host prepared
      else pure ()
      ask fun turn _ => host.openProjectionDatabase turn)
    fun message => failMarker host message
  let result ← attempt (runActive host options prepared admission.barrier) fun message => do
    raiseBarrier host admission.barrier
    failMarker host message
  attempt (clearMarker host) fun message => failMarker host message
  pure (operationId, result)

def rebuildOptions : ProjectionOptions ℕ where
  operationType := .rebuildProjection
  requiredReindexFromBlock := none
  resolveRecovery := fun _ => pure noRecovery
  run := fun barrier => do
    let store ← openStore config ⟨["0"], false, false⟩
    runRebuild evidenceDigest config host store .rebuildProjection barrier

def rebuild : Operation (String × ℕ) :=
  runProjectionMaintenance config host (rebuildOptions evidenceDigest config host)

def updateMarker (f : MaintenanceMarker → MaintenanceMarker) : Operation Unit := do
  match ← look Site.currentMarker with
  | none => refuse "MAINTENANCE_MARKER_UNAVAILABLE"
  | some marker => publishMarker host (f marker)

/-- The archive of a source about to be replaced: verified, recorded, or made. -/
def archiveSource (marker : MaintenanceMarker) : Operation String := do
  match nonEmpty marker.backupId with
  | some backupId => do
    ask fun turn _ => host.verifyMaintenanceBackup turn
    pure backupId
  | none => do
    let backupId ← ask fun turn _ => host.backupEnvironment turn
    ask fun turn _ => host.verifyMaintenanceBackup turn
    updateMarker host fun m => { m with backupId := some backupId }
    pure backupId

def reindexOptions (fromBlock : ℕ) : ProjectionOptions ℕ where
  operationType := .reindexProjection
  requiredReindexFromBlock := if fromBlock = config.scanStartBlock then
    some (Nat.repr config.scanStartBlock) else none
  resolveRecovery := resolveReindexOperationRecovery config host fromBlock
  run := fun barrier => do
    match ← look Site.currentMarker with
    | none => refuse "MAINTENANCE_MARKER_UNAVAILABLE"
    | some marker =>
      match marker.targetBlock, marker.targetHash with
      | some targetBlock, some targetHash => do
        let target := value targetBlock.toList
        let store ← openStore config ⟨["0"], decide (fromBlock = config.scanStartBlock), true⟩
        let resumesCatchup := marker.projectionPhase == some .catchingUp
        if resumesCatchup = true then pure ()
        else do
          let refresh ← look fun s => requiresSourceRefresh evidenceDigest store s.db
          let verifiedBackupId ← if refresh = true then do
              let backupId ← archiveSource host marker
              pure (some backupId)
            else pure none
          updateMarker host fun m => { m with projectionPhase := some .preparing }
          callStore config host (.prepareForReindex fromBlock)
            (prepareForReindex evidenceDigest store fromBlock verifiedBackupId)
        let events ← runRebuild evidenceDigest config host store .reindexProjection barrier
        updateMarker host fun m => { m with projectionPhase := some .catchingUp }
        catchUpToReindexTarget evidenceDigest config host store target
        let checkpoint ← readStoreCheckpoint config
        let reached ← look fun s => hasCanonicalBlock target targetHash s.db
        refuseIf (¬target < heightOf checkpoint ∨ reached = false) "REINDEX_CATCHUP_INCOMPLETE"
        callStore config host (.completeReindexRecovery marker)
          (completeReindexRecovery store target targetHash)
        pure events
      | _, _ => refuse "REINDEX_TARGET_NOT_AVAILABLE"

def reindex (fromBlock : ℕ) : Operation (String × ℕ) := do
  refuseIf (fromBlock < config.scanStartBlock) "REINDEX_BEFORE_SCAN_START"
  ask fun turn _ => host.verifyDeployment turn
  runProjectionMaintenance config host (reindexOptions evidenceDigest config host fromBlock)

end

inductive ProjectionOperation where
  | rebuild
  | reindex (fromBlock : ℕ)
  deriving DecidableEq, Repr

/-- One attempt, in a process of its own, on a host and a chain of its own. -/
structure Attempt (σ : Type) where
  operation : ProjectionOperation
  host : Host σ

section
variable {σ : Type} (evidenceDigest : Evidence → String) (config : Config)

def Attempt.program (a : Attempt σ) : Operation (String × ℕ) :=
  match a.operation with
  | .rebuild => rebuild evidenceDigest config a.host
  | .reindex fromBlock => reindex evidenceDigest config a.host fromBlock

def Attempt.run (a : Attempt σ) (s : Site) : Site :=
  (finalState (a.program evidenceDigest config) ⟨0, s⟩).disk

def runAttempts (attempts : List (Attempt σ)) (s : Site) : Site :=
  attempts.foldl (fun s a => a.run evidenceDigest config s) s

end

def localConfig : Config where
  environment := ⟨"local", "/data/projection.sqlite"⟩
  contractVersion := "1"
  deploymentId := "motor-cove"
  nftAddress := "0x00"
  logScopeHash := "scope"
  scanStartBlock := 0
  batchSize := 10
  indexingDepth := 0
  finality := .immediate

def genesisChain (hash : String) : ChainReader Unit where
  getHead := fun s => (.ok ⟨0, hash, "0x00", 0⟩, s)
  getFinalizedHead := none
  getBlock := fun _ s => (.ok ⟨0, hash, "0x00", 0⟩, s)
  getEvents := fun _ s => (.ok [], s)

def localHost (hash : String) (operation : ℕ → Outcome String) : Host Unit where
  operation := operation
  observed := fun _ => false
  verifyOwnedEnvironment := fun _ => .ok ()
  verifyDeployment := fun _ => .ok ()
  acquireMaintenanceLocks := fun _ => .ok ()
  openProjectionDatabase := fun _ => .ok ()
  verifyDatabase := fun _ => .ok ()
  backupEnvironment := fun _ => .ok "backup"
  verifyMaintenanceBackup := fun _ => .ok ()
  randomUUID := fun _ => "build"
  chain := genesisChain hash
  chainAt := fun _ => ()

def emptySite : Site := ⟨registered 0 "build" "scope", none, none, []⟩

end MotorCove.Maintenance
