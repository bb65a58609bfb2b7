import Mathlib.Logic.Function.Basic
import MotorCove.Maintenance.Marker

/-!
# Restore and its recovery

The environment's database is a main file with two sidecars. Restore moves the
three into a quarantine of its own, one rename each, and installs a verified
snapshot from its staging directory; recovery looks at which files exist and
goes on or back. The file system, the locks and SQLite answer arbitrarily, turn
by turn, and the process may crash at each operation.
-/

set_option autoImplicit false

namespace MotorCove.Maintenance
open MotorCove.Crashes

/-- Where a database file comes from: the environment as it was, or the backup. -/
inductive Generation where
  | old
  | snapshot
  deriving DecidableEq, Repr

structure File (Bytes : Type) where
  generation : Generation
  bytes : Bytes

/-- A main file with its `-wal` and `-shm`. -/
structure FileSet (Bytes : Type) where
  main : Option (File Bytes)
  wal : Option (File Bytes)
  shm : Option (File Bytes)

structure Environment (Bytes : Type) where
  active : FileSet Bytes
  quarantine : String → FileSet Bytes
  staging : String → Option (File Bytes)
  marker : Option MaintenanceMarker

inductive RestorePolicy where
  | standard
  | evidenceOnly
  deriving DecidableEq, Repr

inductive DeploymentState where
  | deployed
  | predeployment
  deriving DecidableEq, Repr

structure Backup (Bytes : Type) where
  restorePolicy : RestorePolicy
  deploymentState : DeploymentState
  deploymentId : Option String
  databaseSha256 : String
  database : Bytes

section
variable {Bytes : Type}

/-- What the world outside the program answers at each turn. -/
structure World (Bytes : Type) where
  operation : ℕ → Outcome String
  verifyOwnedEnvironment : ℕ → Except (Failure String) Unit
  acquireLocks : ℕ → Except (Failure String) Unit
  verifyBackup : ℕ → Except (Failure String) (Backup Bytes)
  activeDeploymentId : ℕ → FileSet Bytes → Except (Failure String) String
  manifestDeploymentId : ℕ → Except (Failure String) String
  assertActiveSidecarsMatchBackup : ℕ → Except (Failure String) Unit
  /-- What a copy leaves in the destination, complete or not. -/
  copied : ℕ → Bytes
  sha256 : Bytes → String
  verifyDatabase : ℕ → FileSet Bytes → Except (Failure String) Unit
  /-- The sidecars SQLite leaves beside a database it has opened. -/
  walLeft : ℕ → Option Bytes
  shmLeft : ℕ → Option Bytes

variable (world : World Bytes)

abbrev Maintain (Bytes : Type) := Prog String (Environment Bytes)

def writeMaintenanceMarker (marker : MaintenanceMarker) : Maintain Bytes Unit :=
  act world.operation fun _ env => { env with marker := some marker }

def clearMaintenanceMarker : Maintain Bytes Unit :=
  act world.operation fun _ env => { env with marker := none }

/-- An operation with no effect on the files of the model. -/
def makeDirectory : Maintain Bytes Unit :=
  act world.operation fun _ env => env

def FileSet.generation (files : FileSet Bytes) : Generation :=
  (files.main.map File.generation).getD .old

/-- A read-only connection may create the sidecars that are missing. -/
def FileSet.opened (files : FileSet Bytes) (wal shm : Option Bytes) : FileSet Bytes :=
  { files with
    wal := files.wal.or (wal.map (File.mk files.generation))
    shm := files.shm.or (shm.map (File.mk files.generation)) }

/-- A writing connection replaces the sidecars, or removes them. -/
def FileSet.written (files : FileSet Bytes) (wal shm : Option Bytes) : FileSet Bytes :=
  { files with
    wal := wal.map (File.mk files.generation)
    shm := shm.map (File.mk files.generation) }

def openActive : Maintain Bytes Unit :=
  act world.operation fun turn env =>
    { env with active := env.active.opened (world.walLeft turn) (world.shmLeft turn) }

def writeActive : Maintain Bytes Unit :=
  act world.operation fun turn env =>
    { env with active := env.active.written (world.walLeft turn) (world.shmLeft turn) }

inductive Suffix where
  | main
  | wal
  | shm
  deriving DecidableEq, Repr

def FileSet.get (files : FileSet Bytes) : Suffix → Option (File Bytes)
  | .main => files.main
  | .wal => files.wal
  | .shm => files.shm

def FileSet.set (files : FileSet Bytes) (file : Option (File Bytes)) : Suffix → FileSet Bytes
  | .main => { files with main := file }
  | .wal => { files with wal := file }
  | .shm => { files with shm := file }

/-- `renameSync(active, quarantined)`. -/
def moveToQuarantine (operationId : String) (suffix : Suffix) : Maintain Bytes Unit :=
  act world.operation fun _ env =>
    { env with
      active := env.active.set none suffix
      quarantine := Function.update env.quarantine operationId
        ((env.quarantine operationId).set (env.active.get suffix) suffix) }

/-- `renameSync(quarantined, active)`. -/
def moveFromQuarantine (operationId : String) (suffix : Suffix) : Maintain Bytes Unit :=
  act world.operation fun _ env =>
    { env with
      active := env.active.set ((env.quarantine operationId).get suffix) suffix
      quarantine := Function.update env.quarantine operationId
        ((env.quarantine operationId).set none suffix) }

def quarantineActive (operationId : String) (suffix : Suffix) : Maintain Bytes Unit := do
  if (← look fun env => (env.active.get suffix).isSome) = true then
    moveToQuarantine world operationId suffix
  else pure ()

/-- `renameSync(staged, databasePath)`. -/
def installStaged (operationId : String) : Maintain Bytes Unit :=
  act world.operation fun _ env =>
    { env with
      active := { env.active with main := env.staging operationId }
      staging := Function.update env.staging operationId none }

def copyDatabase (operationId : String) : Maintain Bytes Unit :=
  act world.operation fun turn env =>
    { env with
      staging := Function.update env.staging operationId (some ⟨.snapshot, world.copied turn⟩) }

def removeStaging (operationId : String) : Maintain Bytes Unit :=
  act world.operation fun _ env =>
    { env with staging := Function.update env.staging operationId none }

def throwIf (c : Prop) [Decidable c] (message : String) : Maintain Bytes Unit :=
  if c then refuse message else pure ()

/-- The part of `restoreEnvironment` that runs under its marker. -/
def restoreOwned (marker : MaintenanceMarker) : Maintain Bytes Unit := do
  let operationId := marker.operationId
  let backup ← ask fun turn _ => world.verifyBackup turn
  throwIf (backup.restorePolicy ≠ .standard)
    "BACKUP_NOT_RESTORABLE: incomplete maintenance evidence"
  throwIf (backup.deploymentState = .predeployment) "BACKUP_PREDEPLOYMENT_RESTORE_UNSUPPORTED"
  throwIf ((← look fun env => env.active.main.isSome) = false) "DB_NOT_INITIALIZED"
  openActive world
  let activeId ← ask fun turn env => world.activeDeploymentId turn env.active
  let manifestId ← ask fun turn _ => world.manifestDeploymentId turn
  throwIf (backup.deploymentId ≠ some activeId ∨ manifestId ≠ activeId) "BACKUP_DEPLOYMENT_MISMATCH"
  ask fun turn _ => world.assertActiveSidecarsMatchBackup turn
  makeDirectory world
  copyDatabase world operationId
  let staged ← look fun env => env.staging operationId
  throwIf ((staged.map fun file => world.sha256 file.bytes) ≠ some backup.databaseSha256)
    "BACKUP_INVALID: staging checksum"
  attempt (ask fun turn _ => world.verifyDatabase turn ⟨staged, none, none⟩) fun message =>
    if message = "DB_SCHEMA_BEHIND" ∨ message = "DB_SCHEMA_DRIFT" then
      refuse "BACKUP_REQUIRES_MIGRATION"
    else refuse message
  writeMaintenanceMarker world { marker with stage := .activeQuarantined }
  makeDirectory world
  quarantineActive world operationId .main
  quarantineActive world operationId .wal
  quarantineActive world operationId .shm
  writeMaintenanceMarker world { marker with stage := .installingSnapshot }
  installStaged world operationId
  removeStaging world operationId
  writeActive world
  ask fun turn env => world.verifyDatabase turn env.active
  clearMaintenanceMarker world

def restoreMarker (paths : EnvironmentPaths) (contractVersion operationId backupId : String) :
    MaintenanceMarker where
  operationId := operationId
  operationType := .restore
  stage := .prepared
  environmentId := paths.environmentId
  targetDatabase := paths.databasePath
  expectedSchemaContract := contractVersion
  expectedDeploymentId := none
  reindexFromBlock := none
  targetBlock := none
  targetHash := none
  projectionPhase := none
  backupId := some backupId
  transitionedFromOperationId := none
  transitionedFromOperationType := none
  transitionedFromLastError := none
  lastError := none

/-- `operationId` is the random identity of this call. A marker whose first
write failed is not owned, and its failure is not recorded. -/
def restoreEnvironment (paths : EnvironmentPaths) (contractVersion operationId backupId : String)
    (confirmed : Bool) : Maintain Bytes Unit := do
  throwIf (confirmed = false) "RESTORE_CONFIRMATION_REQUIRED"
  ask fun turn _ => world.verifyOwnedEnvironment turn
  let marker := restoreMarker paths contractVersion operationId backupId
  ask fun turn _ => world.acquireLocks turn
  throwIf ((← look fun env => env.marker.isSome) = true) "MAINTENANCE_INCOMPLETE"
  writeMaintenanceMarker world marker
  attempt (restoreOwned world marker) fun message => do
    if (← look fun env => env.marker.isSome) = true then
      writeMaintenanceMarker world { marker with stage := .failed, lastError := some message }
    else pure ()
    refuse message

inductive RecoveryStatus where
  | noRecoveryRequired
  | recoveryRequired (marker : MaintenanceMarker)
  | actionRequired (marker : MaintenanceMarker)
  | recovered (operationId : String)
  deriving DecidableEq, Repr

def quarantineActiveRestoreSidecar (operationId : String) (suffix : Suffix) :
    Maintain Bytes Unit := do
  if (← look fun env => (env.active.get suffix).isSome) = true then
    throwIf ((← look fun env => ((env.quarantine operationId).get suffix).isSome) = true)
      "RECOVERY_REQUIRED: ambiguous SQLite file set"
    moveToQuarantine world operationId suffix
  else pure ()

def quarantineActiveRestoreSidecars (operationId : String) : Maintain Bytes Unit := do
  makeDirectory world
  quarantineActiveRestoreSidecar world operationId .wal
  quarantineActiveRestoreSidecar world operationId .shm

def restoreQuarantinedSidecar (operationId : String) (suffix : Suffix) : Maintain Bytes Unit := do
  let active ← look fun env => (env.active.get suffix).isSome
  let quarantined ← look fun env => ((env.quarantine operationId).get suffix).isSome
  throwIf (active = true ∧ quarantined = true) "RECOVERY_REQUIRED: ambiguous SQLite file set"
  if active = false ∧ quarantined = true then moveFromQuarantine world operationId suffix
  else pure ()

def restoreQuarantinedFileSet (operationId : String) : Maintain Bytes Unit := do
  restoreQuarantinedSidecar world operationId .wal
  restoreQuarantinedSidecar world operationId .shm
  moveFromQuarantine world operationId .main

/-- The end of `recoverEnvironment`, for a marker of a restore. -/
def recoverRestore (marker : MaintenanceMarker) : Maintain Bytes RecoveryStatus := do
  if (← look fun env => env.active.main.isSome) = false then
    if (← look fun env => (env.staging marker.operationId).isSome) = true then
      quarantineActiveRestoreSidecars world marker.operationId
      installStaged world marker.operationId
    else if (← look fun env => (env.quarantine marker.operationId).main.isSome) = true then
      restoreQuarantinedFileSet world marker.operationId
    else pure ()
  else pure ()
  throwIf ((← look fun env => env.active.main.isSome) = false)
    "RECOVERY_REQUIRED: active database missing"
  openActive world
  ask fun turn env => world.verifyDatabase turn env.active
  clearMaintenanceMarker world
  pure (.recovered marker.operationId)

/-- `others` is what is done for the markers of a reset and of a migration. -/
def recoverEnvironment (others : MaintenanceMarker → Maintain Bytes RecoveryStatus)
    (complete : Bool) : Maintain Bytes RecoveryStatus := do
  ask fun turn _ => world.verifyOwnedEnvironment turn
  if complete = false then
    match ← look Environment.marker with
    | none => pure .noRecoveryRequired
    | some marker => pure (.recoveryRequired marker)
  else do
    ask fun turn _ => world.acquireLocks turn
    match ← look Environment.marker with
    | none => pure .noRecoveryRequired
    | some marker =>
      match marker.operationType with
      | .rebuildProjection => pure (.actionRequired marker)
      | .reindexProjection => pure (.actionRequired marker)
      | .restore => recoverRestore world marker
      | .reset => others marker
      | .migrate => others marker

end
end MotorCove.Maintenance
