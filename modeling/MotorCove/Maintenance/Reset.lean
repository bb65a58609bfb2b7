import Mathlib.Data.Set.Basic
import MotorCove.Maintenance.Marker
import MotorCove.Traces

/-!
# Reset and its recovery

Reset resets the chain and deletes the generated files of an environment, one by
one, under a marker that records how far it came; recovery finishes the deletion
when the marker says that the chain was reset. The file system, the locks and
the chain answer arbitrarily, turn by turn, and the process may crash at each
operation. The paths are distinct files, which `verifyResetDestructivePaths`
ensures. What becomes durable is also kept as a trace.
-/

set_option autoImplicit false

namespace MotorCove.Maintenance.Reset
open MotorCove.Crashes

/-- The entries below the managed root that belong to one environment. -/
inductive Entry where
  | databasePath
  | databaseWal
  | databaseShm
  | deploymentPath
  | bootstrapReceiptPath
  | seedJournalPath
  | report (entry : String)
  | ownerPath
  | nodeBindingPath
  | serviceLockPath
  | writerLockPath
  | bootstrapLockPath
  | backup (entry : String)
  deriving DecidableEq, Repr

def targets : List Entry :=
  [.databasePath, .databaseWal, .databaseShm, .deploymentPath, .bootstrapReceiptPath,
    .seedJournalPath]

def Entry.report? : Entry → Option String
  | .report entry => some entry
  | _ => none

def Entry.isGenerated (entry : Entry) : Bool := targets.contains entry || entry.report?.isSome

/-- The files that SQLite keeps for the database. -/
def Entry.isDatabase (entry : Entry) : Bool :=
  [Entry.databasePath, .databaseWal, .databaseShm].contains entry

inductive Effect where
  | wrote (marker : MaintenanceMarker)
  | cleared
  | chainReset (operationId : String)
  | removed (entry : Entry)
  deriving DecidableEq, Repr

structure Disk where
  entries : List Entry
  marker : Option MaintenanceMarker
  trace : List Effect

/-- What the world outside the program answers at each turn. -/
structure World where
  operation : ℕ → Outcome String
  resetChain : ℕ → Outcome String
  verifyOwnedEnvironment : ℕ → Except (Failure String) Unit
  verifyResetDestructivePaths : ℕ → Except (Failure String) Unit
  acquireBootstrapOwnership : ℕ → Except (Failure String) Unit
  acquireMaintenanceLocks : ℕ → Except (Failure String) Unit
  readReports : ℕ → Except (Failure String) Unit
  /-- What the recovery of another operation leaves of the database's files. -/
  databaseLeft : ℕ → List Entry
  /-- Whether that recovery goes on to clear its marker. -/
  recoverOther : ℕ → Except (Failure String) Bool

abbrev Maintain := Prog String Disk

section
variable (world : World)

def writeMaintenanceMarker (marker : MaintenanceMarker) : Maintain Unit :=
  act world.operation fun _ disk =>
    { disk with marker := some marker, trace := disk.trace ++ [.wrote marker] }

def unlinkMarker : Maintain Unit :=
  act world.operation fun _ disk => { disk with marker := none, trace := disk.trace ++ [.cleared] }

def clearMaintenanceMarker : Maintain Unit := do
  if (← look fun disk => disk.marker.isSome) = true then unlinkMarker world else pure ()

/-- `rmSync(target, { force: true })`. -/
def rmSync (target : Entry) : Maintain Unit :=
  act world.operation fun _ disk =>
    { disk with
      entries := disk.entries.filter (· ≠ target)
      trace := disk.trace ++ [.removed target] }

def removeTargets : List Entry → Maintain (List Entry)
  | [] => pure []
  | target :: rest => do
    if (← look fun disk => disk.entries.contains target) = true then do
      rmSync world target
      let removed ← removeTargets rest
      pure (target :: removed)
    else removeTargets rest

def removeReports : List String → Maintain (List Entry)
  | [] => pure []
  | entry :: rest => do
    rmSync world (.report entry)
    let removed ← removeReports rest
    pure (.report entry :: removed)

/-- `readdirSync(paths.reportsDir)`. -/
def reportsDir (disk : Disk) : List String := disk.entries.filterMap Entry.report?

def clearResetGeneratedState : Maintain (List Entry) := do
  ask fun turn _ => world.verifyResetDestructivePaths turn
  let removed ← removeTargets world targets
  ask fun turn _ => world.readReports turn
  let reports ← removeReports world (← look reportsDir)
  pure (removed ++ reports)

variable (paths : EnvironmentPaths) (contractVersion : String)

def resetMarker (operationId : String) : MaintenanceMarker where
  operationId := operationId
  operationType := .reset
  stage := .prepared
  environmentId := paths.environmentId
  targetDatabase := paths.databasePath
  expectedSchemaContract := contractVersion
  expectedDeploymentId := none
  reindexFromBlock := none
  targetBlock := none
  targetHash := none
  projectionPhase := none
  backupId := none
  transitionedFromOperationId := none
  transitionedFromOperationType := none
  transitionedFromLastError := none
  lastError := none
  resetPhase := some .prepared

/-- A step under an owned marker: its failure is recorded in the marker as it is then. -/
def owning {α : Type} (marker : MaintenanceMarker) (step : Maintain α) : Maintain α :=
  attempt step fun message => do
    writeMaintenanceMarker world { marker with stage := .failed, lastError := some message }
    refuse message

def runResetChain (operationId : String) : Maintain Unit :=
  act world.resetChain fun _ disk => { disk with trace := disk.trace ++ [.chainReset operationId] }

def acquireLocksUnless (locksAlreadyHeld : Bool) : Maintain Unit :=
  if locksAlreadyHeld = true then pure () else ask fun turn _ => world.acquireMaintenanceLocks turn

/-- `operationId` is the random identity of this call. -/
def resetEnvironment (operationId : String) (confirmed locksAlreadyHeld : Bool) :
    Maintain (String × List Entry) := do
  refuseIf (confirmed = false) "CONFIRMATION_REQUIRED"
  ask fun turn _ => world.verifyOwnedEnvironment turn
  acquireLocksUnless world locksAlreadyHeld
  let marker := resetMarker paths contractVersion operationId
  ask fun turn _ => world.verifyResetDestructivePaths turn
  writeMaintenanceMarker world marker
  owning world marker (runResetChain world operationId)
  let marker := { marker with stage := .chainReset, resetPhase := some .chainReset }
  let removed ← owning world marker do
    writeMaintenanceMarker world marker
    clearResetGeneratedState world
  let marker := { marker with stage := .localStateCleared, resetPhase := some .localStateCleared }
  owning world marker do
    writeMaintenanceMarker world marker
    clearMaintenanceMarker world
  pure (operationId, removed)

inductive Recovery where
  | noRecoveryRequired
  | recoveryRequired (marker : MaintenanceMarker)
  | actionRequired (marker : MaintenanceMarker)
  | recovered (operationId : String) (removed : List Entry)
  deriving DecidableEq, Repr

/-- The marker says that the chain was reset. -/
def chainIsReset (marker : MaintenanceMarker) : Bool :=
  marker.resetPhase == some .chainReset || marker.resetPhase == some .localStateCleared

def recoverReset (marker : MaintenanceMarker) : Maintain Recovery := do
  refuseIf (marker.environmentId ≠ paths.environmentId
    ∨ marker.targetDatabase ≠ paths.databasePath
    ∨ marker.expectedSchemaContract ≠ contractVersion) "RECOVERY_REQUIRED: reset identity mismatch"
  if chainIsReset marker = false then pure (.actionRequired marker)
  else owning world marker do
    let removed ← clearResetGeneratedState world
    writeMaintenanceMarker world
      { marker with stage := .localStateCleared, resetPhase := some .localStateCleared }
    clearMaintenanceMarker world
    pure (.recovered marker.operationId removed)

/-- The recovery of a migration or a restore: it acts on the database's files
and may clear its marker. -/
def recoverOther (marker : MaintenanceMarker) : Maintain Recovery := do
  act world.operation fun turn disk =>
    { disk with entries := (disk.entries.filter fun entry => !entry.isDatabase) ++
        (world.databaseLeft turn).filter Entry.isDatabase }
  if (← ask fun turn _ => world.recoverOther turn) = true then do
    clearMaintenanceMarker world
    pure (.recovered marker.operationId [])
  else pure (.actionRequired marker)

/-- Recovery of a reset excludes a bootstrap as well. -/
def acquireBootstrapOwnership : Maintain Unit := do
  if (← look fun disk => disk.marker.any fun m => m.operationType == .reset) = true then
    ask fun turn _ => world.acquireBootstrapOwnership turn
  else pure ()

def recoverEnvironment (complete : Bool) : Maintain Recovery := do
  ask fun turn _ => world.verifyOwnedEnvironment turn
  if complete = false then
    match ← look Disk.marker with
    | none => pure .noRecoveryRequired
    | some marker => pure (.recoveryRequired marker)
  else do
    acquireBootstrapOwnership world
    ask fun turn _ => world.acquireMaintenanceLocks turn
    match ← look Disk.marker with
    | none => pure .noRecoveryRequired
    | some marker =>
      match marker.operationType with
      | .rebuildProjection => pure (.actionRequired marker)
      | .reindexProjection => pure (.actionRequired marker)
      | .reset => recoverReset world paths contractVersion marker
      | .migrate => recoverOther world marker
      | .restore => recoverOther world marker

end
end MotorCove.Maintenance.Reset
