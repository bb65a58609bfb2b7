import MotorCove.Maintenance.BackupVerification

/-!
# Migration and its recovery

Migration applies what a database lacks of the release's bundle, in one
transaction of the runner, then records the release's contract in it. A database
with a history is backed up first, and the marker names the backup before
anything is applied. A marker that is found is resumed. SQLite, the runner and
the host answer arbitrarily, turn by turn, and the process may crash at each
operation. What the runner applied is also kept as a trace.
-/

set_option autoImplicit false

namespace MotorCove.Maintenance.Migrate
open MotorCove.Crashes MotorCove.Fallible

/-- A transaction of the runner, and what was durable when it was applied. -/
structure Applied (Bytes : Type) where
  marker : Option MaintenanceMarker
  backups : String → BackupDirectory Bytes
  before : Contents
  after : Contents

structure Disk (Bytes : Type) where
  database : Option Contents
  sidecar : Sidecar → Option Bytes
  marker : Option MaintenanceMarker
  backups : String → BackupDirectory Bytes
  applied : List (Applied Bytes)

/-- What SQLite answers of a file it has just created. -/
def emptyContents : Contents where
  history := []
  schema := []
  integrity := "ok"
  foreignKeyErrors := 0
  dbContract := .error "no such table: db_contract"
  deployments := .error "no such table: deployments"
  checkpoint := fun _ => .error "no such table: indexer_checkpoint"
  runtimeStatus := fun _ => .error "no such table: indexer_runtime_status"

/-- The platform, the runner, and the bytes of the files that the program writes. -/
structure Tools (Bytes : Type) extends Platform Bytes where
  applyMigrations : Contents → Contents
  markerText : MaintenanceMarker → String
  databaseBytes : Contents → Bytes

/-- What the world outside the program answers at each turn. -/
structure World (Bytes : Type) where
  operation : ℕ → Outcome String
  initializeOwnedEnvironment : ℕ → Except (Failure String) Unit
  verifyOwnedEnvironment : ℕ → Except (Failure String) Unit
  acquireBootstrapOwnership : ℕ → Except (Failure String) Unit
  acquireMaintenanceLocks : ℕ → Except (Failure String) Unit
  query : ℕ → Except (Failure String) Unit
  backupHost : ℕ → Contents → BackupHost Bytes
  /-- What the recovery of another operation leaves. -/
  recoverOther : ℕ → Option Contents × Option MaintenanceMarker

section
variable {Bytes : Type}

abbrev Maintain (Bytes : Type) := Prog String (Disk Bytes)

/-- What the connection reads: it creates a file that is missing. -/
def Disk.contents (disk : Disk Bytes) : Contents := disk.database.getD emptyContents

/-- A directory that a rename does not replace. -/
def occupied (directory : BackupDirectory Bytes) : Bool :=
  directory.database.isSome || directory.manifest.isSome ||
    sidecars.any fun s => (directory.sidecar s).isSome

variable (tools : Tools Bytes) (world : World Bytes) (paths : EnvironmentPaths)

def writeMaintenanceMarker (marker : MaintenanceMarker) : Maintain Bytes Unit :=
  act world.operation fun _ disk => { disk with marker := some marker }

def unlinkMarker : Maintain Bytes Unit :=
  act world.operation fun _ disk => { disk with marker := none }

def clearMaintenanceMarker : Maintain Bytes Unit := do
  if (← look fun disk => disk.marker.isSome) = true then unlinkMarker world else pure ()

def openMaintenanceDatabase : Maintain Bytes Unit :=
  act world.operation fun _ disk => { disk with database := some disk.contents }

/-- A request to the open database, and what is made of its answer. -/
def query {α : Type} (f : Contents → Except String α) : Maintain Bytes α :=
  ask fun turn disk => do
    world.query turn
    (f disk.contents).mapError .thrown

def sourceDeploymentId (db : Contents) : Except String (Option String) := do
  match ← db.deployments with
  | [] => .ok none
  | [deploymentId] => .ok (some deploymentId)
  | _ => .error "MIGRATION_BACKUP_INVALID: deployment identity"

def verifyMigrationBackup (backups : String → BackupDirectory Bytes) (backupId : String)
    (source : SourceVerification) (deploymentId : Option String) (operationId : String) :
    Except String Unit := do
  let backup ← verifyMaintenanceBackup tools.toPlatform paths backups backupId
    ⟨operationId, .migrationSafety⟩
  failIf (strictEq (backup.manifest.get "schemaContractVersion")
      (nullable source.contractVersion) = false
    ∨ strictEq (backup.manifest.get "migrationCount") (.num source.historyCount) = false
    ∨ strictEq (backup.manifest.get "migrationBundleDigest")
      (.str source.migrationBundleDigest) = false
    ∨ strictEq (backup.manifest.get "schemaFingerprint") (.str source.fingerprint) = false
    ∨ strictEq (backup.manifest.get "deploymentId") (nullable deploymentId) = false)
    "MIGRATION_BACKUP_INVALID: source identity"

def Disk.files (disk : Disk Bytes) : EnvironmentFiles Bytes where
  database := disk.database.map tools.databaseBytes
  sidecar := disk.sidecar
  marker := disk.marker.map tools.markerText

def backupOptions (bootstrapOwnershipAlreadyHeld : Bool) (operationId : String) :
    BackupEnvironmentOptions where
  locksAlreadyHeld := true
  bootstrapOwnershipAlreadyHeld := bootstrapOwnershipAlreadyHeld
  reason := some "pre-migration"
  maintenance := some ⟨operationId, .migrationSafety⟩

/-- The staging directory takes its name, which no other directory has. -/
def publish (result : BackupResult Bytes) (disk : Disk Bytes) : Except String String × Disk Bytes :=
  if occupied (disk.backups result.backupId) = true then
    (.error "ENOTEMPTY: directory not empty", disk)
  else
    (.ok result.backupId,
      { disk with backups := fun id =>
        if id = result.backupId then result.directory else disk.backups id })

def takeBackup (bootstrapOwnershipAlreadyHeld : Bool) (operationId : String) :
    Maintain Bytes String :=
  perform world.operation (fun _ disk => disk) fun turn disk =>
    match backupEnvironment tools.toPlatform paths (world.backupHost turn disk.contents)
      (disk.files tools) (backupOptions bootstrapOwnershipAlreadyHeld operationId) with
    | .ok result => publish result disk
    | .error message => (.error message, disk)

/-- A backup of the marker's operation is there and has the source's identity. -/
def checkBackup (backupId : String) (source : SourceVerification) (deploymentId : Option String)
    (operationId : String) : Maintain Bytes Unit :=
  ask fun turn disk => do
    world.query turn
    (verifyMigrationBackup tools paths disk.backups backupId source deploymentId
      operationId).mapError .thrown

/-- The backup that the marker names; an empty name is none. -/
def recordedBackup (marker : MaintenanceMarker) : Option String := marker.backupId.filter (· ≠ "")

/-- The marker that is to name a new backup, if one had to be taken. -/
def backUpSource (bootstrapOwnershipAlreadyHeld : Bool) (marker : MaintenanceMarker)
    (source : SourceVerification) : Maintain Bytes (Option MaintenanceMarker) := do
  let deploymentId ← query world sourceDeploymentId
  match recordedBackup marker with
  | some backupId => do
    checkBackup tools world paths backupId source deploymentId marker.operationId
    pure none
  | none => do
    let backupId ← takeBackup tools world paths bootstrapOwnershipAlreadyHeld marker.operationId
    checkBackup tools world paths backupId source deploymentId marker.operationId
    pure (some { marker with stage := .backedUp, backupId := some backupId })

variable (release : Release)

structure Pending where
  count : ℕ
  source : Option SourceVerification

def readPending (db : Contents) : Except String Pending := do
  assertKnownHistory release db
  let beforeCount := db.history.length
  let count := release.migrationBundle.length - beforeCount
  if 0 < count ∧ 0 < beforeCount then do
    let source ← verifyKnownSourceDatabase release db
    .ok ⟨count, some source⟩
  else .ok ⟨count, none⟩

def recordFailure (marker : MaintenanceMarker) (message : String) : Maintain Bytes Unit := do
  if (← look fun disk => disk.marker.isSome) = true then
    writeMaintenanceMarker world { marker with stage := .failed, lastError := some message }
  else pure ()

/-- A step under an owned marker: its failure is recorded while a marker is there. -/
def owning {α : Type} (marker : MaintenanceMarker) (step : Maintain Bytes α) : Maintain Bytes α :=
  attempt step fun message => do
    recordFailure world marker message
    refuse message

def prepare (bootstrapOwnershipAlreadyHeld : Bool) (marker : MaintenanceMarker) :
    Maintain Bytes (ℕ × Option MaintenanceMarker) := do
  let existed ← look fun disk => disk.database.isSome
  openMaintenanceDatabase world
  let pending ← query world (readPending tools.release)
  match pending.source with
  | none => pure (pending.count, none)
  | some source =>
    if existed = true ∧ 0 < pending.count then do
      let backedUp ← backUpSource tools world paths bootstrapOwnershipAlreadyHeld marker source
      pure (pending.count, backedUp)
    else pure (pending.count, none)

def recordBackup (marker : MaintenanceMarker) :
    Option MaintenanceMarker → Maintain Bytes MaintenanceMarker
  | none => pure marker
  | some backedUp => do
    owning world backedUp (writeMaintenanceMarker world backedUp)
    pure backedUp

def Disk.apply (disk : Disk Bytes) : Disk Bytes :=
  { disk with
    database := some (tools.applyMigrations disk.contents)
    applied := disk.applied ++
      [⟨disk.marker, disk.backups, disk.contents, tools.applyMigrations disk.contents⟩] }

def applyPending (pending : ℕ) : Maintain Bytes Unit :=
  if 0 < pending then act world.operation fun _ disk => disk.apply tools else pure ()

def contractRow : SourceContract :=
  ⟨release.schemaContract.contractVersion, release.schemaContract.migrationBundleDigest,
    release.schemaContract.schemaFingerprint⟩

def upsertContract : Maintain Bytes Unit :=
  perform world.operation (fun _ disk => disk) fun _ disk =>
    match disk.contents.dbContract with
    | .ok _ => (.ok (), { disk with
        database := some { disk.contents with dbContract := .ok (some (contractRow release)) } })
    | .error message => (.error message, disk)

def finalizeDatabaseContract : Maintain Bytes Verification := do
  let verification ← query world (verifyDatabase release true)
  upsertContract world release
  let _ ← query world (verifyKnownSourceDatabase release)
  pure verification

def runMigration (bootstrapOwnershipAlreadyHeld : Bool) (marker : MaintenanceMarker) :
    Maintain Bytes (Bool × Verification) := do
  let (pending, backedUp) ← owning world marker
    (prepare tools world paths bootstrapOwnershipAlreadyHeld marker)
  let marker ← recordBackup world marker backedUp
  let marker := { marker with stage := .applying }
  owning world marker do
    writeMaintenanceMarker world marker
    query world fun _ => .ok () -- `journal_mode = WAL`
    applyPending tools world pending
  let marker := { marker with stage := .finalizing }
  let verification ← owning world marker do
    writeMaintenanceMarker world marker
    let verification ← finalizeDatabaseContract world tools.release
    clearMaintenanceMarker world
    pure verification
  pure (decide (0 < pending), verification)

def migrationMarker (operationId : String) : MaintenanceMarker where
  operationId := operationId
  operationType := .migrate
  stage := .prepared
  environmentId := paths.environmentId
  targetDatabase := paths.databasePath
  expectedSchemaContract := release.schemaContract.contractVersion
  expectedDeploymentId := none
  reindexFromBlock := none
  targetBlock := none
  targetHash := none
  projectionPhase := none
  backupId := none
  transitionedFromOperationId := none
  transitionedFromOperationType := none
  transitionedFromLastError := none
  lastError := none
  expectedMigrationBundleDigest := some release.schemaContract.migrationBundleDigest

structure MigrationResult where
  operationId : String
  changed : Bool
  verification : Verification
  deriving DecidableEq, Repr

/-- `operationId` is the random identity of a new operation. -/
def migrateEnvironment (bootstrapOwnershipAlreadyHeld : Bool) (operationId : String) :
    Maintain Bytes MigrationResult := do
  ask fun turn _ => world.initializeOwnedEnvironment turn
  ask fun turn _ => world.acquireMaintenanceLocks turn
  match ← look Disk.marker with
  | some marker => do
    refuseIf (marker.operationType ≠ .migrate
      ∨ marker.environmentId ≠ paths.environmentId
      ∨ marker.targetDatabase ≠ paths.databasePath
      ∨ marker.expectedSchemaContract ≠ tools.release.schemaContract.contractVersion
      ∨ marker.expectedMigrationBundleDigest ≠
        some tools.release.schemaContract.migrationBundleDigest)
      "MAINTENANCE_INCOMPLETE"
    let (changed, verification) ←
      runMigration tools world paths bootstrapOwnershipAlreadyHeld marker
    pure ⟨marker.operationId, changed, verification⟩
  | none => do
    let marker := migrationMarker paths tools.release operationId
    writeMaintenanceMarker world marker
    let (changed, verification) ←
      runMigration tools world paths bootstrapOwnershipAlreadyHeld marker
    pure ⟨operationId, changed, verification⟩

inductive Recovery where
  | noRecoveryRequired
  | recoveryRequired (marker : MaintenanceMarker)
  | actionRequired (marker : MaintenanceMarker) (action : String)
  | recovered (operationId : String)
  deriving DecidableEq, Repr

/-- A marker without the bundle's digest is one of an earlier release. -/
def migrationAction (marker : MaintenanceMarker) : String :=
  if (marker.expectedMigrationBundleDigest.filter (· ≠ "")).isSome = true then
    "RERUN_MATCHING_MIGRATION"
  else "USE_ORIGINAL_RELEASE_MIGRATION_TOOL"

def readHistoryCount (db : Contents) : Except String ℕ := do
  assertKnownHistory release db
  .ok db.history.length

def recoverMigration (marker : MaintenanceMarker) : Maintain Bytes Recovery := do
  refuseIf (marker.environmentId ≠ paths.environmentId
    ∨ marker.targetDatabase ≠ paths.databasePath
    ∨ marker.expectedSchemaContract ≠ tools.release.schemaContract.contractVersion
    ∨ (marker.expectedMigrationBundleDigest ≠ none ∧ marker.expectedMigrationBundleDigest ≠
      some tools.release.schemaContract.migrationBundleDigest))
    "RECOVERY_REQUIRED: migration identity mismatch"
  refuseIf ((← look fun disk => disk.database.isSome) = false)
    "RECOVERY_REQUIRED: active database missing"
  let historyCount ← query world (readHistoryCount tools.release)
  if historyCount < tools.release.migrationBundle.length then do
    let _ ← query world (verifyKnownSourceDatabase tools.release)
    pure (.actionRequired marker (migrationAction marker))
  else do
    let _ ← finalizeDatabaseContract world tools.release
    clearMaintenanceMarker world
    pure (.recovered marker.operationId)

/-- The recovery of a reset or a restore acts on the database and the marker. -/
def recoverOther (marker : MaintenanceMarker) : Maintain Bytes Recovery := do
  act world.operation fun turn disk => { disk with
    database := (world.recoverOther turn).1, marker := (world.recoverOther turn).2 }
  pure (.recovered marker.operationId)

/-- Recovery of a reset excludes a bootstrap as well. -/
def acquireBootstrapOwnership : Maintain Bytes Unit := do
  if (← look fun disk => disk.marker.any fun m => m.operationType == .reset) = true then
    ask fun turn _ => world.acquireBootstrapOwnership turn
  else pure ()

def recoverEnvironment (complete : Bool) : Maintain Bytes Recovery := do
  ask fun turn _ => world.verifyOwnedEnvironment turn
  if complete = false then
    match ← look Disk.marker with
    | none => pure .noRecoveryRequired
    | some marker => pure (.recoveryRequired marker)
  else do
    acquireBootstrapOwnership world
    ask fun turn _ => world.acquireMaintenanceLocks turn
    match ← look Disk.marker with
    | none => pure .noRecoveryRequired
    | some marker =>
      match marker.operationType with
      | .rebuildProjection => pure (.actionRequired marker "RERUN_MATCHING_PROJECTION_OPERATION")
      | .reindexProjection => pure (.actionRequired marker "RERUN_MATCHING_PROJECTION_OPERATION")
      | .migrate => recoverMigration tools world paths marker
      | .reset => recoverOther world marker
      | .restore => recoverOther world marker

end
end MotorCove.Maintenance.Migrate
