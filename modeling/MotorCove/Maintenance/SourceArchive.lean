import MotorCove.Indexer.Replay
import MotorCove.Maintenance.BackupVerification
import MotorCove.Maintenance.ProjectionRuns

/-!
# The archive behind a source refresh

A reindex whose source is not trusted deletes every source row, after a backup
of the environment that it takes, verifies and records in its marker. Here the
site of an operation has its backups beside it, and each call on the tables is
noted with the marker and the backups it was made under.
-/

set_option autoImplicit false

namespace MotorCove.Maintenance.Archive
open MotorCove.Crashes MotorCove.Effects MotorCove.Fallible MotorCove.Histories MotorCove.Indexer
  MotorCove.Text

/-- A file is a database, of which the source tables are known, or another file. -/
inductive FileContent (Rest : Type) where
  | database (db : Database) (rest : Rest)
  | other (rest : Rest)

/-- A call on the tables, with the durable marker and the backups at its time. -/
structure Note (Rest : Type) where
  marker : Option MaintenanceMarker
  backups : String → BackupDirectory (FileContent Rest)
  call : Transition Database StoreCall

structure ArchiveSite (Rest : Type) where
  site : Site
  backups : String → BackupDirectory (FileContent Rest)
  notes : List (Note Rest)

/-- What the host answers, a backup's steps included. -/
structure ArchiveHost (σ Rest : Type) extends Host σ where
  backup : ℕ → BackupHost Rest
  /-- What the database file holds besides the tables. -/
  rest : ℕ → Rest
  sidecar : ℕ → Sidecar → Option (FileContent Rest)
  readBackup : ℕ → Except (Failure String) Unit
  markerText : MaintenanceMarker → String

abbrev ArchiveOperation (Rest α : Type) := Prog String (ArchiveSite Rest) α

section
variable {σ Rest α : Type}

def ArchiveSite.moved (d : ArchiveSite Rest) (s : Site) : ArchiveSite Rest where
  site := s
  backups := d.backups
  notes := d.notes ++ (s.calls.drop d.site.calls.length).map fun t =>
    ⟨d.site.marker, d.backups, t⟩

def onSite (x : Operation α) : ArchiveOperation Rest α :=
  within ArchiveSite.site (fun s d => d.moved s) x

variable (evidenceDigest : Evidence → String) (platform : Platform (FileContent Rest))
  (config : Config) (host : ArchiveHost σ Rest)

/-- SQLite's backup copies the tables. -/
def copying (host : BackupHost Rest) (db : Database) : BackupHost (FileContent Rest) where
  step := host.step
  copied := host.copied.map (FileContent.database db)
  startedAt := host.startedAt
  createdAt := host.createdAt
  randomUUID := host.randomUUID
  sqliteVersion := host.sqliteVersion

/-- `renameSync` does not replace a directory with files. -/
def isTaken (directory : BackupDirectory (FileContent Rest)) : Bool :=
  directory.database.isSome || directory.manifest.isSome ||
    sidecars.any fun s => (directory.sidecar s).isSome

def archiveOptions (marker : MaintenanceMarker) : BackupEnvironmentOptions where
  locksAlreadyHeld := true
  bootstrapOwnershipAlreadyHeld := false
  reason := some ("pre-reindex-source-refresh:" ++ marker.operationId)
  maintenance := some ⟨marker.operationId, .sourceRefreshArchive⟩

def files (turn : ℕ) (s : Site) : EnvironmentFiles (FileContent Rest) where
  database := some (.database s.db (host.rest turn))
  sidecar := host.sidecar turn
  marker := s.marker.map host.markerText

/-- `backupEnvironment`: its directory appears at once, or not at all. -/
def backupSource (marker : MaintenanceMarker) : ArchiveOperation Rest String :=
  perform host.operation (fun _ d => d) fun turn d =>
    match backupEnvironment platform config.environment (copying (host.backup turn) d.site.db)
        (files host turn d.site) (archiveOptions marker) with
    | .error e => (.error e, d)
    | .ok result =>
      if isTaken (d.backups result.backupId) = true then
        (.error "ENOTEMPTY: directory not empty, rename", d)
      else (.ok result.backupId,
        { d with backups := Function.update d.backups result.backupId result.directory })

def verifyArchive (marker : MaintenanceMarker) (backupId : String) : ArchiveOperation Rest Unit :=
  ask fun turn d => do
    host.readBackup turn
    let _ ← (verifyMaintenanceBackup platform config.environment d.backups backupId
      ⟨marker.operationId, .sourceRefreshArchive⟩).mapError .thrown
    pure ()

/-- The archive of a source about to be replaced: verified, or made and recorded. -/
def archiveSource (marker : MaintenanceMarker) : ArchiveOperation Rest String := do
  match nonEmpty marker.backupId with
  | some backupId => do
    verifyArchive platform config host marker backupId
    pure backupId
  | none => do
    let backupId ← backupSource platform config host marker
    verifyArchive platform config host marker backupId
    onSite (updateMarker host.toHost fun m => { m with backupId := some backupId })
    pure backupId

/-- Unless the catch-up goes on, the source is rewound or replaced. -/
def prepareSource (fromBlock : ℕ) (store : SqliteProjectionStore) (marker : MaintenanceMarker) :
    ArchiveOperation Rest Unit :=
  if marker.projectionPhase = some .catchingUp then pure ()
  else do
    let refresh ← look fun d => requiresSourceRefresh evidenceDigest store d.site.db
    let verifiedBackupId ← if refresh = true then do
        let backupId ← archiveSource platform config host marker
        pure (some backupId)
      else pure none
    onSite (updateMarker host.toHost fun m => { m with projectionPhase := some .preparing })
    onSite (callStore config host.toHost (.prepareForReindex fromBlock)
      (prepareForReindex evidenceDigest store fromBlock verifiedBackupId))

def replaySource (store : SqliteProjectionStore) (marker : MaintenanceMarker) (target : ℕ)
    (targetHash : String) (barrier : Option (Option String)) : ArchiveOperation Rest ℕ := do
  let events ← onSite (runRebuild evidenceDigest config host.toHost store .reindexProjection barrier)
  onSite (updateMarker host.toHost fun m => { m with projectionPhase := some .catchingUp })
  onSite (catchUpToReindexTarget evidenceDigest config host.toHost store target)
  let checkpoint ← onSite (readStoreCheckpoint config)
  let reached ← look fun d => hasCanonicalBlock target targetHash d.site.db
  refuseIf (¬target < heightOf checkpoint ∨ reached = false) "REINDEX_CATCHUP_INCOMPLETE"
  onSite (callStore config host.toHost (.completeReindexRecovery marker)
    (completeReindexRecovery store target targetHash))
  pure events

def runReindex (fromBlock : ℕ) (barrier : Option (Option String)) : ArchiveOperation Rest ℕ := do
  match ← look fun d => d.site.currentMarker with
  | none => refuse "MAINTENANCE_MARKER_UNAVAILABLE"
  | some marker =>
    match marker.targetBlock, marker.targetHash with
    | some targetBlock, some targetHash => do
      let store ← onSite (openStore config ⟨["0"], decide (fromBlock = config.scanStartBlock), true⟩)
      prepareSource evidenceDigest platform config host fromBlock store marker
      replaySource evidenceDigest config host store marker (value targetBlock.toList) targetHash
        barrier
    | _, _ => refuse "REINDEX_TARGET_NOT_AVAILABLE"

/-- The first write of a new marker, and the database opened again. -/
def startOperation (admission : Admission) (prepared : MaintenanceMarker) : Operation Unit :=
  attempt (do
      if admission.existing = none ∨ admission.transition = true then
        writeMarker host.toHost prepared
      else pure ()
      ask fun turn _ => host.openProjectionDatabase turn)
    fun message => failMarker host.toHost message

def runActive (prepared : MaintenanceMarker) (barrier : Option (Option String))
    (run : Option (Option String) → ArchiveOperation Rest ℕ) : ArchiveOperation Rest ℕ := do
  onSite (ask fun turn _ => host.verifyDatabase turn)
  onSite (publishMarker host.toHost { prepared with stage := .active })
  let result ← run barrier
  onSite (checkPostcondition barrier)
  pure result

/-- `runProjectionMaintenance` with a run that reaches the backups. -/
def runProjectionMaintenance (options : ProjectionOptions ℕ)
    (run : Option (Option String) → ArchiveOperation Rest ℕ) :
    ArchiveOperation Rest (String × ℕ) := do
  onSite (setCurrentMarker none)
  let admission ← onSite (checkAdmission config host.toHost options)
  let fresh ← onSite (randomUUID host.toHost)
  let operationId := if admission.transition = true then fresh
    else (admission.existing.map fun m => m.operationId).getD fresh
  let prepared := preparedMarker config options operationId admission
  onSite (setCurrentMarker (some prepared))
  onSite (startOperation host admission prepared)
  let result ← attempt (runActive host prepared admission.barrier run) fun message => do
    onSite (raiseBarrier host.toHost admission.barrier)
    onSite (failMarker host.toHost message)
  onSite (attempt (clearMarker host.toHost) fun message => failMarker host.toHost message)
  pure (operationId, result)

def reindex (fromBlock : ℕ) : ArchiveOperation Rest (String × ℕ) := do
  refuseIf (fromBlock < config.scanStartBlock) "REINDEX_BEFORE_SCAN_START"
  onSite (ask fun turn _ => host.verifyDeployment turn)
  runProjectionMaintenance config host (reindexOptions evidenceDigest config host.toHost fromBlock)
    (runReindex evidenceDigest platform config host fromBlock)

/-- An attempt by the release it is made with, or a write while no marker stands. -/
inductive ArchiveEvent (σ Rest : Type) where
  | attempt (config : Config) (operation : ProjectionOperation) (host : ArchiveHost σ Rest)
  | written (db : Database)

def ArchiveEvent.program (paths : EnvironmentPaths) (config : Config)
    (operation : ProjectionOperation) : ArchiveOperation Rest (String × ℕ) :=
  match operation with
  | .rebuild => onSite (rebuild evidenceDigest { config with environment := paths } host.toHost)
  | .reindex fromBlock =>
    reindex evidenceDigest platform { config with environment := paths } host fromBlock

def ArchiveEvent.run (paths : EnvironmentPaths) (event : ArchiveEvent σ Rest)
    (d : ArchiveSite Rest) : ArchiveSite Rest :=
  match event with
  | .attempt config operation host =>
    (finalState (program evidenceDigest platform host paths config operation) ⟨0, d⟩).disk
  | .written db =>
    if d.site.marker = none then { d with site := { d.site with db, currentMarker := none } } else d

def runEvents (paths : EnvironmentPaths) (events : List (ArchiveEvent σ Rest))
    (d : ArchiveSite Rest) : ArchiveSite Rest :=
  events.foldl (fun d event => event.run evidenceDigest platform paths d) d

end
end MotorCove.Maintenance.Archive
