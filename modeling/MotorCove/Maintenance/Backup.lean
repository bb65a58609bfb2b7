import MotorCove.Json
import MotorCove.Maintenance.Marker
import MotorCove.Maintenance.Migrations

/-!
# Backups: their producer and their verifier

A backup is a snapshot of the database, copies of the sidecars, and a manifest
that describes them. The verifier reads the manifest as the JSON value it holds,
whatever its shape, and compares it with what it finds in the directory. Files
have opaque bytes; SQLite and the clock are outside the program.
-/

set_option autoImplicit false

namespace MotorCove.Maintenance
open MotorCove.Fallible MotorCove.Text

inductive Sidecar where
  | deployment
  | bootstrapReceipt
  | seedJournal
  deriving DecidableEq, Repr

def Sidecar.name : Sidecar → String
  | .deployment => "deployment"
  | .bootstrapReceipt => "bootstrapReceipt"
  | .seedJournal => "seedJournal"

def Sidecar.file : Sidecar → String
  | .deployment => "deployment.json"
  | .bootstrapReceipt => "bootstrap-receipt.json"
  | .seedJournal => "seed-journal.json"

def sidecars : List Sidecar := [.deployment, .bootstrapReceipt, .seedJournal]

theorem mem_sidecars (s : Sidecar) : s ∈ sidecars := by
  cases s <;> simp [sidecars]

/-- What a backup reads of the marker. -/
structure SourceMarker where
  operationId : String
  operationType : String
  stage : String
  environmentId : String
  targetDatabase : String
  projectionPhase : Option ProjectionPhase
  deriving DecidableEq, Repr

structure EnvironmentFiles (Bytes : Type) where
  database : Option Bytes
  sidecar : Sidecar → Option Bytes
  /-- The text of the marker's file. -/
  marker : Option String

/-- A manifest that is no JSON text has no value. -/
structure BackupDirectory (Bytes : Type) where
  database : Option Bytes
  manifest : Option (Option Json)
  sidecar : Sidecar → Option Bytes

/-- SQLite, the digests and the parsers. -/
structure Platform (Bytes : Type) where
  release : Release
  openDatabase : Bytes → Except String Contents
  fileHash : Bytes → String
  sha256 : String → String
  parseJson : Bytes → Option Json
  parseMarker : String → Option SourceMarker

section
variable {Bytes : Type} (platform : Platform Bytes) (paths : EnvironmentPaths)

inductive BackupMaintenancePurpose where
  | migrationSafety
  | sourceRefreshArchive
  deriving DecidableEq, Repr

def BackupMaintenancePurpose.text : BackupMaintenancePurpose → String
  | .migrationSafety => "MIGRATION_SAFETY"
  | .sourceRefreshArchive => "SOURCE_REFRESH_ARCHIVE"

def BackupMaintenancePurpose.expectedType : BackupMaintenancePurpose → String
  | .migrationSafety => "MIGRATE"
  | .sourceRefreshArchive => "REINDEX_PROJECTION"

structure BackupMaintenance where
  operationId : String
  purpose : BackupMaintenancePurpose
  deriving DecidableEq, Repr

structure BackupEnvironmentOptions where
  locksAlreadyHeld : Bool
  bootstrapOwnershipAlreadyHeld : Bool
  reason : Option String
  maintenance : Option BackupMaintenance

structure MaintenanceIncomplete where
  operationId : String
  operationType : String
  stage : String
  purpose : BackupMaintenancePurpose
  markerSha256 : String
  projectionPhase : Option ProjectionPhase
  deriving DecidableEq, Repr

/-- `none` is the state `READY`. -/
abbrev BackupSourceCondition := Option MaintenanceIncomplete

def readSourceCondition (marker : Option String) (maintenance : Option BackupMaintenance) :
    Except String BackupSourceCondition :=
  match marker, maintenance with
  | none, some _ => .error "BACKUP_MAINTENANCE_CONTEXT_MISMATCH"
  | none, none => .ok none
  | some _, none => .error "MAINTENANCE_INCOMPLETE"
  | some bytes, some maintenance =>
    match platform.parseMarker bytes with
    | none => .error "MAINTENANCE_INCOMPLETE"
    | some marker => do
      failIf (marker.operationId ≠ maintenance.operationId
        ∨ marker.operationType ≠ maintenance.purpose.expectedType
        ∨ marker.environmentId ≠ paths.environmentId
        ∨ marker.targetDatabase ≠ paths.databasePath) "BACKUP_MAINTENANCE_CONTEXT_MISMATCH"
      .ok (some ⟨marker.operationId, marker.operationType, marker.stage, maintenance.purpose,
        platform.sha256 bytes, marker.projectionPhase⟩)

def ProjectionPhase.text : ProjectionPhase → String
  | .preparing => "PREPARING"
  | .catchingUp => "CATCHING_UP"

def sourceConditionJson : BackupSourceCondition → Json
  | none => .obj [("state", .str "READY")]
  | some condition => .obj
    [("state", .str "MAINTENANCE_INCOMPLETE"),
      ("operationId", .str condition.operationId),
      ("operationType", .str condition.operationType),
      ("stage", .str condition.stage),
      ("purpose", .str condition.purpose.text),
      ("markerSha256", .str condition.markerSha256),
      ("projectionPhase", .nullable (condition.projectionPhase.map ProjectionPhase.text))]

def restorePolicy (condition : BackupSourceCondition) : String :=
  if condition = none then "STANDARD" else "EVIDENCE_ONLY"

/-- `none` is the state `PREDEPLOYMENT`. -/
abbrev BackupDeploymentIdentity := Option String

def databaseDeploymentIdentity (db : Contents) : Except String BackupDeploymentIdentity := do
  match ← db.deployments with
  | [] => .ok none
  | [deploymentId] => .ok (some deploymentId)
  | _ => .error "BACKUP_INVALID: deployment identity"

def deploymentState (identity : BackupDeploymentIdentity) : String :=
  if identity = none then "PREDEPLOYMENT" else "DEPLOYED"

def nullable (text : Option String) : Primitive := (text.map Primitive.str).getD .null

abbrev ProjectionEvidence := List (String × Primitive)

def projectionEvidence (db : Contents) (identity : BackupDeploymentIdentity) :
    Except String (Option ProjectionEvidence) :=
  match identity with
  | none => .ok none
  | some deploymentId => do
    let checkpoint ← db.checkpoint deploymentId
    let runtime ← db.runtimeStatus deploymentId
    match checkpoint, runtime with
    | none, none =>
      .ok (some [("state", .str "NOT_INITIALIZED"), ("deploymentId", .str deploymentId)])
    | some checkpoint, some runtime =>
      .ok (some [("state", .str "OBSERVED"),
        ("deploymentId", .str deploymentId),
        ("checkpointBlock", nullable (checkpoint.checkpointBlock.map Nat.repr)),
        ("checkpointHash", nullable checkpoint.checkpointHash),
        ("projectorVersion", .str checkpoint.projectorVersion),
        ("projectionBuildId", .str checkpoint.projectionBuildId),
        ("logScopeHash", .str checkpoint.logScopeHash),
        ("projectionStatus", .str runtime.projectionStatus),
        ("recoveryReason", nullable runtime.recoveryReason)])
    | _, _ => .error "BACKUP_INVALID: projection evidence"

def deploymentSidecarId (bytes : Bytes) : Except String String :=
  match (getOptional (platform.parseJson bytes) "deploymentId").bind Json.str? with
  | none => .error "BACKUP_INVALID: sidecar deployment.json"
  | some deploymentId => .ok deploymentId

/-- `/^0x[0-9a-fA-F]{64}$/`. -/
def isBytes32 (text : String) : Bool :=
  match text.toList with
  | '0' :: 'x' :: digits => digits.length == 64 && digits.all fun c => isHexDigit c.toLower
  | _ => false

/-- `/^(0|[1-9][0-9]*)$/`. -/
def isCanonicalDecimal (text : String) : Bool :=
  match text.toList with
  | ['0'] => true
  | c :: digits => c.isDigit && c != '0' && digits.all Char.isDigit
  | [] => false

/-- The characters that `trim` removes. -/
def isWhitespace (c : Char) : Bool :=
  [0x9, 0xA, 0xB, 0xC, 0xD, 0x20, 0xA0, 0x1680, 0x2028, 0x2029, 0x202F, 0x205F, 0x3000,
    0xFEFF].contains c.toNat || (0x2000 ≤ c.toNat && c.toNat ≤ 0x200A)

def daysInMonth (year month : ℕ) : ℕ :=
  if month = 2 then
    if year % 4 = 0 ∧ (year % 100 ≠ 0 ∨ year % 400 = 0) then 29 else 28
  else if month = 4 ∨ month = 6 ∨ month = 9 ∨ month = 11 then 30 else 31

/-- The part `-MM-DDTHH:mm:ss.sssZ` of a time in a year. -/
def isTimeOfYear (year : ℕ) (text : List Char) : Bool :=
  match text with
  | ['-', m₁, m₂, '-', d₁, d₂, 'T', h₁, h₂, ':', n₁, n₂, ':', s₁, s₂, '.', f₁, f₂, f₃, 'Z'] =>
    [m₁, m₂, d₁, d₂, h₁, h₂, n₁, n₂, s₁, s₂, f₁, f₂, f₃].all Char.isDigit &&
      decide (1 ≤ value [m₁, m₂] ∧ value [m₁, m₂] ≤ 12 ∧ 1 ≤ value [d₁, d₂] ∧
        value [d₁, d₂] ≤ daysInMonth year (value [m₁, m₂]) ∧ value [h₁, h₂] < 24 ∧
        value [n₁, n₂] < 60 ∧ value [s₁, s₂] < 60)
  | _ => false

/-- `new Date(text).toISOString() === text`: four digits of a year, or a sign and
six, within the range of a time value. -/
def isCanonicalDate (text : String) : Bool :=
  match text.toList with
  | '+' :: rest =>
    (rest.take 6).all Char.isDigit && isTimeOfYear (value (rest.take 6)) (rest.drop 6) &&
      leChars "010000".toList rest && leChars rest "275760-09-13T00:00:00.000Z".toList
  | '-' :: rest =>
    (rest.take 6).all Char.isDigit && isTimeOfYear (value (rest.take 6)) (rest.drop 6) &&
      leChars "000001".toList rest && (leChars rest "271820-99".toList ||
        (rest.take 6 == "271821".toList && leChars "271821-04-20T00:00:00.000Z".toList rest))
  | rest => (rest.take 4).all Char.isDigit && isTimeOfYear (value (rest.take 4)) (rest.drop 4)

def parseBootstrapReceipt (row : Json) (environmentId deploymentId : String) :
    Except String Unit := do
  let text (name : String) : Option String := (row.get name).bind Json.str?
  match row with
  | .obj _ =>
    failIf (strictEq (row.get "formatVersion") (.num 1) = false
      ∨ strictEq (row.get "environmentId") (.str environmentId) = false
      ∨ (text "deploymentId").any isBytes32 = false
      ∨ (text "deploymentId").map lower ≠ some (lower deploymentId)
      ∨ (text "targetBlock").any isCanonicalDecimal = false
      ∨ (text "targetHash").any isBytes32 = false
      ∨ ((text "projectionBuildId").any fun s => !s.toList.all isWhitespace) = false
      ∨ (text "completedAt").any isCanonicalDate = false)
      "BOOTSTRAP_RECEIPT_INVALID: schema or identity"
  | _ => .error "BOOTSTRAP_RECEIPT_INVALID: object"

def readBootstrapReceipt (bytes : Bytes) (environmentId deploymentId : String) :
    Except String Unit :=
  match platform.parseJson bytes with
  | none => .error "BOOTSTRAP_RECEIPT_INVALID: JSON"
  | some value => parseBootstrapReceipt value environmentId deploymentId

/-- A receipt that is present is valid. -/
def checkReceipt (receipt : Option Bytes) (deploymentId : String) : Except String Unit :=
  match receipt with
  | none => .ok ()
  | some bytes => (readBootstrapReceipt platform bytes paths.environmentId deploymentId).mapError
      fun _ => "BACKUP_INVALID: bootstrap receipt"

/-- A time of a year with four digits. -/
structure Clock where
  text : String
  canonical : isCanonicalDate text = true
  fourDigits : text.toList.head?.any Char.isDigit = true

structure Uuid where
  text : String
  hex : (text.toList.take 8).all isHexDigit = true
  length : 8 ≤ text.toList.length

inductive BackupStep where
  | verifyOwnedEnvironment
  | acquireBootstrapReadOwnership
  | acquireMaintenanceLocks
  | createStaging
  | copyFile (sidecar : Sidecar)
  | writeManifest
  | writeVerification
  | publish
  deriving DecidableEq, Repr

/-- The host's answers to one call. `copied` is what SQLite's backup leaves. -/
structure BackupHost (Bytes : Type) where
  step : BackupStep → Except String Unit
  copied : Except String Bytes
  startedAt : Clock
  createdAt : Clock
  randomUUID : Uuid
  sqliteVersion : String

/-- `new Date().toISOString().replaceAll(/[:.]/g, '-')` with the head of a random UUID. -/
def newBackupId (host : BackupHost Bytes) : String :=
  String.ofList (host.startedAt.text.toList.map (fun c => if c = ':' ∨ c = '.' then '-' else c) ++
    '-' :: host.randomUUID.text.toList.take 8)

def sidecarEvidence (file : Option Bytes) : Json :=
  match file with
  | some bytes => .obj [("present", .bool true), ("sha256", .str (platform.fileHash bytes))]
  | none => .obj [("present", .bool false)]

structure Snapshot (Bytes : Type) where
  bytes : Bytes
  verification : SourceVerification
  deployment : BackupDeploymentIdentity
  projection : Option ProjectionEvidence

def backupManifest (host : BackupHost Bytes) (options : BackupEnvironmentOptions)
    (sourceCondition : BackupSourceCondition) (snapshot : Snapshot Bytes)
    (files : Sidecar → Option Bytes) : Json :=
  .obj
    [("formatVersion", .num 3),
      ("backupId", .str (newBackupId host)),
      ("environmentId", .str paths.environmentId),
      ("reason", .str (options.reason.getD "manual")),
      ("createdAt", .str host.createdAt.text),
      ("databaseSha256", .str (platform.fileHash snapshot.bytes)),
      ("deploymentState", .str (deploymentState snapshot.deployment)),
      ("deploymentId", .nullable snapshot.deployment),
      ("restorePolicy", .str (restorePolicy sourceCondition)),
      ("sourceCondition", sourceConditionJson sourceCondition),
      ("projectionEvidence", (snapshot.projection.map Json.ofRecord).getD .null),
      ("sidecars", .obj (sidecars.map fun s => (s.name, sidecarEvidence platform (files s)))),
      ("schemaContractVersion", .nullable snapshot.verification.contractVersion),
      ("migrationCount", .num snapshot.verification.historyCount),
      ("migrationBundleDigest", .str snapshot.verification.migrationBundleDigest),
      ("schemaFingerprint", .str snapshot.verification.fingerprint),
      ("sqliteEngine", .obj [("version", .str host.sqliteVersion)]),
      ("includesChainState", .bool false)]

structure BackupResult (Bytes : Type) where
  backupId : String
  directory : BackupDirectory Bytes

def readSnapshot (bytes : Bytes) : Except String (Snapshot Bytes) := do
  let db ← platform.openDatabase bytes
  let verification ← verifyKnownSourceDatabase platform.release db
  let deployment ← databaseDeploymentIdentity db
  let projection ← projectionEvidence db deployment
  .ok ⟨bytes, verification, deployment, projection⟩

def checkSourceSidecars (deployment : BackupDeploymentIdentity)
    (files : Sidecar → Option Bytes) : Except String Unit :=
  match deployment with
  | some deploymentId =>
    match files .deployment with
    | none => .error "BACKUP_INVALID: deployment sidecar required"
    | some bytes => do
      let sidecarId ← deploymentSidecarId platform bytes
      failIf (sidecarId ≠ deploymentId) "BACKUP_INVALID: deployment identity"
  | none => failIf ((sidecars.any fun s => (files s).isSome) = true)
      "BACKUP_INVALID: predeployment sidecar state"

/-- The journal and the receipt come together, and a ready source has both. -/
def checkSourceLifecycle (deployment : BackupDeploymentIdentity)
    (sourceCondition : BackupSourceCondition) (files : Sidecar → Option Bytes) :
    Except String Unit :=
  match deployment with
  | none => .ok ()
  | some deploymentId => do
    failIf ((files .seedJournal).isSome ≠ (files .bootstrapReceipt).isSome)
      "BACKUP_INVALID: bootstrap lifecycle incomplete"
    failIf (sourceCondition = none ∧ (files .bootstrapReceipt).isSome = false)
      "BACKUP_INVALID: bootstrap lifecycle incomplete"
    checkReceipt platform paths (files .bootstrapReceipt) deploymentId

def copySidecars (host : BackupHost Bytes) (files : Sidecar → Option Bytes) : Except String Unit :=
  sidecars.forM fun s => if (files s).isSome = true then host.step (.copyFile s) else .ok ()

def unlessHeld (held : Bool) (acquire : Except String Unit) : Except String Unit :=
  if held = true then .ok () else acquire

def backupEnvironment (host : BackupHost Bytes) (env : EnvironmentFiles Bytes)
    (options : BackupEnvironmentOptions) : Except String (BackupResult Bytes) := do
  host.step .verifyOwnedEnvironment
  failIf (env.database.isSome = false) "DB_NOT_INITIALIZED"
  unlessHeld options.bootstrapOwnershipAlreadyHeld (host.step .acquireBootstrapReadOwnership)
  unlessHeld options.locksAlreadyHeld (host.step .acquireMaintenanceLocks)
  let sourceCondition ← readSourceCondition platform paths env.marker options.maintenance
  host.step .createStaging
  let bytes ← host.copied
  let snapshot ← readSnapshot platform bytes
  checkSourceSidecars platform snapshot.deployment env.sidecar
  copySidecars host env.sidecar
  checkSourceLifecycle platform paths snapshot.deployment sourceCondition env.sidecar
  host.step .writeManifest
  host.step .writeVerification
  host.step .publish
  .ok ⟨newBackupId host, some bytes,
    some (some (backupManifest platform paths host options sourceCondition snapshot env.sidecar)),
    env.sidecar⟩

end
end MotorCove.Maintenance
