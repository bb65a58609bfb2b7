import Mathlib.Data.List.Sort
import MotorCove.Fallible
import MotorCove.Text

/-!
# Schema history and verification

What the maintenance code asks a SQLite file, and the checks it makes on the
answers: the migration ledger against the repository's bundle, integrity, the
schema's fingerprint, and the contract that the file records of itself.
-/

set_option autoImplicit false

namespace MotorCove.Maintenance
open MotorCove.Fallible MotorCove.Text

structure MigrationDescriptor where
  id : String
  createdAt : ℕ
  hash : String
  deriving DecidableEq, Repr

/-- A row of the native ledger, in the order of its query. -/
structure HistoryRow where
  hash : String
  createdAt : ℕ
  deriving DecidableEq, Repr

/-- A row of `sqlite_schema`. -/
structure SchemaRow where
  type : String
  name : String
  tblName : String
  sql : Option String
  deriving DecidableEq, Repr

structure SourceContract where
  contractVersion : String
  migrationBundleDigest : String
  schemaFingerprint : String
  deriving DecidableEq, Repr

structure CheckpointColumns where
  checkpointBlock : Option ℕ
  checkpointHash : Option String
  projectorVersion : String
  projectionBuildId : String
  logScopeHash : String
  deriving DecidableEq, Repr

structure RuntimeColumns where
  projectionStatus : String
  recoveryReason : Option String
  deriving DecidableEq, Repr

/-- The answers of a SQLite file. A query of a table that is missing throws. -/
structure Contents where
  history : List HistoryRow
  schema : List SchemaRow
  integrity : String
  foreignKeyErrors : ℕ
  dbContract : Except String (Option SourceContract)
  deployments : Except String (List String)
  checkpoint : String → Except String (Option CheckpointColumns)
  runtimeStatus : String → Except String (Option RuntimeColumns)

structure SchemaContract where
  contractVersion : String
  migrations : List MigrationDescriptor
  migrationBundleDigest : String
  schemaFingerprint : String

/-- The repository: its migrations, its contract, and the digests of JSON texts. -/
structure Release where
  migrationBundle : List MigrationDescriptor
  schemaContract : SchemaContract
  bundleDigest : List MigrationDescriptor → String
  schemaDigest : List SchemaRow → String

/-- `name LIKE 'sqlite_%'`. -/
def likeSqlite (name : String) : Bool :=
  lower (String.ofList (name.toList.take 6)) == "sqlite" && decide (6 < name.toList.length)

def SchemaRow.isApplication (row : SchemaRow) : Bool :=
  !likeSqlite row.name && row.name != "__drizzle_migrations"

/-- `ORDER BY type,name,tbl_name`. -/
def SchemaRow.le (a b : SchemaRow) : Prop :=
  leChars a.type.toList b.type.toList = true ∧ (a.type = b.type →
    leChars a.name.toList b.name.toList = true ∧ (a.name = b.name →
      leChars a.tblName.toList b.tblName.toList = true))

instance : DecidableRel SchemaRow.le := fun a b => by
  unfold SchemaRow.le
  exact inferInstance

def normalizedSchema (db : Contents) : List SchemaRow :=
  (db.schema.filter SchemaRow.isApplication).insertionSort SchemaRow.le

variable (release : Release)

def schemaFingerprint (db : Contents) : String := release.schemaDigest (normalizedSchema db)

def matchesBundle : List HistoryRow → List MigrationDescriptor → Bool
  | [], _ => true
  | _ :: _, [] => false
  | row :: history, expected :: bundle =>
    row.hash == expected.hash && row.createdAt == expected.createdAt &&
      matchesBundle history bundle

def assertKnownHistory (db : Contents) : Except String Unit := do
  let hasApplicationTables := db.schema.any fun row => row.type == "table" && row.isApplication
  failIf (db.history = [] ∧ hasApplicationTables = true)
    "DB_HISTORY_DIVERGED: non-empty database has no native ledger"
  failIf (release.migrationBundle.length < db.history.length)
    "DB_HISTORY_DIVERGED: unknown migration"
  failIf (matchesBundle db.history release.migrationBundle = false)
    "DB_HISTORY_DIVERGED: applied migration differs from repository"

structure Verification where
  historyCount : ℕ
  fingerprint : String
  integrity : String
  foreignKeyErrors : ℕ
  deriving DecidableEq, Repr

def verifyDatabase (requireCurrent : Bool) (db : Contents) : Except String Verification := do
  assertKnownHistory release db
  failIf (requireCurrent = true ∧
    db.history.length ≠ release.schemaContract.migrations.length) "DB_SCHEMA_BEHIND"
  failIf (db.integrity ≠ "ok") ("DB_INTEGRITY_ERROR: " ++ db.integrity)
  failIf (db.foreignKeyErrors ≠ 0) "DB_FOREIGN_KEY_ERROR"
  let fingerprint := schemaFingerprint release db
  failIf (requireCurrent = true ∧ fingerprint ≠ release.schemaContract.schemaFingerprint)
    "DB_SCHEMA_DRIFT"
  .ok ⟨db.history.length, fingerprint, db.integrity, db.foreignKeyErrors⟩

structure SourceVerification extends Verification where
  contractVersion : Option String
  migrationBundleDigest : String
  deriving DecidableEq, Repr

def verifyKnownSourceDatabase (db : Contents) : Except String SourceVerification := do
  let verification ← verifyDatabase release false db
  if db.history = [] then
    .ok { verification with
      contractVersion := none, migrationBundleDigest := release.bundleDigest [] }
  else
    match ← db.dbContract with
    | none => .error "DB_SOURCE_CONTRACT_MISSING"
    | some contract => do
      let expectedDigest := release.bundleDigest (release.migrationBundle.take db.history.length)
      failIf (contract.migrationBundleDigest ≠ expectedDigest)
        "DB_SOURCE_CONTRACT_DRIFT: migration digest"
      failIf (contract.schemaFingerprint ≠ verification.fingerprint)
        "DB_SOURCE_CONTRACT_DRIFT: schema fingerprint"
      .ok { verification with
        contractVersion := some contract.contractVersion
        migrationBundleDigest := expectedDigest }

end MotorCove.Maintenance
