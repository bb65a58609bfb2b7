import MotorCove.Maintenance.Migrate

/-!
# Runs of migration and recovery

Over any sequence of migrations and recoveries, each cut anywhere, the database
is either the source as it was, with a verified backup behind every marker that
names one, or it has the whole bundle. Either way a migration in which nothing
fails ends with the release's database and no marker.
-/

set_option autoImplicit false

namespace MotorCove.Maintenance.Migrate
open MotorCove.Crashes MotorCove.Effects MotorCove.Fallible

def rows (bundle : List MigrationDescriptor) : List HistoryRow :=
  bundle.map fun migration => ⟨migration.hash, migration.createdAt⟩

def Applied.added {Bytes : Type} (a : Applied Bytes) : List HistoryRow :=
  a.after.history.drop a.before.history.length

/-! `built` gives the fingerprint of the schema that the first files of the bundle build. -/

/-- The program's own check accepts the database, and its schema is the one that
its part of the bundle builds. -/
structure KnownSource (release : Release) (built : ℕ → String) (db : Contents) : Prop where
  verified : ∃ source, verifyKnownSourceDatabase release db = .ok source
  schema : schemaFingerprint release db = built db.history.length

/-- A database to which the whole bundle was applied. Its contract may be a previous one. -/
structure Complete (release : Release) (built : ℕ → String) (db : Contents) : Prop where
  history : db.history = rows release.migrationBundle
  schema : schemaFingerprint release db = built release.migrationBundle.length
  integrity : db.integrity = "ok"
  foreignKeys : db.foreignKeyErrors = 0
  contractTable : ∃ row, db.dbContract = .ok row

/-- The contract of the release was generated from its bundle. -/
structure Generated (release : Release) (built : ℕ → String) : Prop where
  nonempty : release.migrationBundle ≠ []
  migrations : release.schemaContract.migrations = release.migrationBundle
  digest : release.schemaContract.migrationBundleDigest =
    release.bundleDigest release.migrationBundle
  fingerprint : release.schemaContract.schemaFingerprint = built release.migrationBundle.length
  empty : schemaFingerprint release emptyContents = built 0

/-- The runner applies all that is pending to a known source. -/
def RunsPending {Bytes : Type} (tools : Tools Bytes) (built : ℕ → String) : Prop :=
  ∀ db, KnownSource tools.release built db →
    db.history.length < tools.release.migrationBundle.length →
    Complete tools.release built (tools.applyMigrations db)

section
variable {release : Release} {built : ℕ → String} {db : Contents}

theorem matchesBundle_iff {history : List HistoryRow} {bundle : List MigrationDescriptor} :
    matchesBundle history bundle = true ↔ history = rows (bundle.take history.length) := by
  induction history generalizing bundle with
  | nil => simp [matchesBundle, rows]
  | cons row history ih =>
    cases bundle with
    | nil => simp [matchesBundle, rows]
    | cons expected bundle =>
      obtain ⟨hash, createdAt⟩ := row
      simp only [matchesBundle, Bool.and_eq_true, beq_iff_eq, ih, List.length_cons,
        List.take_succ_cons, rows, List.map_cons, List.cons.injEq, HistoryRow.mk.injEq]

theorem verifyDatabase_ok {requireCurrent : Bool} {verification : Verification}
    (h : verifyDatabase release requireCurrent db = .ok verification) :
    assertKnownHistory release db = .ok () ∧ db.integrity = "ok" ∧ db.foreignKeyErrors = 0 := by
  simp only [verifyDatabase, bind_ok, failIf_ok, exists_const, not_not] at h
  obtain ⟨_, hknown, _, hintegrity, hforeign, _⟩ := h
  exact ⟨hknown, hintegrity, hforeign⟩

theorem verifyKnownSourceDatabase_ok {source : SourceVerification}
    (h : verifyKnownSourceDatabase release db = .ok source) :
    assertKnownHistory release db = .ok () ∧ db.integrity = "ok" ∧ db.foreignKeyErrors = 0 ∧
      (db.history ≠ [] → ∃ row, db.dbContract = .ok row) := by
  simp only [verifyKnownSourceDatabase, bind_ok] at h
  obtain ⟨verification, hverify, h⟩ := h
  obtain ⟨hknown, hintegrity, hforeign⟩ := verifyDatabase_ok hverify
  refine ⟨hknown, hintegrity, hforeign, fun hne => ?_⟩
  rw [if_neg hne] at h
  obtain ⟨row, hrow, _⟩ := bind_ok.mp h
  exact ⟨row, hrow⟩

theorem assertKnownHistory_ok (h : assertKnownHistory release db = .ok ()) :
    db.history.length ≤ release.migrationBundle.length ∧
      db.history = rows (release.migrationBundle.take db.history.length) := by
  simp only [assertKnownHistory, failIf_bind_ok, failIf_ok, Nat.not_lt, Bool.not_eq_false] at h
  exact ⟨h.2.1, matchesBundle_iff.mp h.2.2⟩

theorem KnownSource.follows (h : KnownSource release built db) :
    assertKnownHistory release db = .ok () ∧
      db.history.length ≤ release.migrationBundle.length ∧
      db.history = rows (release.migrationBundle.take db.history.length) := by
  obtain ⟨source, hsource⟩ := h.verified
  have hknown := (verifyKnownSourceDatabase_ok hsource).1
  exact ⟨hknown, assertKnownHistory_ok hknown⟩

/-- The rows of the whole bundle: those of the source, then those that it lacks. -/
theorem KnownSource.rows_eq (h : KnownSource release built db) :
    rows release.migrationBundle =
      db.history ++ rows (release.migrationBundle.drop db.history.length) := by
  obtain ⟨_, _, hhistory⟩ := h.follows
  nth_rewrite 1 [hhistory]
  rw [rows, rows, rows, ← List.map_append, List.take_append_drop]

theorem KnownSource.empty (h : Generated release built) :
    KnownSource release built emptyContents where
  verified := ⟨_, rfl⟩
  schema := h.empty

theorem KnownSource.complete (h : KnownSource release built db)
    (hgenerated : Generated release built)
    (hfull : release.migrationBundle.length ≤ db.history.length) :
    Complete release built db := by
  obtain ⟨source, hsource⟩ := h.verified
  obtain ⟨_, hintegrity, hforeign, hcontract⟩ := verifyKnownSourceDatabase_ok hsource
  obtain ⟨_, hle, hhistory⟩ := h.follows
  have hlength : db.history.length = release.migrationBundle.length := Nat.le_antisymm hle hfull
  rw [hlength, List.take_length] at hhistory
  refine ⟨hhistory, hlength ▸ h.schema, hintegrity, hforeign, hcontract fun hnil => ?_⟩
  rw [hnil, List.length_nil, eq_comm, List.length_eq_zero_iff] at hlength
  exact hgenerated.nonempty hlength

theorem Complete.length (h : Complete release built db) :
    db.history.length = release.migrationBundle.length := by
  rw [h.history, rows, List.length_map]

theorem Complete.known (h : Complete release built db) (hgenerated : Generated release built) :
    db.history ≠ [] ∧ assertKnownHistory release db = .ok () := by
  have hne : db.history ≠ [] := by
    intro hnil
    have hlength := h.length
    rw [hnil, List.length_nil, eq_comm, List.length_eq_zero_iff] at hlength
    exact hgenerated.nonempty hlength
  have hmatches : matchesBundle db.history release.migrationBundle = true := by
    rw [matchesBundle_iff, h.length, List.take_length]
    exact h.history
  refine ⟨hne, ?_⟩
  simp only [assertKnownHistory, failIf_bind_ok, failIf_ok, Nat.not_lt, Bool.not_eq_false]
  exact ⟨fun hnil => hne hnil.1, h.length.le, hmatches⟩

theorem Complete.verify (h : Complete release built db) (hgenerated : Generated release built)
    (requireCurrent : Bool) : verifyDatabase release requireCurrent db = .ok
      ⟨db.history.length, schemaFingerprint release db, db.integrity, db.foreignKeyErrors⟩ := by
  have hlength := h.length
  have hschema := h.schema
  rw [← hgenerated.migrations] at hlength
  rw [← hgenerated.fingerprint] at hschema
  simp only [verifyDatabase, (h.known hgenerated).2, ok_bind]
  rw [failIf_neg _ fun hne => hne.2 hlength, ok_bind, failIf_neg _ fun hne => hne h.integrity,
    ok_bind, failIf_neg _ fun hne => hne h.foreignKeys, ok_bind,
    failIf_neg _ fun hne => hne.2 hschema, ok_bind]

theorem Complete.withContract (h : Complete release built db) :
    Complete release built { db with dbContract := .ok (some (contractRow release)) } where
  history := h.history
  schema := h.schema
  integrity := h.integrity
  foreignKeys := h.foreignKeys
  contractTable := ⟨_, rfl⟩

theorem Complete.current (h : Complete release built db) (hgenerated : Generated release built)
    (hcontract : db.dbContract = .ok (some (contractRow release))) :
    ∃ source, verifyKnownSourceDatabase release db = .ok source := by
  have hschema := h.schema.trans hgenerated.fingerprint.symm
  simp only [verifyKnownSourceDatabase, h.verify hgenerated, ok_bind,
    if_neg (h.known hgenerated).1, hcontract, h.length, List.take_length]
  rw [failIf_neg _ fun hne => hne hgenerated.digest, ok_bind,
    failIf_neg _ fun hne => hne hschema.symm, ok_bind]
  exact ⟨_, rfl⟩

theorem Complete.added {source : Contents} (h : Complete release built db)
    (hsource : KnownSource release built source) :
    source.history ++ db.history.drop source.history.length = rows release.migrationBundle := by
  rw [h.history, hsource.rows_eq, List.drop_left]

end

section
variable {Bytes : Type} (tools : Tools Bytes) (paths : EnvironmentPaths) (built : ℕ → String)

structure MatchesSource (manifest : Json) (source : SourceVerification)
    (deploymentId : Option String) : Prop where
  contractVersion : manifest.get "schemaContractVersion" =
    Json.ofPrimitive (nullable source.contractVersion)
  migrationCount : manifest.get "migrationCount" = some (.num source.historyCount)
  migrationBundleDigest : manifest.get "migrationBundleDigest" =
    some (.str source.migrationBundleDigest)
  fingerprint : manifest.get "schemaFingerprint" = some (.str source.fingerprint)
  deploymentId : manifest.get "deploymentId" = Json.ofPrimitive (nullable deploymentId)

/-- A source with a history is changed only under a durable marker that names a
safety backup of its own operation, with the source's identity. -/
def SafelyApplied (a : Applied Bytes) : Prop :=
  a.before.history ≠ [] → ∃ marker backupId source deploymentId backup,
    a.marker = some marker ∧ marker.operationType = .migrate ∧ marker.backupId = some backupId ∧
    verifyKnownSourceDatabase tools.release a.before = .ok source ∧
    sourceDeploymentId a.before = .ok deploymentId ∧
    verifyMaintenanceBackup tools.toPlatform paths a.backups backupId
      ⟨marker.operationId, .migrationSafety⟩ = .ok backup ∧
    MatchesSource backup.manifest source deploymentId

structure Backupable (files : Sidecar → Option Bytes) (db : Contents) : Prop where
  accepted : ∃ deployment projection, databaseDeploymentIdentity db = .ok deployment ∧
    projectionEvidence db deployment = .ok projection ∧
    checkSourceSidecars tools.toPlatform deployment files = .ok () ∧
    ∀ condition, checkSourceLifecycle tools.toPlatform paths deployment (some condition) files =
      .ok ()

structure Start (start : Disk Bytes) : Prop where
  marker : start.marker = none
  applied : start.applied = []
  known : ∀ db, start.database = some db → KnownSource tools.release built db
  backup : ∀ db, start.database = some db → db.history ≠ [] →
    Backupable tools paths start.sidecar db

structure Ours (marker : MaintenanceMarker) : Prop where
  operationType : marker.operationType = .migrate
  environmentId : marker.environmentId = paths.environmentId
  targetDatabase : marker.targetDatabase = paths.databasePath
  expectedSchemaContract : marker.expectedSchemaContract =
    tools.release.schemaContract.contractVersion
  expectedMigrationBundleDigest : marker.expectedMigrationBundleDigest =
    some tools.release.schemaContract.migrationBundleDigest

def BackedUp (disk : Disk Bytes) (marker : MaintenanceMarker) : Prop :=
  ∀ backupId, recordedBackup marker = some backupId → ∃ source deploymentId,
    verifyKnownSourceDatabase tools.release disk.contents = .ok source ∧
    sourceDeploymentId disk.contents = .ok deploymentId ∧
    verifyMigrationBackup tools paths disk.backups backupId source deploymentId
      marker.operationId = .ok ()

/-- The source is as it was, and lacks a part of the bundle. -/
structure Untouched (start disk : Disk Bytes) : Prop where
  applied : disk.applied = []
  contents : disk.contents = start.contents
  behind : disk.contents.history.length < tools.release.migrationBundle.length

structure Migrated (start disk : Disk Bytes) : Prop where
  complete : Complete tools.release built disk.contents
  safely : ∀ a ∈ disk.applied, SafelyApplied tools paths a
  ledger : start.contents.history ++ disk.applied.flatMap Applied.added =
    rows tools.release.migrationBundle

structure Sound (start disk : Disk Bytes) : Prop where
  sidecar : disk.sidecar = start.sidecar
  ours : ∀ m, disk.marker = some m → Ours tools paths m
  backedUp : Untouched tools start disk → ∀ m, disk.marker = some m → BackedUp tools paths disk m
  phase : Untouched tools start disk ∨ Migrated tools paths built start disk

/-- The state under a marker that the program holds: it can be written. -/
structure Held (start : Disk Bytes) (marker : MaintenanceMarker) (disk : Disk Bytes) : Prop where
  sound : Sound tools paths built start disk
  ours : Ours tools paths marker
  backedUp : Untouched tools start disk → BackedUp tools paths disk marker

/-- What the inspection and the backup leave for the application. -/
structure Prepared (start : Disk Bytes) (marker : MaintenanceMarker) (pending : ℕ)
    (disk : Disk Bytes) : Prop where
  held : Held tools paths built start marker disk
  source : 0 < pending → Untouched tools start disk ∧
    (disk.contents.history ≠ [] → (recordedBackup marker).isSome = true)
  complete : pending = 0 → Complete tools.release built disk.contents

structure Finished (start disk : Disk Bytes) : Prop where
  sound : Sound tools paths built start disk
  marker : disk.marker = none
  migrated : Migrated tools paths built start disk
  contract : disk.contents.dbContract = .ok (some (contractRow tools.release))

end

section
variable {Bytes : Type} {tools : Tools Bytes} {paths : EnvironmentPaths} {built : ℕ → String}
  {start disk : Disk Bytes} {marker : MaintenanceMarker}

theorem verifyMigrationBackup_ok {backups : String → BackupDirectory Bytes}
    {backupId operationId : String} {source : SourceVerification} {deploymentId : Option String} :
    verifyMigrationBackup tools paths backups backupId source deploymentId operationId = .ok () ↔
      ∃ backup, verifyMaintenanceBackup tools.toPlatform paths backups backupId
        ⟨operationId, .migrationSafety⟩ = .ok backup ∧
        MatchesSource backup.manifest source deploymentId := by
  simp only [verifyMigrationBackup, bind_ok, failIf_ok, not_or, Bool.not_eq_false, strictEq_iff]
  constructor
  · rintro ⟨backup, hverify, h₁, h₂, h₃, h₄, h₅⟩
    exact ⟨backup, hverify, h₁, h₂, h₃, h₄, h₅⟩
  · rintro ⟨backup, hverify, h₁, h₂, h₃, h₄, h₅⟩
    exact ⟨backup, hverify, h₁, h₂, h₃, h₄, h₅⟩

theorem verifyMigrationBackup_found {backups : String → BackupDirectory Bytes}
    {backupId operationId : String} {source : SourceVerification} {deploymentId : Option String}
    (h : verifyMigrationBackup tools paths backups backupId source deploymentId operationId =
      .ok ()) : backupId ≠ "" ∧ occupied (backups backupId) = true := by
  obtain ⟨backup, hverify, _⟩ := verifyMigrationBackup_ok.mp h
  obtain ⟨hid, hdatabase, _⟩ := verifyBackup_ok.mp (verifyMaintenanceBackup_ok.mp hverify).1
  constructor
  · rintro rfl
    revert hid
    decide
  · simp [occupied, hdatabase]

theorem verifyMigrationBackup_congr {backups backups' : String → BackupDirectory Bytes}
    {backupId operationId : String} {source : SourceVerification} {deploymentId : Option String}
    (h : backups' backupId = backups backupId) :
    verifyMigrationBackup tools paths backups' backupId source deploymentId operationId =
      verifyMigrationBackup tools paths backups backupId source deploymentId operationId := by
  simp only [verifyMigrationBackup, verifyMaintenanceBackup, verifyBackup, h]

theorem Start.contents_known (h : Start tools paths built start)
    (hgenerated : Generated tools.release built) :
    KnownSource tools.release built start.contents := by
  cases hdatabase : start.database with
  | none =>
    rw [Disk.contents, hdatabase]
    exact KnownSource.empty hgenerated
  | some db =>
    rw [Disk.contents, hdatabase]
    exact h.known db hdatabase

theorem Start.sound (h : Start tools paths built start)
    (hgenerated : Generated tools.release built) : Sound tools paths built start start where
  sidecar := rfl
  ours := by
    intro m hm
    rw [h.marker] at hm
    cases hm
  backedUp := by
    intro _ m hm
    rw [h.marker] at hm
    cases hm
  phase := by
    have hknown := h.contents_known hgenerated
    by_cases hbehind : start.contents.history.length < tools.release.migrationBundle.length
    · exact .inl ⟨h.applied, rfl, hbehind⟩
    · have hcomplete := hknown.complete hgenerated (Nat.le_of_not_lt hbehind)
      refine .inr ⟨hcomplete, fun a ha => ?_, ?_⟩
      · rw [h.applied] at ha
        cases ha
      · simpa [h.applied] using hcomplete.history

/-! Changes that leave the database as it is. -/

theorem Untouched.frame {disk' : Disk Bytes} (h : Untouched tools start disk)
    (hcontents : disk.contents = disk'.contents) (happlied : disk.applied = disk'.applied) :
    Untouched tools start disk' :=
  ⟨happlied ▸ h.applied, hcontents ▸ h.contents, hcontents ▸ h.behind⟩

theorem Migrated.frame {disk' : Disk Bytes} (h : Migrated tools paths built start disk)
    (hcontents : disk.contents = disk'.contents) (happlied : disk.applied = disk'.applied) :
    Migrated tools paths built start disk' :=
  ⟨hcontents ▸ h.complete, happlied ▸ h.safely, happlied ▸ h.ledger⟩

theorem Sound.held (h : Sound tools paths built start disk) (hmarker : disk.marker = some marker) :
    Held tools paths built start marker disk :=
  ⟨h, h.ours marker hmarker, fun huntouched => h.backedUp huntouched marker hmarker⟩

theorem Held.mark (h : Held tools paths built start marker disk) (stage : Stage)
    (lastError : Option String) :
    Held tools paths built start { marker with stage := stage, lastError := lastError } disk :=
  ⟨h.sound, ⟨h.ours.1, h.ours.2, h.ours.3, h.ours.4, h.ours.5⟩, h.backedUp⟩

theorem Held.wrote (h : Held tools paths built start marker disk) :
    Held tools paths built start marker { disk with marker := some marker } where
  sound :=
    { sidecar := h.sound.sidecar
      ours := by
        rintro _ ⟨⟩
        exact h.ours
      backedUp := by
        rintro huntouched _ ⟨⟩
        exact h.backedUp (huntouched.frame rfl rfl)
      phase := h.sound.phase.imp (fun h => h.frame rfl rfl) fun h => h.frame rfl rfl }
  ours := h.ours
  backedUp := fun huntouched => h.backedUp (huntouched.frame rfl rfl)

theorem Prepared.wrote {pending : ℕ} (h : Prepared tools paths built start marker pending disk) :
    Prepared tools paths built start marker pending { disk with marker := some marker } := by
  refine ⟨h.held.wrote, fun hpending => ?_, h.complete⟩
  obtain ⟨huntouched, hrecorded⟩ := h.source hpending
  exact ⟨huntouched.frame rfl rfl, hrecorded⟩

theorem Sound.cleared (h : Sound tools paths built start disk) :
    Sound tools paths built start { disk with marker := none } where
  sidecar := h.sidecar
  ours := by
    intro m hm
    cases hm
  backedUp := by
    intro _ m hm
    cases hm
  phase := h.phase.imp (fun h => h.frame rfl rfl) fun h => h.frame rfl rfl

theorem Held.opened (h : Held tools paths built start marker disk) :
    Held tools paths built start marker { disk with database := some disk.contents } where
  sound :=
    { sidecar := h.sound.sidecar
      ours := h.sound.ours
      backedUp := fun huntouched => h.sound.backedUp (huntouched.frame rfl rfl)
      phase := h.sound.phase.imp (fun h => h.frame rfl rfl) fun h => h.frame rfl rfl }
  ours := h.ours
  backedUp := fun huntouched => h.backedUp (huntouched.frame rfl rfl)

def Disk.publish (disk : Disk Bytes) (result : BackupResult Bytes) : Disk Bytes :=
  { disk with backups := fun id =>
      if id = result.backupId then result.directory else disk.backups id }

theorem BackedUp.published {result : BackupResult Bytes} (h : BackedUp tools paths disk marker)
    (hfree : occupied (disk.backups result.backupId) = false) :
    BackedUp tools paths (disk.publish result) marker := by
  intro backupId hrecorded
  obtain ⟨source, deploymentId, hsource, hdeployment, hverify⟩ := h backupId hrecorded
  refine ⟨source, deploymentId, hsource, hdeployment, ?_⟩
  have hne : backupId ≠ result.backupId := by
    rintro rfl
    rw [(verifyMigrationBackup_found hverify).2] at hfree
    cases hfree
  exact (verifyMigrationBackup_congr (if_neg hne)).trans hverify

theorem Held.published {result : BackupResult Bytes}
    (h : Held tools paths built start marker disk)
    (hfree : occupied (disk.backups result.backupId) = false) :
    Held tools paths built start marker (disk.publish result) where
  sound :=
    { sidecar := h.sound.sidecar
      ours := h.sound.ours
      backedUp := fun huntouched m hm =>
        (h.sound.backedUp (huntouched.frame rfl rfl) m hm).published hfree
      phase := h.sound.phase.imp (fun h => h.frame rfl rfl) fun h => h.frame rfl rfl }
  ours := h.ours
  backedUp := fun huntouched =>
    (h.backedUp (huntouched.frame rfl rfl)).published hfree

/-! The application and the contract. -/

theorem Migrated.held (h : Migrated tools paths built start disk)
    (hsidecar : disk.sidecar = start.sidecar)
    (hmarkers : ∀ m, disk.marker = some m → Ours tools paths m) (hours : Ours tools paths marker) :
    Held tools paths built start marker disk := by
  have hnot : ¬Untouched tools start disk := by
    intro huntouched
    have hbehind := huntouched.behind
    rw [h.complete.length] at hbehind
    exact lt_irrefl _ hbehind
  exact ⟨⟨hsidecar, hmarkers, fun huntouched => absurd huntouched hnot, .inr h⟩, hours,
    fun huntouched => absurd huntouched hnot⟩

theorem Sound.migrated (h : Sound tools paths built start disk)
    (hcomplete : Complete tools.release built disk.contents) :
    Migrated tools paths built start disk := by
  rcases h.phase with huntouched | hmigrated
  · have hbehind := huntouched.behind
    rw [hcomplete.length] at hbehind
    exact absurd hbehind (lt_irrefl _)
  · exact hmigrated

def Disk.recordContract (release : Release) (disk : Disk Bytes) : Disk Bytes :=
  { disk with
    database := some { disk.contents with dbContract := .ok (some (contractRow release)) } }

/-- What is applied to the source makes it complete, under the marker that is durable. -/
theorem Prepared.apply {pending : ℕ} (h : Prepared tools paths built start marker pending disk)
    (hmarker : disk.marker = some marker) (hpending : 0 < pending)
    (hknown : KnownSource tools.release built start.contents) (hruns : RunsPending tools built) :
    Held tools paths built start marker (disk.apply tools) ∧
      Complete tools.release built (disk.apply tools).contents := by
  obtain ⟨huntouched, hrecorded⟩ := h.source hpending
  have hsource : KnownSource tools.release built disk.contents := huntouched.contents ▸ hknown
  have hcomplete : Complete tools.release built (tools.applyMigrations disk.contents) :=
    hruns disk.contents hsource huntouched.behind
  have hsafely : SafelyApplied tools paths
      ⟨disk.marker, disk.backups, disk.contents, tools.applyMigrations disk.contents⟩ := by
    intro hne
    obtain ⟨backupId, hbackupId⟩ := Option.isSome_iff_exists.mp (hrecorded hne)
    obtain ⟨source, deploymentId, hverified, hdeployment, hverify⟩ :=
      h.held.backedUp huntouched backupId hbackupId
    obtain ⟨backup, hbackup, hmatches⟩ := verifyMigrationBackup_ok.mp hverify
    exact ⟨marker, backupId, source, deploymentId, backup, hmarker, h.held.ours.operationType,
      (Option.filter_eq_some_iff.mp hbackupId).1, hverified, hdeployment, hbackup, hmatches⟩
  have hmigrated : Migrated tools paths built start (disk.apply tools) :=
    { complete := hcomplete
      safely := by
        intro a ha
        rw [Disk.apply, huntouched.applied, List.nil_append, List.mem_singleton] at ha
        rw [ha]
        exact hsafely
      ledger := by
        rw [Disk.apply, huntouched.applied, ← huntouched.contents]
        simpa [Applied.added] using hcomplete.added hsource }
  exact ⟨hmigrated.held h.held.sound.sidecar h.held.sound.ours h.held.ours, hcomplete⟩

theorem Held.recordContract (h : Held tools paths built start marker disk)
    (hcomplete : Complete tools.release built disk.contents) :
    Held tools paths built start marker (disk.recordContract tools.release) := by
  have hmigrated := h.sound.migrated hcomplete
  have hrecorded : Migrated tools paths built start (disk.recordContract tools.release) :=
    ⟨hcomplete.withContract, hmigrated.safely, hmigrated.ledger⟩
  exact hrecorded.held h.sound.sidecar h.sound.ours h.ours

end

section
variable {Bytes : Type} {tools : Tools Bytes} {paths : EnvironmentPaths} {built : ℕ → String}
  {world : World Bytes} {start disk : Disk Bytes} {marker : MaintenanceMarker}

theorem Sound.untouched (h : Sound tools paths built start disk)
    (hbehind : disk.contents.history.length < tools.release.migrationBundle.length) :
    Untouched tools start disk := by
  rcases h.phase with huntouched | hmigrated
  · exact huntouched
  · rw [hmigrated.complete.length] at hbehind
    exact absurd hbehind (lt_irrefl _)

theorem Sound.complete (h : Sound tools paths built start disk)
    (hfull : tools.release.migrationBundle.length ≤ disk.contents.history.length) :
    Complete tools.release built disk.contents := by
  rcases h.phase with huntouched | hmigrated
  · exact absurd huntouched.behind (Nat.not_lt.mpr hfull)
  · exact hmigrated.complete

theorem Sound.known (h : Sound tools paths built start disk)
    (hgenerated : Generated tools.release built)
    (hknown : KnownSource tools.release built start.contents) :
    assertKnownHistory tools.release disk.contents = .ok () := by
  rcases h.phase with huntouched | hmigrated
  · rw [huntouched.contents]
    exact hknown.follows.1
  · exact (hmigrated.complete.known hgenerated).2

/-- What is pending is read, and a source with a history that lacks something is verified. -/
theorem Sound.readPending (h : Sound tools paths built start disk)
    (hgenerated : Generated tools.release built)
    (hknown : KnownSource tools.release built start.contents) :
    ∃ source, readPending tools.release disk.contents =
        .ok ⟨tools.release.migrationBundle.length - disk.contents.history.length, source⟩ ∧
      (∀ s, source = some s → verifyKnownSourceDatabase tools.release disk.contents = .ok s ∧
        disk.contents.history.length < tools.release.migrationBundle.length ∧
        disk.contents.history ≠ []) ∧
      (source = none →
        disk.contents.history.length < tools.release.migrationBundle.length →
          disk.contents.history = []) := by
  simp only [Migrate.readPending, h.known hgenerated hknown, ok_bind]
  by_cases hpending : 0 < tools.release.migrationBundle.length - disk.contents.history.length ∧
      0 < disk.contents.history.length
  · have hbehind : disk.contents.history.length < tools.release.migrationBundle.length := by omega
    have hsource : KnownSource tools.release built disk.contents :=
      (h.untouched hbehind).contents ▸ hknown
    obtain ⟨source, hverified⟩ := hsource.verified
    rw [if_pos hpending, hverified]
    refine ⟨some source, rfl, ?_, by rintro ⟨⟩⟩
    rintro _ ⟨⟩
    exact ⟨rfl, hbehind, List.ne_nil_of_length_pos hpending.2⟩
  · rw [if_neg hpending]
    refine ⟨none, rfl, by rintro _ ⟨⟩, fun _ hbehind => ?_⟩
    apply List.eq_nil_of_length_eq_zero
    omega

theorem request_holds {α : Type} {f : Disk Bytes → Except String α}
    {P : α → Disk Bytes → Prop} {E : Failure String → Disk Bytes → Prop}
    (hok : ∀ a, f disk = .ok a → P a disk)
    (hquery : ∀ turn failure, world.query turn = .error failure → E failure disk)
    (herror : ∀ error, f disk = .error error → E (.thrown error) disk) :
    Holds (ask fun turn d => do
      world.query turn
      (f d).mapError .thrown) disk P E := by
  apply holds_ask
  · intro turn a hanswer
    obtain ⟨_, _, hanswer⟩ := bind_ok.mp hanswer
    cases hf : f disk with
    | ok b =>
      rw [hf] at hanswer
      obtain rfl := Except.ok.inj hanswer
      exact hok b hf
    | error error =>
      rw [hf] at hanswer
      cases hanswer
  · intro turn failure hanswer
    rcases bind_error.mp hanswer with hanswer | ⟨_, _, hanswer⟩
    · exact hquery turn failure hanswer
    · cases hf : f disk with
      | ok b =>
        rw [hf] at hanswer
        cases hanswer
      | error error =>
        rw [hf] at hanswer
        obtain rfl := Except.error.inj hanswer
        exact herror error hf

/-- The state that a backup leaves, under a marker that names it. -/
structure Secured (tools : Tools Bytes) (paths : EnvironmentPaths) (built : ℕ → String)
    (start : Disk Bytes) (marker : MaintenanceMarker) (disk : Disk Bytes) : Prop where
  held : Held tools paths built start marker disk
  untouched : Untouched tools start disk
  recorded : (recordedBackup marker).isSome = true

/-- How the steps of a migration end when they fail: under a held marker, and
after the failure was recorded. -/
structure Mode (tools : Tools Bytes) (paths : EnvironmentPaths) (built : ℕ → String)
    (world : World Bytes) (start : Disk Bytes) (backups : String → BackupDirectory Bytes)
    (E : MaintenanceMarker → Failure String → Disk Bytes → Prop)
    (E' : Failure String → Disk Bytes → Prop) : Prop where
  operation : ∀ m d turn failure, Held tools paths built start m d →
    world.operation turn = .doneThen failure ∨ world.operation turn = .undone failure →
      E m failure d
  query : ∀ m d turn failure, Held tools paths built start m d →
    world.query turn = .error failure → E m failure d
  owning : ∀ (α : Type) m (step : Maintain Bytes α) d P, Holds step d P (E m) →
    Holds (owning world m step) d P E'
  backUp : ∀ bootstrapOwnershipAlreadyHeld m d source, Held tools paths built start m d →
    Untouched tools start d → d.marker = some m → d.backups = backups → d.contents.history ≠ [] →
    verifyKnownSourceDatabase tools.release d.contents = .ok source →
    Holds (backUpSource tools world paths bootstrapOwnershipAlreadyHeld m source) d
      (fun backedUp d' => Secured tools paths built start (backedUp.getD m) d') (E m)
  admission : ∀ d turn failure, Sound tools paths built start d →
    world.initializeOwnedEnvironment turn = .error failure ∨
      world.acquireMaintenanceLocks turn = .error failure → E' failure d
  first : ∀ d turn failure, Sound tools paths built start d →
    world.operation turn = .doneThen failure ∨ world.operation turn = .undone failure →
      E' failure d

section
variable {backups : String → BackupDirectory Bytes}
  {E : MaintenanceMarker → Failure String → Disk Bytes → Prop}
  {E' : Failure String → Disk Bytes → Prop}
  (hmode : Mode tools paths built world start backups E E')
  (hgenerated : Generated tools.release built)
  (hknown : KnownSource tools.release built start.contents)
include hmode

theorem act_holds {change : ℕ → Disk Bytes → Disk Bytes}
    (h : Held tools paths built start marker disk)
    (hchange : ∀ turn, Held tools paths built start marker (change turn disk)) :
    Holds (act world.operation change) disk (fun _ d => ∃ turn, d = change turn disk)
      (E marker) := by
  apply holds_act
  · exact fun turn _ => ⟨turn, rfl⟩
  · exact fun turn failure hfails =>
      hmode.operation marker _ turn failure (hchange turn) (.inl hfails)
  · exact fun turn failure hfails => hmode.operation marker _ turn failure h (.inr hfails)

theorem query_holds {α : Type} {f : Contents → Except String α} {a : α}
    (h : Held tools paths built start marker disk) (hf : f disk.contents = .ok a) :
    Holds (query world f) disk (fun b d => b = a ∧ d = disk) (E marker) := by
  apply request_holds
  · intro b hb
    exact ⟨(Except.ok.inj (hf.symm.trans hb)).symm, rfl⟩
  · exact fun turn failure hfails => hmode.query marker disk turn failure h hfails
  · intro error herror
    cases hf.symm.trans herror

theorem clearMaintenanceMarker_holds (h : Held tools paths built start marker disk) :
    Holds (clearMaintenanceMarker world) disk (fun _ d => d = { disk with marker := none })
      (E marker) := by
  have hcleared : Held tools paths built start marker { disk with marker := none } :=
    ⟨h.sound.cleared, h.ours, fun huntouched =>
      h.backedUp (huntouched.frame rfl rfl)⟩
  refine holds_bind (holds_look ?_)
  split
  · refine (act_holds hmode h fun _ => hcleared).mono (fun _ d hd => ?_) fun _ _ => id
    obtain ⟨_, rfl⟩ := hd
    rfl
  · rename_i hnone
    refine holds_pure ?_
    rw [Bool.not_eq_true, Option.isSome_eq_false_iff, Option.isNone_iff_eq_none] at hnone
    rw [← hnone]

include hgenerated

theorem finalizeDatabaseContract_holds (h : Held tools paths built start marker disk)
    (hcomplete : Complete tools.release built disk.contents) :
    Holds (finalizeDatabaseContract world tools.release) disk
      (fun _ d => d = disk.recordContract tools.release) (E marker) := by
  have hrecorded := h.recordContract hcomplete
  have hcomplete' := hcomplete.withContract
  obtain ⟨source, hsource⟩ := hcomplete'.current hgenerated rfl
  obtain ⟨row, hrow⟩ := hcomplete.contractTable
  refine holds_bind ((query_holds hmode h (hcomplete.verify hgenerated true)).mono
    (fun verification d₁ h₁ => ?_) fun _ _ => id)
  obtain ⟨rfl, rfl⟩ := h₁
  refine holds_bind (Holds.mono (P := fun _ d => d = d₁.recordContract tools.release) ?_
    (fun _ d₂ h₂ => ?_) fun _ _ => id)
  · apply holds_perform_of (Q := fun result =>
      result = (.ok (), d₁.recordContract tools.release))
    · intro turn
      simp only [hrow]
      rfl
    · rintro _ _ ⟨⟩
      rfl
    · rintro _ _ ⟨⟩
    · rintro turn failure _ hfails rfl
      exact hmode.operation marker _ turn failure hrecorded (.inl hfails)
    · exact fun turn failure hfails => hmode.operation marker _ turn failure h (.inr hfails)
  · subst h₂
    refine holds_bind ((query_holds hmode hrecorded hsource).mono (fun _ d₃ h₃ => ?_)
      fun _ _ => id)
    exact holds_pure h₃.2

include hknown

/-- The inspection returns what is pending, under a marker that names a verified
backup when something is pending for a source with a history. -/
theorem prepare_holds (h : Held tools paths built start marker disk)
    (hmarker : disk.marker = some marker) (hbackups : disk.backups = backups)
    (bootstrapOwnershipAlreadyHeld : Bool) :
    Holds (prepare tools world paths bootstrapOwnershipAlreadyHeld marker) disk
      (fun r d => Prepared tools paths built start (r.2.getD marker) r.1 d) (E marker) := by
  refine holds_bind (holds_look ?_)
  refine holds_bind ((act_holds hmode h fun _ => h.opened).mono (fun _ d₁ h₁ => ?_) fun _ _ => id)
  obtain ⟨_, rfl⟩ := h₁
  obtain ⟨source, hread, hsome, hnone⟩ := h.opened.sound.readPending hgenerated hknown
  refine holds_bind ((query_holds hmode h.opened hread).mono (fun pending d₂ h₂ => ?_)
    fun _ _ => id)
  obtain ⟨rfl, rfl⟩ := h₂
  cases source with
  | none =>
    refine holds_pure ⟨h.opened, fun hpending => ?_, fun hfull => ?_⟩
    · have hbehind := Nat.lt_of_sub_pos hpending
      exact ⟨h.opened.sound.untouched hbehind, fun hne => absurd (hnone rfl hbehind) hne⟩
    · exact h.opened.sound.complete (Nat.sub_eq_zero_iff_le.mp hfull)
  | some source =>
    obtain ⟨hverified, hbehind, hne⟩ := hsome source rfl
    have huntouched := h.opened.sound.untouched hbehind
    -- a file that was just created has no history
    have hexisted : disk.database.isSome = true := by
      cases hdatabase : disk.database with
      | none =>
        rw [Disk.contents, Disk.contents, hdatabase] at hne
        exact absurd rfl hne
      | some db => rfl
    simp only [hexisted, true_and, if_pos (Nat.sub_pos_of_lt hbehind)]
    refine holds_bind ((hmode.backUp bootstrapOwnershipAlreadyHeld marker _ source h.opened
      huntouched hmarker hbackups hne hverified).mono (fun backedUp d₃ h₃ => ?_) fun _ _ => id)
    refine holds_pure ⟨h₃.held, fun _ => ⟨h₃.untouched, fun _ => h₃.recorded⟩, fun hfull => ?_⟩
    exact absurd hfull (Nat.sub_pos_of_lt hbehind).ne'

omit hgenerated hknown in
theorem recordBackup_holds {pending : ℕ} (backedUp : Option MaintenanceMarker)
    (h : Prepared tools paths built start (backedUp.getD marker) pending disk) :
    Holds (recordBackup world marker backedUp) disk
      (fun m d => Prepared tools paths built start m pending d) E' := by
  cases backedUp with
  | none => exact holds_pure h
  | some backedUp =>
    refine holds_bind ((hmode.owning Unit backedUp (writeMaintenanceMarker world backedUp) disk
      (fun _ d => Prepared tools paths built start backedUp pending d) ?_).mono
      (fun _ _ h => holds_pure h) fun _ _ => id)
    refine (act_holds hmode h.held fun _ => h.held.wrote).mono (fun _ d hd => ?_) fun _ _ => id
    obtain ⟨_, rfl⟩ := hd
    exact h.wrote

omit hgenerated in
theorem applyPending_holds (hruns : RunsPending tools built) {pending : ℕ}
    (h : Prepared tools paths built start marker pending disk)
    (hmarker : disk.marker = some marker) :
    Holds (applyPending tools world pending) disk
      (fun _ d => Held tools paths built start marker d ∧ Complete tools.release built d.contents)
      (E marker) := by
  unfold applyPending
  split
  · rename_i hpending
    have happlied := h.apply hmarker hpending hknown hruns
    refine (act_holds hmode h.held fun _ => happlied.1).mono (fun _ d hd => ?_) fun _ _ => id
    obtain ⟨_, rfl⟩ := hd
    exact happlied
  · rename_i hnone
    exact holds_pure ⟨h.held, h.complete (Nat.eq_zero_of_not_pos hnone)⟩

theorem runMigration_holds (hruns : RunsPending tools built)
    (h : Held tools paths built start marker disk) (hmarker : disk.marker = some marker)
    (hbackups : disk.backups = backups) (bootstrapOwnershipAlreadyHeld : Bool) :
    Holds (runMigration tools world paths bootstrapOwnershipAlreadyHeld marker) disk
      (fun _ d => Finished tools paths built start d) E' := by
  refine holds_bind ((hmode.owning _ marker _ disk _ (prepare_holds hmode hgenerated hknown h
    hmarker hbackups bootstrapOwnershipAlreadyHeld)).mono (fun r d₁ h₁ => ?_) fun _ _ => id)
  obtain ⟨pending, backedUp⟩ := r
  refine holds_bind ((recordBackup_holds hmode backedUp h₁).mono (fun m d₂ h₂ => ?_) fun _ _ => id)
  -- the application, under the marker that says so
  have happlying : Prepared tools paths built start { m with stage := .applying } pending d₂ :=
    ⟨h₂.held.mark .applying m.lastError, h₂.source, h₂.complete⟩
  refine holds_bind ((hmode.owning Unit { m with stage := .applying } _ d₂
    (fun _ d => Held tools paths built start { m with stage := .applying } d ∧
      Complete tools.release built d.contents) ?_).mono (fun _ d₃ h₃ => ?_) fun _ _ => id)
  · refine holds_bind ((act_holds hmode happlying.held fun _ => happlying.held.wrote).mono
      (fun _ d hd => ?_) fun _ _ => id)
    obtain ⟨_, rfl⟩ := hd
    refine holds_bind ((query_holds hmode (f := fun _ => .ok ()) (a := ()) happlying.held.wrote
      rfl).mono (fun _ d hd => ?_) fun _ _ => id)
    rw [hd.2]
    exact applyPending_holds hmode hknown hruns happlying.wrote rfl
  -- the contract, then the end of the marker
  obtain ⟨hheld, hcomplete⟩ := h₃
  have hfinalizing : Held tools paths built start { m with stage := .finalizing } d₃ :=
    hheld.mark .finalizing m.lastError
  refine holds_bind ((hmode.owning Verification { m with stage := .finalizing } _ d₃
    (fun _ d => Finished tools paths built start d) ?_).mono (fun _ _ h => holds_pure h)
    fun _ _ => id)
  refine holds_bind ((act_holds hmode hfinalizing fun _ => hfinalizing.wrote).mono
    (fun _ d hd => ?_) fun _ _ => id)
  obtain ⟨_, rfl⟩ := hd
  refine holds_bind ((finalizeDatabaseContract_holds hmode hgenerated hfinalizing.wrote
    hcomplete).mono (fun verification d hd => ?_) fun _ _ => id)
  subst hd
  have hrecorded := hfinalizing.wrote.recordContract hcomplete
  refine holds_bind ((clearMaintenanceMarker_holds hmode hrecorded).mono (fun _ d hd => ?_)
    fun _ _ => id)
  subst hd
  have hmigrated := hrecorded.sound.migrated hcomplete.withContract
  exact holds_pure ⟨hrecorded.sound.cleared, rfl,
    ⟨hmigrated.complete, hmigrated.safely, hmigrated.ledger⟩, rfl⟩

theorem migrateEnvironment_holds (hruns : RunsPending tools built)
    (h : Sound tools paths built start disk) (hbackups : disk.backups = backups)
    (bootstrapOwnershipAlreadyHeld : Bool) (operationId : String) :
    Holds (migrateEnvironment tools world paths bootstrapOwnershipAlreadyHeld operationId) disk
      (fun _ d => Finished tools paths built start d) E' := by
  refine holds_bind (holds_ask (fun _ _ _ => ?_)
    fun turn failure hfails => hmode.admission disk turn failure h (.inl hfails))
  refine holds_bind (holds_ask (fun _ _ _ => ?_)
    fun turn failure hfails => hmode.admission disk turn failure h (.inr hfails))
  refine holds_bind (holds_look ?_)
  split
  · rename_i marker hmarker
    have hours := h.ours marker hmarker
    refine holds_bind (holds_refuseIf (fun _ => ?_) fun hrefused => ?_)
    · refine holds_bind ((runMigration_holds hmode hgenerated hknown hruns (h.held hmarker) hmarker
        hbackups bootstrapOwnershipAlreadyHeld).mono (fun r d h => ?_) fun _ _ => id)
      exact holds_pure h
    · rcases hrefused with hne | hne | hne | hne | hne
      · exact absurd hours.operationType hne
      · exact absurd hours.environmentId hne
      · exact absurd hours.targetDatabase hne
      · exact absurd hours.expectedSchemaContract hne
      · exact absurd hours.expectedMigrationBundleDigest hne
  · have hheld : Held tools paths built start (migrationMarker paths tools.release operationId)
        disk := by
      refine ⟨h, ⟨rfl, rfl, rfl, rfl, rfl⟩, ?_⟩
      rintro _ _ ⟨⟩
    refine holds_bind (holds_act (fun _ _ => ?_) (fun turn failure hfails => hmode.first _ turn
      failure hheld.wrote.sound (.inl hfails)) fun turn failure hfails => hmode.first _ turn
      failure h (.inr hfails))
    refine holds_bind ((runMigration_holds hmode hgenerated hknown hruns hheld.wrote rfl hbackups
      bootstrapOwnershipAlreadyHeld).mono (fun r d h => ?_) fun _ _ => id)
    exact holds_pure h

end
end

section
variable {Bytes : Type} {tools : Tools Bytes} {paths : EnvironmentPaths} {built : ℕ → String}
  {world : World Bytes} {start disk : Disk Bytes} {marker : MaintenanceMarker}

theorem backUpSource_holds {E : Failure String → Disk Bytes → Prop}
    {source : SourceVerification} (h : Held tools paths built start marker disk)
    (huntouched : Untouched tools start disk)
    (hverified : verifyKnownSourceDatabase tools.release disk.contents = .ok source)
    (bootstrapOwnershipAlreadyHeld : Bool)
    (hquery : ∀ d turn failure, Held tools paths built start marker d →
      world.query turn = .error failure → E failure d)
    (hidentity : ∀ error, sourceDeploymentId disk.contents = .error error →
      E (.thrown error) disk)
    (htake : ∀ deploymentId, sourceDeploymentId disk.contents = .ok deploymentId →
      Holds (takeBackup tools world paths bootstrapOwnershipAlreadyHeld marker.operationId) disk
        (fun backupId d => Held tools paths built start marker d ∧ Untouched tools start d ∧
          ∀ error, verifyMigrationBackup tools paths d.backups backupId source deploymentId
            marker.operationId = .error error → E (.thrown error) d) E) :
    Holds (backUpSource tools world paths bootstrapOwnershipAlreadyHeld marker source) disk
      (fun backedUp d => Secured tools paths built start (backedUp.getD marker) d) E := by
  -- the check of a backup, where it may only fail as `E` allows
  have hcheck : ∀ {backupId deploymentId d}, Held tools paths built start marker d →
      (∀ error, verifyMigrationBackup tools paths d.backups backupId source deploymentId
        marker.operationId = .error error → E (.thrown error) d) →
      Holds (checkBackup tools world paths backupId source deploymentId marker.operationId) d
        (fun _ d' => d' = d ∧ verifyMigrationBackup tools paths d.backups backupId source
          deploymentId marker.operationId = .ok ()) E := by
    intro backupId deploymentId d hheld herror
    exact request_holds (fun _ hok => ⟨rfl, hok⟩)
      (fun turn failure hfails => hquery d turn failure hheld hfails) herror
  apply holds_bind
  apply request_holds
  · intro deploymentId hdeployment
    cases hrecorded : recordedBackup marker with
    | some backupId =>
      obtain ⟨source', deploymentId', hsource', hdeployment', hverify⟩ :=
        h.backedUp huntouched backupId hrecorded
      obtain rfl := Except.ok.inj (hsource'.symm.trans hverified)
      obtain rfl := Except.ok.inj (hdeployment'.symm.trans hdeployment)
      refine holds_bind ((hcheck h fun error herror => ?_).mono (fun _ d hd => ?_) fun _ _ => id)
      · rw [hverify] at herror
        cases herror
      · rw [hd.1]
        exact holds_pure ⟨h, huntouched, by rw [Option.getD_none, hrecorded]; rfl⟩
    | none =>
      refine holds_bind ((htake deploymentId hdeployment).mono (fun backupId d hd => ?_)
        fun _ _ => id)
      obtain ⟨hheld, huntouched', herror⟩ := hd
      refine holds_bind ((hcheck hheld herror).mono (fun _ d' hd' => ?_) fun _ _ => id)
      obtain ⟨rfl, hverify⟩ := hd'
      have hcontents : d'.contents = disk.contents :=
        huntouched'.contents.trans huntouched.contents.symm
      have hname : recordedBackup { marker with stage := .backedUp, backupId := some backupId } =
          some backupId := by
        simp [recordedBackup, (verifyMigrationBackup_found hverify).1]
      refine holds_pure ⟨⟨hheld.sound, ⟨h.ours.1, h.ours.2, h.ours.3, h.ours.4, h.ours.5⟩,
        fun _ name hname' => ?_⟩, huntouched', ?_⟩
      · obtain rfl := Option.some.inj (hname.symm.trans hname')
        exact ⟨source, deploymentId, hcontents ▸ hverified, hcontents ▸ hdeployment, hverify⟩
      · rw [Option.getD_some, hname]
        rfl
  · exact fun turn failure hfails => hquery disk turn failure h hfails
  · exact hidentity

theorem owning_holds {α : Type} {step : Maintain Bytes α} {P : α → Disk Bytes → Prop}
    (h : Holds step disk P fun _ d => Held tools paths built start marker d) :
    Holds (owning world marker step) disk P fun _ d => Sound tools paths built start d := by
  refine holds_attempt (h.mono (fun _ _ => id) fun failure d hd =>
    caught_of hd.sound (fun message => ?_) failure)
  have hfailed := (hd.mark .failed (some message)).wrote.sound
  refine holds_bind (holds_bind (holds_look ?_))
  split
  · exact holds_act_of (fun _ => holds_refuse hfailed) (fun _ _ => hfailed) fun _ => hd.sound
  · exact holds_pure (holds_refuse hd.sound)

theorem takeBackup_holds (h : Held tools paths built start marker disk)
    (huntouched : Untouched tools start disk) (bootstrapOwnershipAlreadyHeld : Bool)
    (operationId : String) :
    Holds (takeBackup tools world paths bootstrapOwnershipAlreadyHeld operationId) disk
      (fun _ d => Held tools paths built start marker d ∧ Untouched tools start d)
      fun _ d => Held tools paths built start marker d := by
  apply holds_perform_of (Q := fun result => Held tools paths built start marker result.2 ∧
    Untouched tools start result.2)
  · intro turn
    split
    · rename_i result _
      unfold publish
      split
      · exact ⟨h, huntouched⟩
      · rename_i hfree
        exact ⟨h.published (Bool.eq_false_iff.mpr hfree),
          huntouched.frame rfl rfl⟩
    · exact ⟨h, huntouched⟩
  · exact fun _ _ hQ => hQ
  · exact fun _ _ hQ => hQ.1
  · exact fun _ _ _ _ hQ => hQ.1
  · exact fun _ _ _ => h

theorem mode_any (backups : String → BackupDirectory Bytes) :
    Mode tools paths built world start backups
      (fun m _ d => Held tools paths built start m d)
      fun _ d => Sound tools paths built start d where
  operation := fun _ _ _ _ h _ => h
  query := fun _ _ _ _ h _ => h
  owning := fun _ _ _ _ _ h => owning_holds h
  backUp := fun bootstrapOwnershipAlreadyHeld m _ _ h huntouched _ _ _ hverified =>
    backUpSource_holds h huntouched hverified bootstrapOwnershipAlreadyHeld
      (fun _ _ _ h _ => h) (fun _ _ => h)
      fun _ _ => (takeBackup_holds h huntouched bootstrapOwnershipAlreadyHeld m.operationId).mono
        (fun _ _ h => ⟨h.1, h.2, fun _ _ => h.1⟩) fun _ _ => id
  admission := fun _ _ _ h _ => h
  first := fun _ _ _ h _ => h

def Reads (tools : Tools Bytes) (paths : EnvironmentPaths) : Prop :=
  ∀ marker, Ours tools paths marker → ∃ text,
    tools.parseMarker (tools.markerText marker) = some text ∧
    text.operationId = marker.operationId ∧ text.operationType = "MIGRATE" ∧
    text.environmentId = marker.environmentId ∧ text.targetDatabase = marker.targetDatabase

/-- Nothing fails: SQLite copies what it reads, and the names of the backups are new. -/
structure Calm (tools : Tools Bytes) (world : World Bytes)
    (backups : String → BackupDirectory Bytes) : Prop where
  operation : ∀ turn, world.operation turn = .done
  initializeOwnedEnvironment : ∀ turn, world.initializeOwnedEnvironment turn = .ok ()
  acquireMaintenanceLocks : ∀ turn, world.acquireMaintenanceLocks turn = .ok ()
  query : ∀ turn, world.query turn = .ok ()
  step : ∀ turn db step, (world.backupHost turn db).step step = .ok ()
  copied : ∀ turn db, ∃ bytes, (world.backupHost turn db).copied = .ok bytes ∧
    tools.openDatabase bytes = .ok db
  fresh : ∀ turn db, occupied (backups (newBackupId (world.backupHost turn db))) = false

theorem sourceDeploymentId_of {db : Contents} {deployment : Option String}
    (h : databaseDeploymentIdentity db = .ok deployment) :
    sourceDeploymentId db = .ok deployment := by
  obtain ⟨rows, hrows, h⟩ := bind_ok.mp h
  simp only [sourceDeploymentId, hrows, ok_bind]
  split at h
  · exact h
  · exact h
  · cases h

theorem backupEnvironment_calm {backups : String → BackupDirectory Bytes}
    (hcalm : Calm tools world backups) (hreads : Reads tools paths)
    (hsha : ∀ text, isSha256 (tools.sha256 text) = true)
    (h : Held tools paths built start marker disk) (hmarker : disk.marker = some marker)
    {db : Contents} (hdatabase : disk.database = some db)
    (hbackup : Backupable tools paths disk.sidecar db)
    {source : SourceVerification}
    (hverified : verifyKnownSourceDatabase tools.release db = .ok source)
    {deploymentId : Option String} (hdeployment : sourceDeploymentId db = .ok deploymentId)
    (bootstrapOwnershipAlreadyHeld : Bool) (turn : ℕ) :
    ∃ result, backupEnvironment tools.toPlatform paths (world.backupHost turn db)
        (disk.files tools) (backupOptions bootstrapOwnershipAlreadyHeld marker.operationId) =
          .ok result ∧ result.backupId = newBackupId (world.backupHost turn db) ∧
      ∀ backups : String → BackupDirectory Bytes, backups result.backupId = result.directory →
        verifyMigrationBackup tools paths backups result.backupId source deploymentId
          marker.operationId = .ok () := by
  obtain ⟨deployment, projection, hidentity, hprojection, hsidecars, hlifecycle⟩ := hbackup.accepted
  obtain ⟨bytes, hcopied, hopen⟩ := hcalm.copied turn db
  obtain ⟨text, hparse, hoperationId, htype, henvironment, htarget⟩ := hreads marker h.ours
  obtain rfl := Except.ok.inj (hdeployment.symm.trans (sourceDeploymentId_of hidentity))
  -- the condition of the source, as the durable marker states it
  have hcondition : ∃ condition, readSourceCondition tools.toPlatform paths
      (some (tools.markerText marker)) (some ⟨marker.operationId, .migrationSafety⟩) =
        .ok (some condition) := by
    have hmatches : ¬(text.operationId ≠ marker.operationId
        ∨ text.operationType ≠ BackupMaintenancePurpose.migrationSafety.expectedType
        ∨ text.environmentId ≠ paths.environmentId
        ∨ text.targetDatabase ≠ paths.databasePath) := by
      rw [henvironment, htarget, h.ours.environmentId, h.ours.targetDatabase, hoperationId, htype]
      simp [BackupMaintenancePurpose.expectedType]
    simp only [readSourceCondition, hparse, failIf_neg _ hmatches, ok_bind]
    exact ⟨_, rfl⟩
  obtain ⟨condition, hcondition⟩ := hcondition
  have hread : readSnapshot tools.toPlatform bytes =
      .ok ⟨bytes, source, deploymentId, projection⟩ := by
    simp only [readSnapshot, hopen, hverified, hidentity, hprojection, ok_bind]
  have hcopies : copySidecars (world.backupHost turn db) disk.sidecar = .ok () := by
    apply forM_sidecars.mpr
    intro s
    split
    · exact hcalm.step turn db _
    · rfl
  have hacquired : ∀ held, unlessHeld held (.ok ()) = .ok () := by
    intro held
    unfold unlessHeld
    split
    · rfl
    · rfl
  have hresult : ∃ result, backupEnvironment tools.toPlatform paths (world.backupHost turn db)
      (disk.files tools) (backupOptions bootstrapOwnershipAlreadyHeld marker.operationId) =
        .ok result := by
    have hpresent : ¬(some (tools.databaseBytes db)).isSome = false := by simp
    simp only [backupEnvironment, backupOptions, Disk.files, hmarker, hdatabase, Option.map_some,
      hcalm.step, hacquired, hcondition, hcopied, hread, hsidecars, hcopies, hlifecycle, ok_bind,
      failIf_neg _ hpresent]
    exact ⟨_, rfl⟩
  obtain ⟨result, hresult⟩ := hresult
  obtain ⟨condition', snapshot, hproduced⟩ := backupEnvironment_ok hresult
  have hbytes : snapshot.bytes = bytes := Except.ok.inj (hproduced.copied.symm.trans hcopied)
  obtain rfl : snapshot = ⟨bytes, source, deploymentId, projection⟩ :=
    Except.ok.inj ((hbytes ▸ hproduced.read).symm.trans hread)
  obtain ⟨_, hmaintenance⟩ := readSourceCondition_ok hproduced.condition
  have hid : result.backupId = newBackupId (world.backupHost turn db) := by rw [hproduced.result]
  refine ⟨result, hresult, hid, fun backups hsame => ?_⟩
  have hverify := hproduced.verified hsha hsame
  have hmatches := hproduced.manifest_matches
  apply verifyMigrationBackup_ok.mpr
  exact ⟨_, verifyMaintenanceBackup_ok.mpr ⟨hverify,
    (matchesMaintenance_iff _ _ _ _ _ _ _).mpr hmaintenance.symm⟩, hmatches.contractVersion,
    hmatches.migrationCount, hmatches.migrationBundleDigest, hmatches.fingerprint,
    hmatches.deploymentId⟩

theorem Disk.database_of_history (h : disk.contents.history ≠ []) :
    disk.database = some disk.contents := by
  cases hdatabase : disk.database with
  | none =>
    rw [Disk.contents, hdatabase] at h
    exact absurd rfl h
  | some db => rw [Disk.contents, hdatabase, Option.getD_some]

theorem takeBackup_calm {backups : String → BackupDirectory Bytes}
    (hcalm : Calm tools world backups) (hreads : Reads tools paths)
    (hsha : ∀ text, isSha256 (tools.sha256 text) = true)
    (h : Held tools paths built start marker disk) (huntouched : Untouched tools start disk)
    (hmarker : disk.marker = some marker) (hbackups : disk.backups = backups)
    (hne : disk.contents.history ≠ [])
    (hbackup : Backupable tools paths disk.sidecar disk.contents)
    {source : SourceVerification}
    (hverified : verifyKnownSourceDatabase tools.release disk.contents = .ok source)
    {deploymentId : Option String}
    (hdeployment : sourceDeploymentId disk.contents = .ok deploymentId)
    (bootstrapOwnershipAlreadyHeld : Bool) :
    Holds (takeBackup tools world paths bootstrapOwnershipAlreadyHeld marker.operationId) disk
      (fun backupId d => Held tools paths built start marker d ∧ Untouched tools start d ∧
        ∀ error, verifyMigrationBackup tools paths d.backups backupId source deploymentId
          marker.operationId ≠ .error error) fun _ _ => False := by
  apply holds_perform_of (Q := fun result => ∃ backupId d, result = (.ok backupId, d) ∧
    Held tools paths built start marker d ∧ Untouched tools start d ∧
      verifyMigrationBackup tools paths d.backups backupId source deploymentId
        marker.operationId = .ok ())
  · intro turn
    obtain ⟨result, hresult, hid, hverify⟩ := backupEnvironment_calm hcalm hreads hsha h hmarker
      (Disk.database_of_history hne) hbackup hverified hdeployment bootstrapOwnershipAlreadyHeld turn
    have hfree : occupied (disk.backups result.backupId) = false := by
      rw [hid, hbackups]
      exact hcalm.fresh turn disk.contents
    have hpublished : publish result disk = (.ok result.backupId, disk.publish result) := by
      rw [publish, hfree]
      rfl
    simp only [hresult, hpublished]
    exact ⟨_, _, rfl, h.published hfree, huntouched.frame rfl rfl, hverify _ (if_pos rfl)⟩
  · rintro backupId d ⟨_, _, ⟨⟩, hheld, huntouched', hverify⟩
    refine ⟨hheld, huntouched', fun error herror => ?_⟩
    rw [hverify] at herror
    cases herror
  · rintro error d ⟨_, _, ⟨⟩, _⟩
  · intro turn failure _ hfails
    rw [hcalm.operation turn] at hfails
    cases hfails
  · intro turn failure hfails
    rw [hcalm.operation turn] at hfails
    cases hfails

theorem mode_calm {backups : String → BackupDirectory Bytes} (hcalm : Calm tools world backups)
    (hreads : Reads tools paths) (hsha : ∀ text, isSha256 (tools.sha256 text) = true)
    (hbackup : start.contents.history ≠ [] →
      Backupable tools paths start.sidecar start.contents) :
    Mode tools paths built world start backups (fun _ _ _ => False) fun _ _ => False := by
  have hoperation : ∀ turn failure, ¬(world.operation turn = .doneThen failure ∨
      world.operation turn = .undone failure) := by
    intro turn failure
    rw [hcalm.operation turn]
    rintro (hfails | hfails)
    · cases hfails
    · cases hfails
  have hquery : ∀ turn failure, world.query turn ≠ .error failure := by
    intro turn failure hfails
    rw [hcalm.query turn] at hfails
    cases hfails
  constructor
  · exact fun _ _ turn failure _ hfails => hoperation turn failure hfails
  · exact fun _ _ turn failure _ hfails => hquery turn failure hfails
  · exact fun _ _ _ _ _ h => holds_attempt (h.mono (fun _ _ => id) fun _ _ hfalse => hfalse.elim)
  · intro bootstrapOwnershipAlreadyHeld m d source h huntouched hmarker hbackups hne hverified
    have hsource : Backupable tools paths d.sidecar d.contents := by
      rw [h.sound.sidecar, huntouched.contents]
      exact hbackup (huntouched.contents ▸ hne)
    refine backUpSource_holds h huntouched hverified bootstrapOwnershipAlreadyHeld
      (fun _ turn failure _ hfails => hquery turn failure hfails) (fun error herror => ?_)
      fun deploymentId hdeployment => takeBackup_calm hcalm hreads hsha h huntouched hmarker
        hbackups hne hsource hverified hdeployment bootstrapOwnershipAlreadyHeld
    obtain ⟨_, _, hidentity, _⟩ := hsource.accepted
    cases (sourceDeploymentId_of hidentity).symm.trans herror
  · intro _ turn failure _ hfails
    rw [hcalm.initializeOwnedEnvironment turn, hcalm.acquireMaintenanceLocks turn] at hfails
    rcases hfails with hfails | hfails
    · cases hfails
    · cases hfails
  · exact fun _ turn failure _ hfails => hoperation turn failure hfails

theorem recoverMigration_holds (hgenerated : Generated tools.release built)
    (hknown : KnownSource tools.release built start.contents)
    (h : Sound tools paths built start disk) (hmarker : disk.marker = some marker) :
    Holds (recoverMigration tools world paths marker) disk
      (fun _ d => Sound tools paths built start d) fun _ d => Sound tools paths built start d := by
  have hmode : Mode tools paths built world start disk.backups _ _ := mode_any disk.backups
  have hheld := h.held hmarker
  refine holds_bind (holds_refuseIf (fun _ => ?_) fun _ => h)
  refine holds_bind (holds_look ?_)
  refine holds_bind (holds_refuseIf (fun _ => ?_) fun _ => h)
  have hcount : readHistoryCount tools.release disk.contents = .ok disk.contents.history.length := by
    rw [readHistoryCount, h.known hgenerated hknown]
    rfl
  refine holds_bind ((query_holds hmode hheld hcount).mono (fun _ d₁ h₁ => ?_)
    fun _ _ hd => hd.sound)
  obtain ⟨rfl, rfl⟩ := h₁
  split
  · exact holds_bind (request_holds (fun _ _ => holds_pure h) (fun _ _ _ => h) fun _ _ => h)
  · rename_i hfull
    have hcomplete := h.complete (Nat.le_of_not_lt hfull)
    refine holds_bind ((finalizeDatabaseContract_holds hmode hgenerated hheld hcomplete).mono
      (fun _ d₂ h₂ => ?_) fun _ _ hd => hd.sound)
    subst h₂
    have hrecorded := hheld.recordContract hcomplete
    refine holds_bind ((clearMaintenanceMarker_holds hmode hrecorded).mono (fun _ d₃ h₃ => ?_)
      fun _ _ hd => hd.sound)
    subst h₃
    exact holds_pure hrecorded.sound.cleared

theorem recoverEnvironment_holds (hgenerated : Generated tools.release built)
    (hknown : KnownSource tools.release built start.contents)
    (h : Sound tools paths built start disk) (complete : Bool) :
    Holds (recoverEnvironment tools world paths complete) disk
      (fun _ d => Sound tools paths built start d) fun _ d => Sound tools paths built start d := by
  refine holds_bind (holds_ask (fun _ _ _ => ?_) fun _ _ _ => h)
  split
  · refine holds_bind (holds_look ?_)
    split
    · exact holds_pure h
    · exact holds_pure h
  · -- no marker is of a reset
    refine holds_bind (holds_bind (holds_look ?_))
    have hother : ∀ m, disk.marker = some m → (m.operationType == .reset) = false := by
      intro m hm
      rw [(h.ours m hm).operationType]
      rfl
    have hreset : (disk.marker.any fun m => m.operationType == .reset) = false := by
      cases hmarker : disk.marker with
      | none => rfl
      | some m => exact hother m hmarker
    rw [if_neg (by simp [hreset])]
    refine holds_pure (holds_bind (holds_ask (fun _ _ _ => ?_) fun _ _ _ => h))
    refine holds_bind (holds_look ?_)
    split
    · exact holds_pure h
    · rename_i m hmarker
      simp only [(h.ours m hmarker).operationType]
      exact recoverMigration_holds hgenerated hknown h hmarker

end

section
variable {Bytes : Type} (tools : Tools Bytes) (paths : EnvironmentPaths)

/-- What migrations and recoveries of one release leave, each cut off anywhere. -/
inductive Reaches (start : Disk Bytes) : Disk Bytes → Prop where
  | start : Reaches start start
  | migrate {disk : Disk Bytes} (h : Reaches start disk) (world : World Bytes)
      (bootstrapOwnershipAlreadyHeld : Bool) (operationId : String) (turn : ℕ) :
      Reaches start (finalState (migrateEnvironment tools world paths bootstrapOwnershipAlreadyHeld
        operationId) ⟨turn, disk⟩).disk
  | recover {disk : Disk Bytes} (h : Reaches start disk) (world : World Bytes) (complete : Bool)
      (turn : ℕ) :
      Reaches start (finalState (recoverEnvironment tools world paths complete) ⟨turn, disk⟩).disk

/-- What a migration is to keep and to reach, wherever the runs before it were cut. -/
structure Resumable (start disk : Disk Bytes) : Prop where
  safely : ∀ a ∈ disk.applied, SafelyApplied tools paths a
  /-- The ledger is what the transactions added to it. -/
  ledger : disk.contents.history = start.contents.history ++ disk.applied.flatMap Applied.added
  /-- They added nothing yet, or the rest of the bundle once, in its order. -/
  once : disk.applied.flatMap Applied.added = [] ∨ disk.applied.flatMap Applied.added =
    rows (tools.release.migrationBundle.drop start.contents.history.length)
  completes : ∀ world bootstrapOwnershipAlreadyHeld operationId,
    Calm tools world disk.backups →
      Holds (migrateEnvironment tools world paths bootstrapOwnershipAlreadyHeld operationId) disk
        (fun _ d => d.marker = none ∧
          d.contents.history = rows tools.release.migrationBundle ∧
          start.contents.history ++ d.applied.flatMap Applied.added =
            rows tools.release.migrationBundle ∧
          d.contents.dbContract = .ok (some (contractRow tools.release)))
        fun _ _ => False

variable {tools paths} {built : ℕ → String} {start disk : Disk Bytes}

theorem Start.contents_backup (h : Start tools paths built start)
    (hne : start.contents.history ≠ []) :
    Backupable tools paths start.sidecar start.contents :=
  h.backup _ (Disk.database_of_history hne) hne

theorem Reaches.sound (h : Reaches tools paths start disk)
    (hgenerated : Generated tools.release built) (hruns : RunsPending tools built)
    (hstart : Start tools paths built start) : Sound tools paths built start disk := by
  have hknown := hstart.contents_known hgenerated
  induction h with
  | start => exact hstart.sound hgenerated
  | @migrate disk _ world bootstrapOwnershipAlreadyHeld operationId turn ih =>
    have hmode : Mode tools paths built world start disk.backups _ _ := mode_any disk.backups
    exact ((migrateEnvironment_holds hmode hgenerated hknown hruns ih rfl
      bootstrapOwnershipAlreadyHeld operationId).mono (fun _ _ h => h.sound)
      fun _ _ => id).final turn
  | recover _ _ complete turn ih =>
    exact (recoverEnvironment_holds hgenerated hknown ih complete).final turn

theorem Sound.ledger (h : Sound tools paths built start disk) :
    disk.contents.history = start.contents.history ++ disk.applied.flatMap Applied.added := by
  rcases h.phase with huntouched | hmigrated
  · rw [huntouched.contents, huntouched.applied, List.flatMap_nil, List.append_nil]
  · rw [hmigrated.ledger, hmigrated.complete.history]

theorem Sound.once (h : Sound tools paths built start disk)
    (hknown : KnownSource tools.release built start.contents) :
    disk.applied.flatMap Applied.added = [] ∨ disk.applied.flatMap Applied.added =
      rows (tools.release.migrationBundle.drop start.contents.history.length) := by
  rcases h.phase with huntouched | hmigrated
  · exact .inl (by rw [huntouched.applied, List.flatMap_nil])
  · right
    exact List.append_cancel_left (hmigrated.ledger.trans hknown.rows_eq)

/-- Migration resumes from wherever it was cut off: each part of the bundle is
applied once, a source with a history only over a verified safety backup, and a
run in which nothing fails completes it. -/
theorem migration_resumable (hgenerated : Generated tools.release built)
    (hruns : RunsPending tools built) (hreads : Reads tools paths)
    (hsha : ∀ text, isSha256 (tools.sha256 text) = true)
    (hstart : Start tools paths built start) (h : Reaches tools paths start disk) :
    Resumable tools paths start disk := by
  have hknown := hstart.contents_known hgenerated
  have hsound := h.sound hgenerated hruns hstart
  refine ⟨?_, hsound.ledger, hsound.once hknown, ?_⟩
  · rcases hsound.phase with huntouched | hmigrated
    · rw [huntouched.applied]
      exact fun a ha => absurd ha List.not_mem_nil
    · exact hmigrated.safely
  · intro world bootstrapOwnershipAlreadyHeld operationId hcalm
    have hmode : Mode tools paths built world start disk.backups _ _ :=
      mode_calm hcalm hreads hsha hstart.contents_backup
    exact (migrateEnvironment_holds hmode hgenerated hknown hruns hsound rfl
      bootstrapOwnershipAlreadyHeld operationId).mono
      (fun _ _ h => ⟨h.marker, h.migrated.complete.history, h.migrated.ledger, h.contract⟩)
      fun _ _ => id

end

def twoMigrations : List MigrationDescriptor :=
  [⟨"0000_initial", 1, "h0"⟩, ⟨"0001_source-record-integrity", 2, "h1"⟩]

def builtSchema (count : ℕ) : String := "schema-" ++ Nat.repr count

def twoRelease : Release where
  migrationBundle := twoMigrations
  schemaContract := ⟨"1", twoMigrations, "bundle-2", builtSchema 2⟩
  bundleDigest := fun bundle => "bundle-" ++ Nat.repr bundle.length
  schemaDigest := fun schema => builtSchema schema.length

def migratedTables : List SchemaRow :=
  [⟨"table", "chain_events", "chain_events", none⟩, ⟨"table", "deployments", "deployments", none⟩]

def knownContract : Except String (Option SourceContract) → Except String (Option SourceContract)
  | .ok row => .ok row
  | .error _ => .ok none

/-- Files are what SQLite reads of them, and a marker's text is its identity. -/
def twoTools : Tools Contents where
  release := twoRelease
  openDatabase := .ok
  fileHash := fun _ => "hash"
  sha256 := fun _ => String.ofList (List.replicate 64 '0')
  parseJson := fun _ => none
  parseMarker := fun text =>
    some ⟨text, "MIGRATE", "PREPARED", "local", "/data/motorcove.sqlite", none⟩
  applyMigrations := fun db =>
    { db with
      history := rows twoMigrations
      schema := migratedTables
      integrity := "ok"
      foreignKeyErrors := 0
      dbContract := knownContract db.dbContract }
  markerText := MaintenanceMarker.operationId
  databaseBytes := id

def migratedPaths : EnvironmentPaths := ⟨"local", "/data/motorcove.sqlite"⟩

def sourceContents : Contents where
  history := [⟨"h0", 1⟩]
  schema := [⟨"table", "deployments", "deployments", none⟩]
  integrity := "ok"
  foreignKeyErrors := 0
  dbContract := .ok (some ⟨"1", "bundle-1", "schema-1"⟩)
  deployments := .ok []
  checkpoint := fun _ => .ok none
  runtimeStatus := fun _ => .ok none

def sourceDisk : Disk Contents where
  database := some sourceContents
  sidecar := fun _ => none
  marker := none
  backups := fun _ => ⟨none, none, fun _ => none⟩
  applied := []

def crashing : World Contents where
  operation := fun turn => if turn = 12 then .undone .crash else .done
  initializeOwnedEnvironment := fun _ => .ok ()
  verifyOwnedEnvironment := fun _ => .ok ()
  acquireBootstrapOwnership := fun _ => .ok ()
  acquireMaintenanceLocks := fun _ => .ok ()
  query := fun _ => .ok ()
  backupHost := fun _ db =>
    { step := fun _ => .ok ()
      copied := .ok db
      startedAt := noon
      createdAt := noon
      randomUUID := readyHost.randomUUID
      sqliteVersion := "3" }
  recoverOther := fun _ => (none, none)

def crashed : Disk Contents :=
  (finalState (migrateEnvironment twoTools crashing migratedPaths false "operation")
    ⟨0, sourceDisk⟩).disk

theorem twoRelease_generated : Generated twoRelease builtSchema where
  nonempty := by rintro ⟨⟩
  migrations := rfl
  digest := rfl
  fingerprint := rfl
  empty := rfl

theorem twoTools_runsPending : RunsPending twoTools builtSchema := by
  intro db _ _
  have htables : ((migratedTables.filter SchemaRow.isApplication).insertionSort
      SchemaRow.le).length = 2 := by
    decide +kernel
  refine ⟨rfl, congrArg builtSchema htables, rfl, rfl, ?_⟩
  · show ∃ row, knownContract db.dbContract = .ok row
    cases db.dbContract with
    | ok row => exact ⟨row, rfl⟩
    | error message => exact ⟨none, rfl⟩

theorem twoTools_reads : Reads twoTools migratedPaths := by
  intro marker hours
  exact ⟨_, rfl, rfl, rfl, hours.environmentId.symm, hours.targetDatabase.symm⟩

theorem sourceDisk_start : Start twoTools migratedPaths builtSchema sourceDisk where
  marker := rfl
  applied := rfl
  known := by
    rintro _ ⟨⟩
    exact ⟨⟨_, rfl⟩, rfl⟩
  backup := by
    rintro _ ⟨⟩ _
    exact ⟨none, none, rfl, rfl, rfl, fun _ => rfl⟩

/-- The second migration was applied, the contract is still that of the first,
and the next migration completes it without applying anything again. -/
theorem migration_resumable_crashed :
    crashed.applied.map (fun a => a.added) = [[⟨"h1", 2⟩]] ∧
      crashed.marker.map (fun m => (m.stage, m.backupId.isSome)) = some (.applying, true) ∧
      Resumable twoTools migratedPaths sourceDisk crashed := by
  refine ⟨by decide +kernel, by decide +kernel, ?_⟩
  exact migration_resumable twoRelease_generated twoTools_runsPending twoTools_reads
    textPlatform_sha256 sourceDisk_start (.migrate .start crashing false "operation" 0)

end MotorCove.Maintenance.Migrate
