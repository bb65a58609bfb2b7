import MotorCove.Maintenance.Backup

/-!
# Verifying a backup

The verifier opens the snapshot again and compares every part of the manifest
with it. What it accepts is stated once, condition by condition; the producer
meets each of them, and what a manifest says in an accepted backup is what the
snapshot says.
-/

set_option autoImplicit false

namespace MotorCove.Maintenance
open MotorCove.Fallible MotorCove.Text

section
variable {Bytes : Type} (platform : Platform Bytes) (paths : EnvironmentPaths)

/-- `/^[0-9TZ-]+-[0-9a-f]{8}$/`. -/
def isBackupId (text : String) : Bool :=
  let start := text.toList.take (text.toList.length - 9)
  let rest := text.toList.drop (text.toList.length - 9)
  start != [] && (start.all fun c => c.isDigit || c == 'T' || c == 'Z' || c == '-') &&
    rest.head? == some '-' && rest.tail.length == 8 && rest.tail.all isHexDigit

/-- `/^[0-9a-f]{64}$/`. -/
def isSha256 (text : String) : Bool := text.toList.length == 64 && text.toList.all isHexDigit

/-- A missing state is that of a manifest that names a deployment. -/
def statedDeploymentState (manifest : Json) : Option Json :=
  match manifest.get "deploymentState" with
  | some .null => if ((manifest.get "deploymentId").bind Json.str?).isSome then
      some (.str "DEPLOYED") else none
  | none => if ((manifest.get "deploymentId").bind Json.str?).isSome then
      some (.str "DEPLOYED") else none
  | some stated => some stated

def checkDeployment (manifest : Json) (deployment : BackupDeploymentIdentity) :
    Except String Unit :=
  failIf (strictEq (manifest.get "formatVersion") (.num 3) = false
    ∨ strictEq (statedDeploymentState manifest) (.str (deploymentState deployment)) = false
    ∨ strictEq (manifest.get "deploymentId") (nullable deployment) = false)
    "BACKUP_INVALID: deployment identity"

def sourceReady (manifest : Json) : Bool :=
  strictEq (getOptional (manifest.get "sourceCondition") "state") (.str "READY") &&
    strictEq (manifest.get "restorePolicy") (.str "STANDARD")

def isText (v : Option Json) : Bool := (v.bind Json.str?).isSome

def maintenanceEvidence (manifest : Json) : Bool :=
  let condition := getOptional (manifest.get "sourceCondition")
  strictEq (condition "state") (.str "MAINTENANCE_INCOMPLETE") &&
    strictEq (manifest.get "restorePolicy") (.str "EVIDENCE_ONLY") &&
    isText (condition "operationId") && isText (condition "operationType") &&
    isText (condition "stage") &&
    ((condition "markerSha256").bind Json.str?).any isSha256 &&
    (strictEq (condition "purpose") (.str "MIGRATION_SAFETY") ||
      strictEq (condition "purpose") (.str "SOURCE_REFRESH_ARCHIVE")) &&
    (strictEq (condition "projectionPhase") .null ||
      strictEq (condition "projectionPhase") (.str "PREPARING") ||
      strictEq (condition "projectionPhase") (.str "CATCHING_UP")) &&
    (strictEq (condition "purpose") (.str "MIGRATION_SAFETY") &&
        strictEq (condition "operationType") (.str "MIGRATE") ||
      strictEq (condition "purpose") (.str "SOURCE_REFRESH_ARCHIVE") &&
        strictEq (condition "operationType") (.str "REINDEX_PROJECTION"))

/-- `evidence[name]?.present`. -/
def present (evidence : Json) (s : Sidecar) : Option Json :=
  getOptional (evidence.get s.name) "present"

def checkSidecar (evidence : Json) (files : Sidecar → Option Bytes) (s : Sidecar) :
    Except String Unit :=
  failIf (strictEq (present evidence s) (.bool (files s).isSome) = false
    ∨ (files s).any (fun bytes => !strictEq (getOptional (evidence.get s.name) "sha256")
        (.str (platform.fileHash bytes))) = true)
    ("BACKUP_INVALID: sidecar " ++ s.file)

/-- Two values of which each is a primitive, compared by `!==`. -/
def differ (v w : Option Json) : Prop := v.bind Json.primitive? ≠ w.bind Json.primitive?

instance (v w : Option Json) : Decidable (differ v w) :=
  inferInstanceAs (Decidable (v.bind Json.primitive? ≠ w.bind Json.primitive?))

def checkLifecycle (manifest evidence : Json) (deployment : BackupDeploymentIdentity)
    (files : Sidecar → Option Bytes) : Except String Unit :=
  match deployment with
  | none => failIf ((evidence.values.any fun entry =>
      strictEq (entry.get "present") (.bool true)) = true)
      "BACKUP_INVALID: predeployment sidecar state"
  | some deploymentId => do
    failIf (strictEq (present evidence .deployment) (.bool true) = false)
      "BACKUP_INVALID: deployment sidecar required"
    failIf (differ (present evidence .seedJournal) (present evidence .bootstrapReceipt))
      "BACKUP_INVALID: bootstrap lifecycle incomplete"
    failIf (strictEq (manifest.get "restorePolicy") (.str "STANDARD") = true ∧
      strictEq (present evidence .bootstrapReceipt) (.bool true) = false)
      "BACKUP_INVALID: bootstrap lifecycle incomplete"
    if strictEq (present evidence .bootstrapReceipt) (.bool true) = true then
      checkReceipt platform paths (files .bootstrapReceipt) deploymentId
    else .ok ()

def checkDeploymentSidecar (deployment : BackupDeploymentIdentity)
    (files : Sidecar → Option Bytes) : Except String Unit :=
  match files .deployment with
  | none => .ok ()
  | some bytes => do
    let sidecarId ← deploymentSidecarId platform bytes
    failIf (some sidecarId ≠ deployment) "BACKUP_INVALID: sidecar deployment.json"

def checkSchema (manifest : Json) (verification : SourceVerification) : Except String Unit :=
  failIf (strictEq (manifest.get "schemaContractVersion")
      (nullable verification.contractVersion) = false
    ∨ strictEq (manifest.get "migrationCount") (.num verification.historyCount) = false
    ∨ strictEq (manifest.get "migrationBundleDigest")
      (.str verification.migrationBundleDigest) = false
    ∨ strictEq (manifest.get "schemaFingerprint") (.str verification.fingerprint) = false)
    "BACKUP_INVALID: source schema evidence"

structure VerifiedBackup (Bytes : Type) where
  database : Bytes
  manifest : Json

/-- The checks of a manifest against the directory it is in. -/
def checkBackup (bytes : Bytes) (manifest : Json) (files : Sidecar → Option Bytes) :
    Except String Unit := do
  failIf (strictEq (manifest.get "environmentId") (.str paths.environmentId) = false
    ∨ strictEq (manifest.get "databaseSha256") (.str (platform.fileHash bytes)) = false)
    "BACKUP_INVALID: identity or checksum"
  let snapshot ← readSnapshot platform bytes
  checkDeployment manifest snapshot.deployment
  failIf (sourceReady manifest = false ∧ maintenanceEvidence manifest = false)
    "BACKUP_INVALID: source condition"
  failIf (isDeepStrictEqual (manifest.get "projectionEvidence") snapshot.projection = false)
    "BACKUP_INVALID: projection evidence"
  match manifest.get "sidecars" with
  | none => .error "BACKUP_INVALID: sidecar evidence"
  | some evidence => do
    failIf (evidence.isObject = false) "BACKUP_INVALID: sidecar evidence"
    sidecars.forM fun s => checkSidecar platform evidence files s
    checkLifecycle platform paths manifest evidence snapshot.deployment files
    checkDeploymentSidecar platform snapshot.deployment files
    checkSchema manifest snapshot.verification

/-- The manifest as the verifier returns it, with its deployment state stated. -/
def withDeploymentState (manifest : Json) : Json :=
  match statedDeploymentState manifest with
  | some state => manifest.set "deploymentState" state
  | none => manifest

def verifyBackup (backups : String → BackupDirectory Bytes) (backupId : String) :
    Except String (VerifiedBackup Bytes) := do
  failIf (isBackupId backupId = false) "BACKUP_INVALID: invalid id"
  match (backups backupId).database, (backups backupId).manifest with
  | some bytes, some text =>
    match text with
    | none => .error "Unexpected token in JSON"
    | some .null => .error "Cannot read properties of null (reading 'environmentId')"
    | some manifest => do
      checkBackup platform paths bytes manifest (backups backupId).sidecar
      .ok ⟨bytes, withDeploymentState manifest⟩
  | _, _ => .error "BACKUP_INVALID: incomplete"

def matchesMaintenance (manifest : Json) (maintenance : BackupMaintenance) : Bool :=
  let condition := getOptional (manifest.get "sourceCondition")
  strictEq (manifest.get "restorePolicy") (.str "EVIDENCE_ONLY") &&
    strictEq (condition "state") (.str "MAINTENANCE_INCOMPLETE") &&
    strictEq (condition "operationId") (.str maintenance.operationId) &&
    strictEq (condition "purpose") (.str maintenance.purpose.text)

def verifyMaintenanceBackup (backups : String → BackupDirectory Bytes) (backupId : String)
    (maintenance : BackupMaintenance) : Except String (VerifiedBackup Bytes) := do
  let backup ← verifyBackup platform paths backups backupId
  failIf (matchesMaintenance backup.manifest maintenance = false)
    "BACKUP_MAINTENANCE_CONTEXT_MISMATCH"
  .ok backup

end

section
variable {Bytes : Type} {platform : Platform Bytes} {paths : EnvironmentPaths}

/-- The manifest says of the environment, the deployment, the schema and the
projection what the snapshot says. -/
structure Matches (paths : EnvironmentPaths) (snapshot : Snapshot Bytes) (manifest : Json) :
    Prop where
  environmentId : manifest.get "environmentId" = some (.str paths.environmentId)
  deploymentState : statedDeploymentState manifest =
    some (.str (deploymentState snapshot.deployment))
  deploymentId : manifest.get "deploymentId" = Json.ofPrimitive (nullable snapshot.deployment)
  contractVersion : manifest.get "schemaContractVersion" =
    Json.ofPrimitive (nullable snapshot.verification.contractVersion)
  migrationCount : manifest.get "migrationCount" = some (.num snapshot.verification.historyCount)
  migrationBundleDigest : manifest.get "migrationBundleDigest" =
    some (.str snapshot.verification.migrationBundleDigest)
  fingerprint : manifest.get "schemaFingerprint" = some (.str snapshot.verification.fingerprint)
  projection : isDeepStrictEqual (manifest.get "projectionEvidence") snapshot.projection = true

structure Hashed (platform : Platform Bytes) (bytes : Bytes) (manifest evidence : Json)
    (files : Sidecar → Option Bytes) : Prop where
  database : manifest.get "databaseSha256" = some (.str (platform.fileHash bytes))
  sidecars : manifest.get "sidecars" = some evidence
  present : ∀ s, present evidence s = some (.bool (files s).isSome)
  sha256 : ∀ s bytes, files s = some bytes →
    getOptional (evidence.get s.name) "sha256" = some (.str (platform.fileHash bytes))

theorem strictEq_false {v : Option Json} {p : Primitive} :
    strictEq v p = false ↔ v ≠ Json.ofPrimitive p := by
  rw [← Bool.not_eq_true, strictEq_iff]

theorem forM_sidecars {f : Sidecar → Except String Unit} :
    sidecars.forM f = .ok () ↔ ∀ s, f s = .ok () := by
  have hsteps : sidecars.forM f =
      (f .deployment >>= fun _ => f .bootstrapReceipt >>= fun _ => f .seedJournal >>= fun _ =>
        .ok ()) := rfl
  simp only [hsteps, bind_ok]
  constructor
  · rintro ⟨_, hdeployment, _, hreceipt, _, hjournal, _⟩ s
    cases s
    · exact hdeployment
    · exact hreceipt
    · exact hjournal
  · intro h
    exact ⟨_, h _, _, h _, _, h _, trivial⟩

theorem checkSidecar_ok {evidence : Json} {files : Sidecar → Option Bytes} {s : Sidecar} :
    checkSidecar platform evidence files s = .ok () ↔
      present evidence s = some (.bool (files s).isSome) ∧ ∀ bytes, files s = some bytes →
        getOptional (evidence.get s.name) "sha256" = some (.str (platform.fileHash bytes)) := by
  simp only [checkSidecar, failIf_ok, not_or, Bool.not_eq_false, strictEq_iff]
  apply and_congr Iff.rfl
  cases files s with
  | none => simp
  | some bytes => simp [strictEq_false, Json.ofPrimitive]

theorem checkDeployment_ok {manifest : Json} {deployment : BackupDeploymentIdentity} :
    checkDeployment manifest deployment = .ok () ↔
      manifest.get "formatVersion" = some (.num 3) ∧
      statedDeploymentState manifest = some (.str (deploymentState deployment)) ∧
      manifest.get "deploymentId" = Json.ofPrimitive (nullable deployment) := by
  simp only [checkDeployment, failIf_ok, not_or, Bool.not_eq_false, strictEq_iff]
  exact Iff.rfl

theorem checkSchema_ok {manifest : Json} {verification : SourceVerification} :
    checkSchema manifest verification = .ok () ↔
      manifest.get "schemaContractVersion" =
        Json.ofPrimitive (nullable verification.contractVersion) ∧
      manifest.get "migrationCount" = some (.num verification.historyCount) ∧
      manifest.get "migrationBundleDigest" = some (.str verification.migrationBundleDigest) ∧
      manifest.get "schemaFingerprint" = some (.str verification.fingerprint) := by
  simp only [checkSchema, failIf_ok, not_or, Bool.not_eq_false, strictEq_iff]
  exact Iff.rfl

theorem checkBackup_ok {bytes : Bytes} {manifest : Json} {files : Sidecar → Option Bytes} :
    checkBackup platform paths bytes manifest files = .ok () ↔
      ∃ snapshot evidence, readSnapshot platform bytes = .ok snapshot ∧
        Matches paths snapshot manifest ∧ Hashed platform bytes manifest evidence files ∧
        manifest.get "formatVersion" = some (.num 3) ∧
        (sourceReady manifest = true ∨ maintenanceEvidence manifest = true) ∧
        evidence.isObject = true ∧
        checkLifecycle platform paths manifest evidence snapshot.deployment files = .ok () ∧
        checkDeploymentSidecar platform snapshot.deployment files = .ok () := by
  simp only [checkBackup, bind_ok, failIf_ok, exists_const, not_or, Bool.not_eq_false,
    strictEq_iff]
  constructor
  · rintro ⟨⟨henvironment, hdatabase⟩, snapshot, hsnapshot, _, hdeployment, hsource, hprojection,
      hrest⟩
    obtain ⟨hformat, hstate, hid⟩ := checkDeployment_ok.mp hdeployment
    split at hrest
    · cases hrest
    · rename_i evidence hevidence
      simp only [failIf_ok, bind_ok, exists_const, Bool.not_eq_false] at hrest
      obtain ⟨hobject, _, hsidecars, _, hlifecycle, _, hsidecar, hschema⟩ := hrest
      have hsidecars := forM_sidecars.mp hsidecars
      obtain ⟨hversion, hcount, hdigest, hfingerprint⟩ := checkSchema_ok.mp hschema
      refine ⟨snapshot, evidence, hsnapshot, ?_, ?_, hformat, ?_, hobject, hlifecycle, hsidecar⟩
      · exact ⟨henvironment, hstate, hid, hversion, hcount, hdigest, hfingerprint, hprojection⟩
      · exact ⟨hdatabase, hevidence, fun s => (checkSidecar_ok.mp (hsidecars s)).1,
          fun s => (checkSidecar_ok.mp (hsidecars s)).2⟩
      · simpa only [not_and_or, Bool.not_eq_false] using hsource
  · rintro ⟨snapshot, evidence, hsnapshot, hmatches, hhashed, hformat, hsource, hobject,
      hlifecycle, hsidecar⟩
    refine ⟨⟨hmatches.environmentId, hhashed.database⟩, snapshot, hsnapshot, (), ?_, ?_,
      hmatches.projection, ?_⟩
    · exact checkDeployment_ok.mpr ⟨hformat, hmatches.deploymentState, hmatches.deploymentId⟩
    · simpa only [not_and_or, Bool.not_eq_false] using hsource
    · rw [hhashed.sidecars]
      simp only [failIf_ok, bind_ok, exists_const, Bool.not_eq_false]
      refine ⟨hobject, (), ?_, (), hlifecycle, (), hsidecar, ?_⟩
      · exact forM_sidecars.mpr fun s => checkSidecar_ok.mpr ⟨hhashed.present s, hhashed.sha256 s⟩
      · exact checkSchema_ok.mpr ⟨hmatches.contractVersion, hmatches.migrationCount,
          hmatches.migrationBundleDigest, hmatches.fingerprint⟩

theorem Hashed.database_same (hinj : Function.Injective platform.fileHash) {bytes bytes' : Bytes}
    {manifest manifest' evidence evidence' : Json} {files files' : Sidecar → Option Bytes}
    (h : Hashed platform bytes manifest evidence files)
    (h' : Hashed platform bytes' manifest' evidence' files')
    (hsame : manifest'.get "databaseSha256" = manifest.get "databaseSha256") : bytes' = bytes := by
  have hhash := (h'.database.symm.trans hsame).trans h.database
  simp only [Option.some.injEq, Json.str.injEq] at hhash
  exact hinj hhash

theorem Hashed.sidecars_same (hinj : Function.Injective platform.fileHash) {bytes bytes' : Bytes}
    {manifest manifest' evidence evidence' : Json} {files files' : Sidecar → Option Bytes}
    (h : Hashed platform bytes manifest evidence files)
    (h' : Hashed platform bytes' manifest' evidence' files')
    (hsame : manifest'.get "sidecars" = manifest.get "sidecars") : files' = files := by
  have hevidence : evidence' = evidence :=
    Option.some.inj ((h'.sidecars.symm.trans hsame).trans h.sidecars)
  subst hevidence
  funext s
  have hpresent := (h'.present s).symm.trans (h.present s)
  simp only [Option.some.injEq, Json.bool.injEq] at hpresent
  cases hold : files s with
  | none =>
    rw [hold] at hpresent
    exact Option.isNone_iff_eq_none.mp (Option.isSome_eq_false_iff.mp hpresent)
  | some old =>
    rw [hold] at hpresent
    obtain ⟨new, hnew⟩ := Option.isSome_iff_exists.mp hpresent
    have hhash := (h'.sha256 s new hnew).symm.trans (h.sha256 s old hold)
    simp only [Option.some.injEq, Json.str.injEq] at hhash
    rw [hnew, hinj hhash]

theorem withDeploymentState_get {manifest : Json} {name : String} (h : name ≠ "deploymentState") :
    (withDeploymentState manifest).get name = manifest.get name := by
  unfold withDeploymentState
  split
  · exact Json.get_set_of_ne h
  · rfl

theorem statedDeploymentState_some {manifest state : Json}
    (h : statedDeploymentState manifest = some state) :
    state ≠ .null ∧ ∃ fields, manifest = .obj fields := by
  have hdefault : (if ((manifest.get "deploymentId").bind Json.str?).isSome then
      some (Json.str "DEPLOYED") else none) = some state →
      state ≠ .null ∧ ∃ fields, manifest = .obj fields := by
    intro h
    split at h
    · obtain rfl := Option.some.inj h
      refine ⟨nofun, ?_⟩
      cases hid : manifest.get "deploymentId" with
      | none => simp [hid] at *
      | some id => exact Json.obj_of_get hid
    · cases h
  unfold statedDeploymentState at h
  split at h
  · exact hdefault h
  · exact hdefault h
  · rename_i hnull hget
    obtain rfl := Option.some.inj h
    exact ⟨hnull, Json.obj_of_get hget⟩

theorem statedDeploymentState_with (manifest : Json) :
    statedDeploymentState (withDeploymentState manifest) = statedDeploymentState manifest := by
  cases hstate : statedDeploymentState manifest with
  | none => simp only [withDeploymentState, hstate]
  | some state =>
    obtain ⟨hnull, hobject⟩ := statedDeploymentState_some hstate
    have hget : (withDeploymentState manifest).get "deploymentState" = some state := by
      simp only [withDeploymentState, hstate, Json.get_set_self hobject]
    unfold statedDeploymentState
    rw [hget]
    split
    · rename_i hsame
      exact absurd (Option.some.inj hsame) hnull
    · rename_i hsame
      cases hsame
    · rename_i hsame
      exact hsame.symm

theorem Matches.stated {snapshot : Snapshot Bytes} {manifest : Json}
    (h : Matches paths snapshot manifest) :
    Matches paths snapshot (withDeploymentState manifest) where
  environmentId := (withDeploymentState_get (by decide)).trans h.environmentId
  deploymentState := (statedDeploymentState_with manifest).trans h.deploymentState
  deploymentId := (withDeploymentState_get (by decide)).trans h.deploymentId
  contractVersion := (withDeploymentState_get (by decide)).trans h.contractVersion
  migrationCount := (withDeploymentState_get (by decide)).trans h.migrationCount
  migrationBundleDigest := (withDeploymentState_get (by decide)).trans h.migrationBundleDigest
  fingerprint := (withDeploymentState_get (by decide)).trans h.fingerprint
  projection := by
    rw [withDeploymentState_get (by decide)]
    exact h.projection

theorem verifyBackup_ok {backups : String → BackupDirectory Bytes} {backupId : String}
    {backup : VerifiedBackup Bytes} :
    verifyBackup platform paths backups backupId = .ok backup ↔
      isBackupId backupId = true ∧ (backups backupId).database = some backup.database ∧
        ∃ manifest, (backups backupId).manifest = some (some manifest) ∧ manifest ≠ .null ∧
          checkBackup platform paths backup.database manifest (backups backupId).sidecar =
            .ok () ∧
          withDeploymentState manifest = backup.manifest := by
  simp only [verifyBackup, failIf_bind_ok, Bool.not_eq_false]
  apply and_congr Iff.rfl
  obtain ⟨bytes, stated⟩ := backup
  split
  · rename_i bytes' text hbytes htext
    rw [hbytes, htext]
    split
    · simp
    · simp only [reduceCtorEq, Option.some.injEq, false_iff, not_and, not_exists]
      rintro _ _ rfl hne
      exact absurd rfl hne
    · rename_i manifest hne
      simp only [bind_ok, Except.ok.injEq, VerifiedBackup.mk.injEq, Option.some.injEq]
      constructor
      · rintro ⟨_, hcheck, rfl, rfl⟩
        exact ⟨rfl, manifest, rfl, hne, hcheck, rfl⟩
      · rintro ⟨rfl, _, rfl, _, hcheck, rfl⟩
        exact ⟨(), hcheck, rfl, rfl⟩
  · rename_i hmissing
    simp only [reduceCtorEq, false_iff]
    rintro ⟨hbytes, _, htext, _⟩
    exact hmissing _ _ hbytes htext

theorem verifyMaintenanceBackup_ok {backups : String → BackupDirectory Bytes} {backupId : String}
    {maintenance : BackupMaintenance} {backup : VerifiedBackup Bytes} :
    verifyMaintenanceBackup platform paths backups backupId maintenance = .ok backup ↔
      verifyBackup platform paths backups backupId = .ok backup ∧
        matchesMaintenance backup.manifest maintenance = true := by
  simp only [verifyMaintenanceBackup, bind_ok, failIf_ok, exists_const, Except.ok.injEq,
    Bool.not_eq_false]
  constructor
  · rintro ⟨_, hverify, hmatches, rfl⟩
    exact ⟨hverify, hmatches⟩
  · rintro ⟨hverify, hmatches⟩
    exact ⟨backup, hverify, hmatches, rfl⟩

variable {host : BackupHost Bytes} {env : EnvironmentFiles Bytes}
  {options : BackupEnvironmentOptions} {result : BackupResult Bytes}

structure Produced (platform : Platform Bytes) (paths : EnvironmentPaths) (host : BackupHost Bytes)
    (env : EnvironmentFiles Bytes) (options : BackupEnvironmentOptions)
    (sourceCondition : BackupSourceCondition) (snapshot : Snapshot Bytes)
    (result : BackupResult Bytes) : Prop where
  condition : readSourceCondition platform paths env.marker options.maintenance =
    .ok sourceCondition
  copied : host.copied = .ok snapshot.bytes
  read : readSnapshot platform snapshot.bytes = .ok snapshot
  sidecars : checkSourceSidecars platform snapshot.deployment env.sidecar = .ok ()
  lifecycle : checkSourceLifecycle platform paths snapshot.deployment sourceCondition env.sidecar =
    .ok ()
  result : result = ⟨newBackupId host, some snapshot.bytes,
    some (some (backupManifest platform paths host options sourceCondition snapshot env.sidecar)),
    env.sidecar⟩

theorem readSnapshot_ok {bytes : Bytes} {snapshot : Snapshot Bytes}
    (h : readSnapshot platform bytes = .ok snapshot) : snapshot.bytes = bytes ∧ ∃ db,
      platform.openDatabase bytes = .ok db ∧
      verifyKnownSourceDatabase platform.release db = .ok snapshot.verification ∧
      databaseDeploymentIdentity db = .ok snapshot.deployment ∧
      projectionEvidence db snapshot.deployment = .ok snapshot.projection := by
  simp only [readSnapshot, bind_ok, Except.ok.injEq] at h
  obtain ⟨db, hopen, verification, hverification, deployment, hdeployment, projection,
    hprojection, rfl⟩ := h
  exact ⟨rfl, db, hopen, hverification, hdeployment, hprojection⟩

theorem backupEnvironment_ok
    (h : backupEnvironment platform paths host env options = .ok result) :
    ∃ sourceCondition snapshot,
      Produced platform paths host env options sourceCondition snapshot result := by
  simp only [backupEnvironment, bind_ok, failIf_ok, exists_const, Except.ok.injEq] at h
  obtain ⟨_, _, _, _, _, _, _, sourceCondition, hcondition, _, _, bytes, hcopied, snapshot, hsnapshot,
    _, hsidecars, _, _, _, hlifecycle, _, _, _, _, _, _, hresult⟩ := h
  obtain rfl := (readSnapshot_ok hsnapshot).1
  exact ⟨sourceCondition, snapshot, hcondition, hcopied, hsnapshot, hsidecars, hlifecycle,
    hresult.symm⟩

theorem nullable_json (text : Option String) :
    some (Json.nullable text) = Json.ofPrimitive (nullable text) := by
  cases text with
  | none => rfl
  | some s => rfl

theorem nullable_defined (text : Option String) : nullable text ≠ .undefined := by
  cases text with
  | none => decide
  | some s => simp [nullable]

theorem projectionEvidence_isRecord {db : Contents} {identity : BackupDeploymentIdentity}
    {record : ProjectionEvidence} (h : projectionEvidence db identity = .ok (some record)) :
    IsRecord record := by
  cases identity with
  | none => cases h
  | some deploymentId =>
    simp only [projectionEvidence, bind_ok] at h
    obtain ⟨checkpoint, _, runtime, _, h⟩ := h
    split at h
    · obtain rfl := Option.some.inj (Except.ok.inj h)
      exact ⟨by simp, by simp⟩
    · obtain rfl := Option.some.inj (Except.ok.inj h)
      exact ⟨by simp, by simp [nullable_defined]⟩
    · cases h

def sidecarsJson (platform : Platform Bytes) (files : Sidecar → Option Bytes) : Json :=
  .obj (sidecars.map fun s => (s.name, sidecarEvidence platform (files s)))

theorem sidecarsJson_get (files : Sidecar → Option Bytes) (s : Sidecar) :
    (sidecarsJson platform files).get s.name = some (sidecarEvidence platform (files s)) := by
  cases s <;> simp [sidecarsJson, sidecars, Json.get, Sidecar.name]

theorem present_sidecarsJson (files : Sidecar → Option Bytes) (s : Sidecar) :
    present (sidecarsJson platform files) s = some (.bool (files s).isSome) := by
  rw [present, sidecarsJson_get]
  cases files s <;> simp [getOptional, sidecarEvidence, Json.get]

variable {sourceCondition : BackupSourceCondition} {snapshot : Snapshot Bytes}
  {files : Sidecar → Option Bytes}

theorem backupManifest_hashed : Hashed platform snapshot.bytes
    (backupManifest platform paths host options sourceCondition snapshot files)
    (sidecarsJson platform files) files where
  database := by simp [backupManifest, Json.get]
  sidecars := by simp [backupManifest, Json.get, sidecarsJson]
  present := present_sidecarsJson files
  sha256 := by
    intro s bytes hfile
    rw [sidecarsJson_get, hfile]
    simp [getOptional, sidecarEvidence, Json.get]

theorem backupManifest_matches (hread : readSnapshot platform snapshot.bytes = .ok snapshot) :
    Matches paths snapshot
      (backupManifest platform paths host options sourceCondition snapshot files) where
  environmentId := by simp [backupManifest, Json.get]
  deploymentState := by simp [statedDeploymentState, backupManifest, Json.get]
  deploymentId := by
    rw [← nullable_json]
    simp [backupManifest, Json.get]
  contractVersion := by
    rw [← nullable_json]
    simp [backupManifest, Json.get]
  migrationCount := by simp [backupManifest, Json.get]
  migrationBundleDigest := by simp [backupManifest, Json.get]
  fingerprint := by simp [backupManifest, Json.get]
  projection := by
    obtain ⟨_, db, _, _, _, hprojection⟩ := readSnapshot_ok hread
    have hget : (backupManifest platform paths host options sourceCondition snapshot files).get
        "projectionEvidence" = some ((snapshot.projection.map Json.ofRecord).getD .null) := by
      simp [backupManifest, Json.get]
    rw [hget]
    cases hrecord : snapshot.projection with
    | none => rfl
    | some record =>
      rw [hrecord] at hprojection
      exact (projectionEvidence_isRecord hprojection).equals

theorem backupManifest_condition (hsha : ∀ text, isSha256 (platform.sha256 text) = true)
    (h : readSourceCondition platform paths env.marker options.maintenance =
      .ok sourceCondition) :
    sourceReady (backupManifest platform paths host options sourceCondition snapshot files) = true ∨
    maintenanceEvidence
      (backupManifest platform paths host options sourceCondition snapshot files) = true := by
  unfold readSourceCondition at h
  split at h
  · cases h
  · obtain rfl := Except.ok.inj h
    left
    simp [sourceReady, backupManifest, Json.get, getOptional, sourceConditionJson, restorePolicy,
      strictEq, Json.primitive?]
  · cases h
  · rename_i text maintenance _ _
    split at h
    · cases h
    · rename_i marker _
      simp only [failIf_bind_ok, not_or, ne_eq, not_not] at h
      obtain ⟨⟨_, htype, _⟩, h⟩ := h
      obtain rfl := Except.ok.inj h
      have hhash := hsha text
      right
      cases hpurpose : maintenance.purpose <;> cases marker.projectionPhase with
      | none =>
        simp [maintenanceEvidence, backupManifest, Json.get, getOptional, sourceConditionJson,
          restorePolicy, strictEq, Json.primitive?, isText, Json.str?, Json.nullable, htype,
          hpurpose, hhash, BackupMaintenancePurpose.text, BackupMaintenancePurpose.expectedType]
      | some phase =>
        cases phase <;> simp [maintenanceEvidence, backupManifest, Json.get, getOptional,
          sourceConditionJson, restorePolicy, strictEq, Json.primitive?, isText, Json.str?,
          Json.nullable, htype, hpurpose, hhash, BackupMaintenancePurpose.text,
          BackupMaintenancePurpose.expectedType, ProjectionPhase.text]

theorem sidecarsJson_absent (h : ∀ s, files s = none) :
    ((sidecarsJson platform files).values.any fun entry =>
      strictEq (entry.get "present") (.bool true)) = false := by
  simp [sidecarsJson, sidecars, Json.values, h, sidecarEvidence, Json.get, strictEq,
    Json.primitive?]

theorem checkSourceSidecars_none (h : checkSourceSidecars platform none files = .ok ())
    (s : Sidecar) : files s = none := by
  simp only [checkSourceSidecars, failIf_ok, Bool.not_eq_true, List.any_eq_false] at h
  exact Option.isNone_iff_eq_none.mp (Option.isSome_eq_false_iff.mp (h s (mem_sidecars s)))

theorem checkSourceSidecars_some {deploymentId : String}
    (h : checkSourceSidecars platform (some deploymentId) files = .ok ()) :
    ∃ bytes, files .deployment = some bytes ∧
      deploymentSidecarId platform bytes = .ok deploymentId := by
  simp only [checkSourceSidecars] at h
  split at h
  · cases h
  · rename_i bytes hfile
    obtain ⟨sidecarId, hid, hsame⟩ := bind_ok.mp h
    simp only [failIf_ok, ne_eq, not_not] at hsame
    exact ⟨bytes, hfile, hsame ▸ hid⟩

theorem backupManifest_lifecycle
    (hsidecars : checkSourceSidecars platform snapshot.deployment files = .ok ())
    (hlifecycle : checkSourceLifecycle platform paths snapshot.deployment sourceCondition files =
      .ok ()) :
    checkLifecycle platform paths
      (backupManifest platform paths host options sourceCondition snapshot files)
      (sidecarsJson platform files) snapshot.deployment files = .ok () := by
  have hpolicy : (backupManifest platform paths host options sourceCondition snapshot files).get
      "restorePolicy" = some (.str (restorePolicy sourceCondition)) := by
    simp [backupManifest, Json.get]
  unfold checkSourceLifecycle at hlifecycle
  unfold checkLifecycle
  cases hdeployment : snapshot.deployment with
  | none =>
    rw [hdeployment] at hsidecars
    have habsent := @sidecarsJson_absent _ platform _ (checkSourceSidecars_none hsidecars)
    exact failIf_neg _ (by rw [habsent]; decide)
  | some deploymentId =>
    rw [hdeployment] at hsidecars hlifecycle
    simp only [failIf_bind_ok, ne_eq, not_not, not_and, Bool.not_eq_false] at hlifecycle
    obtain ⟨hpair, hready, hreceipt⟩ := hlifecycle
    obtain ⟨bytes, hbytes, _⟩ := checkSourceSidecars_some hsidecars
    have hfile : (files .deployment).isSome = true := by
      rw [hbytes]
      rfl
    simp only [failIf_bind_ok, present_sidecarsJson, hpolicy, strictEq, Json.primitive?, differ,
      Option.bind_some, hfile, hpair]
    refine ⟨by simp, by simp, ?_, ?_⟩
    · rintro ⟨hstandard, hnone⟩
      have hcondition : sourceCondition = none := by
        by_contra hne
        simp [restorePolicy, hne] at hstandard
      rw [hready hcondition] at hnone
      simp at hnone
    · split
      · exact hreceipt
      · rfl

theorem backupManifest_deploymentSidecar
    (hsidecars : checkSourceSidecars platform snapshot.deployment files = .ok ()) :
    checkDeploymentSidecar platform snapshot.deployment files = .ok () := by
  unfold checkDeploymentSidecar
  cases hdeployment : snapshot.deployment with
  | none =>
    rw [hdeployment] at hsidecars
    rw [checkSourceSidecars_none hsidecars .deployment]
  | some deploymentId =>
    rw [hdeployment] at hsidecars
    obtain ⟨bytes, hfile, hid⟩ := checkSourceSidecars_some hsidecars
    rw [hfile]
    simp only [hid, ok_bind]
    exact failIf_neg _ (by simp)

theorem isTimeOfYear_chars {year : ℕ} {text : List Char} (h : isTimeOfYear year text = true) :
    ∀ c ∈ text, c.isDigit = true ∨ c ∈ ['-', 'T', ':', '.', 'Z'] := by
  unfold isTimeOfYear at h
  split at h
  · simp only [List.all_cons, List.all_nil, Bool.and_eq_true] at h
    obtain ⟨⟨h₁, h₂, h₃, h₄, h₅, h₆, h₇, h₈, h₉, h₁₀, h₁₁, h₁₂, h₁₃, _⟩, _⟩ := h
    intro c hc
    simp only [List.mem_cons, List.not_mem_nil, or_false] at hc
    rcases hc with rfl | rfl | rfl | rfl | rfl | rfl | rfl | rfl | rfl | rfl | rfl | rfl | rfl |
      rfl | rfl | rfl | rfl | rfl | rfl | rfl <;> simp [*]
  · cases h

theorem Clock.chars (clock : Clock) :
    clock.text.toList ≠ [] ∧
      ∀ c ∈ clock.text.toList, c.isDigit = true ∨ c ∈ ['-', 'T', ':', '.', 'Z'] := by
  have hcanonical := clock.canonical
  have hdigits := clock.fourDigits
  constructor
  · intro hnil
    rw [hnil] at hdigits
    cases hdigits
  · intro c hc
    unfold isCanonicalDate at hcanonical
    split at hcanonical
    · rename_i htext
      rw [htext] at hdigits
      cases hdigits
    · rename_i htext
      rw [htext] at hdigits
      cases hdigits
    · simp only [Bool.and_eq_true, List.all_eq_true] at hcanonical
      rw [← List.take_append_drop 4 clock.text.toList] at hc
      rcases List.mem_append.mp hc with hyear | hrest
      · exact .inl (hcanonical.1 c hyear)
      · exact isTimeOfYear_chars hcanonical.2 c hrest

theorem isBackupId_new (host : BackupHost Bytes) : isBackupId (newBackupId host) = true := by
  obtain ⟨hne, hchars⟩ := host.startedAt.chars
  have hlength : (host.randomUUID.text.toList.take 8).length = 8 := by
    rw [List.length_take]
    exact Nat.min_eq_left host.randomUUID.length
  have hstart : (host.startedAt.text.toList.map
      (fun c => if c = ':' ∨ c = '.' then '-' else c) ++
        '-' :: host.randomUUID.text.toList.take 8).length - 9 =
      (host.startedAt.text.toList.map fun c => if c = ':' ∨ c = '.' then '-' else c).length := by
    rw [List.length_append, List.length_cons, hlength]
    omega
  simp only [isBackupId, newBackupId, String.toList_ofList, hstart, List.take_left',
    List.drop_left', List.head?_cons, List.tail_cons, hlength, host.randomUUID.hex,
    Bool.and_eq_true, bne_iff_ne, ne_eq, List.map_eq_nil_iff, hne, not_false_eq_true,
    List.all_map, List.all_eq_true, beq_self_eq_true, and_true, true_and]
  intro c hc
  simp only [Function.comp]
  rcases hchars c hc with hdigit | hmem
  · split
    · decide
    · simp [hdigit]
  · simp only [List.mem_cons, List.not_mem_nil, or_false] at hmem
    rcases hmem with rfl | rfl | rfl | rfl | rfl <;> decide

theorem Produced.accepted (hsha : ∀ text, isSha256 (platform.sha256 text) = true)
    (h : Produced platform paths host env options sourceCondition snapshot result) :
    checkBackup platform paths snapshot.bytes
      (backupManifest platform paths host options sourceCondition snapshot env.sidecar)
      env.sidecar = .ok () := by
  apply checkBackup_ok.mpr
  refine ⟨snapshot, sidecarsJson platform env.sidecar, h.read, backupManifest_matches h.read,
    backupManifest_hashed, ?_, backupManifest_condition hsha h.condition, rfl,
    backupManifest_lifecycle h.sidecars h.lifecycle, backupManifest_deploymentSidecar h.sidecars⟩
  simp [backupManifest, Json.get]

theorem readSourceCondition_ok
    (h : readSourceCondition platform paths env.marker options.maintenance =
      .ok sourceCondition) :
    (sourceCondition = none ↔ env.marker = none) ∧
      options.maintenance = sourceCondition.map fun c => ⟨c.operationId, c.purpose⟩ := by
  unfold readSourceCondition at h
  split at h
  · cases h
  · obtain rfl := Except.ok.inj h
    rename_i hmarker hmaintenance
    exact ⟨⟨fun _ => hmarker, fun _ => rfl⟩, hmaintenance⟩
  · cases h
  · rename_i text maintenance hmarker hmaintenance
    split at h
    · cases h
    · simp only [failIf_bind_ok, not_or, ne_eq, not_not] at h
      obtain ⟨⟨hid, _⟩, h⟩ := h
      obtain rfl := Except.ok.inj h
      simp [hmarker, hmaintenance, hid]

theorem restorePolicy_standard :
    restorePolicy sourceCondition = "STANDARD" ↔ sourceCondition = none := by
  unfold restorePolicy
  split
  · simp [*]
  · simp [*]

theorem purpose_text_inj {p q : BackupMaintenancePurpose} : p.text = q.text ↔ p = q := by
  cases p <;> cases q <;> simp [BackupMaintenancePurpose.text]

variable (platform paths host options snapshot files) in
theorem matchesMaintenance_iff (maintenance : BackupMaintenance) :
    matchesMaintenance
      (backupManifest platform paths host options sourceCondition snapshot files) maintenance =
        true ↔ sourceCondition.map (fun c => (⟨c.operationId, c.purpose⟩ : BackupMaintenance)) =
          some maintenance := by
  obtain ⟨operationId, purpose⟩ := maintenance
  cases sourceCondition with
  | none => simp [matchesMaintenance, backupManifest, Json.get, restorePolicy, strictEq,
      Json.primitive?]
  | some condition => simp [matchesMaintenance, backupManifest, Json.get, restorePolicy, strictEq,
      Json.primitive?, getOptional, sourceConditionJson, purpose_text_inj]

theorem Produced.manifest_matches
    (h : Produced platform paths host env options sourceCondition snapshot result) :
    Matches paths snapshot
      (backupManifest platform paths host options sourceCondition snapshot env.sidecar) :=
  backupManifest_matches h.read

theorem backupManifest_states :
    withDeploymentState
        (backupManifest platform paths host options sourceCondition snapshot files) =
      backupManifest platform paths host options sourceCondition snapshot files := by
  simp [withDeploymentState, statedDeploymentState, backupManifest, Json.get, Json.set]

theorem Produced.verified (hsha : ∀ text, isSha256 (platform.sha256 text) = true)
    (h : Produced platform paths host env options sourceCondition snapshot result)
    {backups : String → BackupDirectory Bytes}
    (hsame : backups result.backupId = result.directory) :
    verifyBackup platform paths backups result.backupId = .ok ⟨snapshot.bytes,
      backupManifest platform paths host options sourceCondition snapshot env.sidecar⟩ := by
  have haccepted := h.accepted hsha
  have hresult := h.result
  subst hresult
  apply verifyBackup_ok.mpr
  rw [hsame]
  exact ⟨isBackupId_new host, rfl, _, rfl, by rintro ⟨⟩, haccepted, backupManifest_states⟩

/-- A backup is accepted as it was made, for the operation it was made for; a
change of a file is noticed, and so is a manifest that says something else of
the environment, the deployment, the schema or the projection. -/
theorem backup_agrees (platform : Platform Bytes) (paths : EnvironmentPaths)
    (hinj : Function.Injective platform.fileHash)
    (hsha : ∀ text, isSha256 (platform.sha256 text) = true) (host : BackupHost Bytes)
    (env : EnvironmentFiles Bytes) (options : BackupEnvironmentOptions)
    (result : BackupResult Bytes)
    (h : backupEnvironment platform paths host env options = .ok result) :
    ∃ bytes manifest snapshot, result.directory.database = some bytes ∧
      result.directory.manifest = some (some manifest) ∧
      readSnapshot platform bytes = .ok snapshot ∧
      (manifest.get "restorePolicy" = some (.str "STANDARD") ↔ env.marker = none) ∧
      ∀ backups : String → BackupDirectory Bytes,
        (backups result.backupId = result.directory →
          verifyBackup platform paths backups result.backupId = .ok ⟨bytes, manifest⟩ ∧
          ∀ maintenance, (∃ backup, verifyMaintenanceBackup platform paths backups result.backupId
            maintenance = .ok backup) ↔ options.maintenance = some maintenance) ∧
        ∀ backup, verifyBackup platform paths backups result.backupId = .ok backup →
          (backup.manifest.get "databaseSha256" = manifest.get "databaseSha256" →
            (backups result.backupId).database = result.directory.database) ∧
          (backup.manifest.get "sidecars" = manifest.get "sidecars" →
            (backups result.backupId).sidecar = result.directory.sidecar) ∧
          (backup.database = bytes → Matches paths snapshot backup.manifest) := by
  obtain ⟨sourceCondition, snapshot, hproduced⟩ := backupEnvironment_ok h
  obtain ⟨hmarker, hmaintenance⟩ := readSourceCondition_ok hproduced.condition
  have hresult := hproduced.result
  subst hresult
  refine ⟨snapshot.bytes, _, snapshot, rfl, rfl, hproduced.read, ?_, fun backups => ⟨?_, ?_⟩⟩
  · rw [← hmarker, ← restorePolicy_standard]
    simp [backupManifest, Json.get]
  · intro hsame
    have hverify := hproduced.verified hsha hsame
    refine ⟨hverify, fun maintenance => ?_⟩
    rw [hmaintenance, ← matchesMaintenance_iff platform paths host options snapshot env.sidecar]
    constructor
    · rintro ⟨backup, hbackup⟩
      obtain ⟨hbackup, hmatches⟩ := verifyMaintenanceBackup_ok.mp hbackup
      obtain rfl := Except.ok.inj (hbackup.symm.trans hverify)
      exact hmatches
    · intro hmatches
      exact ⟨_, verifyMaintenanceBackup_ok.mpr ⟨hverify, hmatches⟩⟩
  · intro backup hbackup
    obtain ⟨_, hdatabase, manifest, _, _, hcheck, hstated⟩ := verifyBackup_ok.mp hbackup
    obtain ⟨snapshot', evidence, hread, hmatches, hhashed, _⟩ := checkBackup_ok.mp hcheck
    rw [← hstated, withDeploymentState_get (by decide), withDeploymentState_get (by decide)]
    refine ⟨fun hsame => ?_, fun hsame => ?_, fun hsame => ?_⟩
    · rw [hdatabase, backupManifest_hashed.database_same hinj hhashed hsame]
    · exact backupManifest_hashed.sidecars_same hinj hhashed hsame
    · rw [hsame] at hread
      obtain rfl := Except.ok.inj (hread.symm.trans hproduced.read)
      exact hmatches.stated

end

def deployedRelease : Release where
  migrationBundle := [⟨"0000_init", 1, "h"⟩]
  schemaContract := ⟨"1", [⟨"0000_init", 1, "h"⟩], "bundle", "schema"⟩
  bundleDigest := fun _ => "bundle"
  schemaDigest := fun _ => "schema"

def deployedContents : Contents where
  history := [⟨"h", 1⟩]
  schema := [⟨"table", "deployments", "deployments", none⟩]
  integrity := "ok"
  foreignKeyErrors := 0
  dbContract := .ok (some ⟨"1", "bundle", "schema"⟩)
  deployments := .ok ["motor-cove"]
  checkpoint := fun _ => .ok none
  runtimeStatus := fun _ => .ok none

def reindexMarker : SourceMarker :=
  ⟨"operation", "REINDEX_PROJECTION", "ACTIVE", "local", "/data/projection.sqlite", none⟩

def textPlatform : Platform String where
  release := deployedRelease
  openDatabase := fun _ => .ok deployedContents
  fileHash := id
  sha256 := fun _ => String.ofList (List.replicate 64 '0')
  parseJson := fun _ => some (.obj [("deploymentId", .str "motor-cove")])
  parseMarker := fun _ => some reindexMarker

def deployedPaths : EnvironmentPaths := ⟨"local", "/data/projection.sqlite"⟩

def noon : Clock := ⟨"2026-01-01T12:00:00.000Z", by decide +kernel, by decide⟩

def readyHost : BackupHost String where
  step := fun _ => .ok ()
  copied := .ok "snapshot"
  startedAt := noon
  createdAt := noon
  randomUUID := ⟨"0123abcd-0000", by decide, by decide⟩
  sqliteVersion := "3"

def deployedFiles : EnvironmentFiles String where
  database := some "database"
  sidecar := fun s => if s = .deployment then some "deployment" else none
  marker := some "marker"

def archiveOptions : BackupEnvironmentOptions where
  locksAlreadyHeld := true
  bootstrapOwnershipAlreadyHeld := false
  reason := none
  maintenance := some ⟨"operation", .sourceRefreshArchive⟩

def archivedCondition : BackupSourceCondition :=
  some ⟨"operation", "REINDEX_PROJECTION", "ACTIVE", .sourceRefreshArchive,
    String.ofList (List.replicate 64 '0'), none⟩

def archivedSnapshot : Snapshot String where
  bytes := "snapshot"
  verification := ⟨⟨1, "schema", "ok", 0⟩, some "1", "bundle"⟩
  deployment := some "motor-cove"
  projection := some [("state", .str "NOT_INITIALIZED"), ("deploymentId", .str "motor-cove")]

def archivedManifest : Json :=
  backupManifest textPlatform deployedPaths readyHost archiveOptions archivedCondition
    archivedSnapshot deployedFiles.sidecar

def archivedBackup : BackupResult String :=
  ⟨newBackupId readyHost, some "snapshot", some (some archivedManifest), deployedFiles.sidecar⟩

theorem archivedBackup_produced :
    backupEnvironment textPlatform deployedPaths readyHost deployedFiles archiveOptions =
      .ok archivedBackup := by
  rfl

theorem textPlatform_sha256 (text : String) : isSha256 (textPlatform.sha256 text) = true := by
  show isSha256 (String.ofList (List.replicate 64 '0')) = true
  decide

theorem backup_agrees_archive :
    ∃ manifest, verifyBackup textPlatform deployedPaths (fun _ => archivedBackup.directory)
      archivedBackup.backupId = .ok ⟨"snapshot", manifest⟩ := by
  obtain ⟨bytes, manifest, _, hbytes, _, _, _, hbackups⟩ := backup_agrees textPlatform
    deployedPaths Function.injective_id textPlatform_sha256 readyHost deployedFiles
    archiveOptions archivedBackup archivedBackup_produced
  obtain rfl := Option.some.inj hbytes
  exact ⟨manifest, ((hbackups fun _ => archivedBackup.directory).1 rfl).1⟩

/-- The same backup with another value in one field of its manifest. -/
def withField (backup : BackupResult String) (manifest : Json) (name : String) (v : Json) :
    BackupDirectory String :=
  { backup.directory with
    manifest := some (some (manifest.set name v)) }

/-- The snapshot is deployed, the manifest in the directory states no deployment
state, and the backup is accepted as a deployed one. -/
theorem stateless_manifest_accepted :
    backupEnvironment textPlatform deployedPaths readyHost deployedFiles archiveOptions =
        .ok archivedBackup ∧
      archivedManifest.get "deploymentState" = some (.str "DEPLOYED") ∧
      (∃ manifest, (withField archivedBackup archivedManifest "deploymentState" .null).manifest =
          some (some manifest) ∧ manifest.get "deploymentState" = some .null) ∧
      ∃ backup, verifyBackup textPlatform deployedPaths
          (fun _ => withField archivedBackup archivedManifest "deploymentState" .null)
          archivedBackup.backupId = .ok backup ∧
        backup.manifest.get "deploymentState" = some (.str "DEPLOYED") := by
  exact ⟨rfl, rfl, ⟨_, rfl, rfl⟩, ⟨"snapshot", _⟩, rfl, rfl⟩

end MotorCove.Maintenance
