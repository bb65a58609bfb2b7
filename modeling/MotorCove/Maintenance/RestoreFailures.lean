import MotorCove.Maintenance.MigrateRuns
import MotorCove.Maintenance.RestoreRecovery

/-!
# After a restore that failed before its first rename

The active files stay as they were. Recovery then checks the active database
against the release, and only a database that passes lets the marker go: one of
an earlier schema keeps it, and with it every migration out.
-/

set_option autoImplicit false

namespace MotorCove.Maintenance
open MotorCove.Crashes MotorCove.Effects MotorCove.Fallible

variable {Bytes : Type} {read : FileSet Bytes → Except String Contents} {old : FileSet Bytes}
  {operationId : String} {env : Environment Bytes} {world : World Bytes} {release : Release}

/-- A read-only connection leaves what SQLite reads of the files. -/
def ReadOnly (read : FileSet Bytes → Except String Contents) (world : World Bytes) : Prop :=
  ∀ turn files, read (files.opened (world.walLeft turn) (world.shmLeft turn)) = read files

/-- Nothing has moved, and SQLite reads of the active files what it read. -/
structure Intact (read : FileSet Bytes → Except String Contents) (old : FileSet Bytes)
    (operationId : String) (env : Environment Bytes) : Prop extends
    Untouched old operationId env where
  reads : read env.active = read old

/-- While the quarantine is empty, the environment is intact under a marker of
this restore. -/
def InPlace (read : FileSet Bytes → Except String Contents) (old : FileSet Bytes)
    (operationId : String) (env : Environment Bytes) : Prop :=
  env.quarantine operationId = noFiles →
    Intact read old operationId env ∧
      ∀ m, env.marker = some m → m.operationType = .restore ∧ m.operationId = operationId

theorem Intact.remarked (h : Intact read old operationId env) (marker : Option MaintenanceMarker) :
    Intact read old operationId { env with marker := marker } :=
  ⟨⟨h.active, h.quarantine, h.staged⟩, h.reads⟩

theorem Intact.opened (h : Intact read old operationId env) (hworld : ReadOnly read world)
    (turn : ℕ) :
    Intact read old operationId
      { env with active := env.active.opened (world.walLeft turn) (world.shmLeft turn) } :=
  ⟨h.toUntouched.opened _ _, (hworld turn env.active).trans h.reads⟩

theorem Intact.copied (h : Intact read old operationId env) (hold : old.main ≠ none)
    (file : File Bytes) :
    Intact read old operationId
      { env with staging := Function.update env.staging operationId (some file) } :=
  ⟨⟨h.active, h.quarantine, fun hnone => absurd hnone hold⟩, h.reads⟩

theorem Intact.inPlace (h : Intact read old operationId env)
    (howner : ∀ m, env.marker = some m →
      m.operationType = .restore ∧ m.operationId = operationId) :
    InPlace read old operationId env :=
  fun _ => ⟨h, howner⟩

def Quarantined (operationId : String) (env : Environment Bytes) : Prop :=
  (env.quarantine operationId).main ≠ none

theorem Quarantined.inPlace (h : Quarantined operationId env) :
    InPlace read old operationId env := by
  intro hnone
  apply absurd _ h
  rw [hnone]
  rfl

theorem Quarantined.moved (h : Quarantined operationId env) {suffix : Suffix}
    (hsuffix : suffix ≠ .main) :
    Quarantined operationId { env with
      active := env.active.set none suffix
      quarantine := Function.update env.quarantine operationId
        ((env.quarantine operationId).set (env.active.get suffix) suffix) } := by
  have hget := get_set_of_ne (env.quarantine operationId) (env.active.get suffix) hsuffix.symm
  show FileSet.main _ ≠ none
  simp only [Function.update_self]
  intro hnone
  exact h (hget.symm.trans hnone)

theorem quarantineActive_quarantined (h : Quarantined operationId env) {suffix : Suffix}
    (hsuffix : suffix ≠ .main) :
    Holds (quarantineActive world operationId suffix) env
      (fun _ env' => Quarantined operationId env') fun _ env' => Quarantined operationId env' := by
  apply holds_bind
  apply holds_look
  split
  · exact holds_act_of (fun _ => h.moved hsuffix) (fun _ _ => h.moved hsuffix) fun _ => h
  · exact holds_pure h

theorem install_quarantined {m : MaintenanceMarker} (h : Quarantined m.operationId env) :
    Holds (do
      quarantineActive world m.operationId .wal
      quarantineActive world m.operationId .shm
      writeMaintenanceMarker world { m with stage := .installingSnapshot }
      installStaged world m.operationId
      removeStaging world m.operationId
      writeActive world
      ask fun turn env => world.verifyDatabase turn env.active
      clearMaintenanceMarker world) env
      (fun _ env' => Quarantined m.operationId env')
      fun _ env' => Quarantined m.operationId env' := by
  apply holds_bind
  refine (quarantineActive_quarantined h (by decide)).mono (fun _ env₁ h₁ => ?_) fun _ _ => id
  apply holds_bind
  refine (quarantineActive_quarantined h₁ (by decide)).mono (fun _ env₂ h₂ => ?_) fun _ _ => id
  refine holds_bind (holds_act_of (fun _ => ?_) (fun _ _ => h₂) fun _ => h₂)
  refine holds_bind (holds_act_of (fun _ => ?_) (fun _ _ => h₂) fun _ => h₂)
  refine holds_bind (holds_act_of (fun _ => ?_) (fun _ _ => h₂) fun _ => h₂)
  refine holds_bind (holds_act_of (fun _ => ?_) (fun _ _ => h₂) fun _ => h₂)
  refine holds_bind (holds_ask_of (fun _ _ _ => ?_) h₂)
  exact holds_act_of (fun _ => h₂) (fun _ _ => h₂) fun _ => h₂

/-- The files up to the second marker are as they were, and after it main moves first. -/
theorem swap_inPlace {m : MaintenanceMarker} (hm : m.operationType = .restore)
    (h : Intact read old m.operationId env) (hmarked : Marked m.operationId env)
    (hmain : env.active.main ≠ none) :
    Holds (do
      writeMaintenanceMarker world { m with stage := .activeQuarantined }
      makeDirectory world
      quarantineActive world m.operationId .main
      quarantineActive world m.operationId .wal
      quarantineActive world m.operationId .shm
      writeMaintenanceMarker world { m with stage := .installingSnapshot }
      installStaged world m.operationId
      removeStaging world m.operationId
      writeActive world
      ask fun turn env => world.verifyDatabase turn env.active
      clearMaintenanceMarker world) env
      (fun _ env' => InPlace read old m.operationId env')
      fun _ env' => InPlace read old m.operationId env' := by
  have hsafe := h.inPlace hmarked.owner
  have hmarked₁ : Marked m.operationId
      { env with marker := some { m with stage := .activeQuarantined } } := ⟨_, rfl, hm, rfl⟩
  have hsafe₁ := (h.remarked (some { m with stage := .activeQuarantined })).inPlace hmarked₁.owner
  refine holds_bind (holds_act_of (fun _ => ?_) (fun _ _ => hsafe₁) fun _ => hsafe)
  refine holds_bind (holds_act_of (fun _ => ?_) (fun _ _ => hsafe₁) fun _ => hsafe₁)
  refine holds_bind (holds_bind (holds_look ?_))
  have hquarantined : Quarantined m.operationId { env with
      marker := some { m with stage := .activeQuarantined }
      active := env.active.set none .main
      quarantine := Function.update env.quarantine m.operationId
        ((env.quarantine m.operationId).set (env.active.get .main) .main) } := by
    show FileSet.main _ ≠ none
    simp only [Function.update_self]
    exact hmain
  split
  · refine holds_act_of (fun _ => ?_) (fun _ _ => hquarantined.inPlace) fun _ => hsafe₁
    exact (install_quarantined hquarantined).mono (fun _ _ h => h.inPlace) fun _ _ h => h.inPlace
  · rename_i hnone
    exact absurd (by simpa [FileSet.get] using hnone) hmain

theorem restoreOwned_inPlace {m : MaintenanceMarker} (hm : m.operationType = .restore)
    (hworld : ReadOnly read world) (h : Intact read old m.operationId env)
    (hmarked : Marked m.operationId env) :
    Holds (restoreOwned world m) env (fun _ env' => InPlace read old m.operationId env')
      fun _ env' => InPlace read old m.operationId env' := by
  have hsafe := h.inPlace hmarked.owner
  unfold restoreOwned
  refine holds_bind (holds_ask_of (fun _ _ _ => ?_) hsafe)
  refine holds_bind (holds_throwIf (fun _ => ?_) hsafe)
  refine holds_bind (holds_throwIf (fun _ => ?_) hsafe)
  refine holds_bind (holds_look ?_)
  refine holds_bind (holds_throwIf (fun hsome => ?_) hsafe)
  have hmain : env.active.main ≠ none := by simpa [Option.isSome_iff_ne_none] using hsome
  have hold : old.main ≠ none := fun hnone => hmain (h.active.main.trans hnone)
  refine holds_bind (holds_act_of (fun opened => ?_)
    (fun opened _ => (h.opened hworld opened).inPlace hmarked.owner) fun _ => hsafe)
  have h₁ := h.opened hworld opened
  have hsafe₁ := h₁.inPlace hmarked.owner
  refine holds_bind (holds_ask_of (fun _ _ _ => ?_) hsafe₁)
  refine holds_bind (holds_ask_of (fun _ _ _ => ?_) hsafe₁)
  refine holds_bind (holds_throwIf (fun _ => ?_) hsafe₁)
  refine holds_bind (holds_ask_of (fun _ _ _ => ?_) hsafe₁)
  refine holds_bind (holds_act_of (fun _ => ?_) (fun _ _ => hsafe₁) fun _ => hsafe₁)
  have hcopied := fun turn => h₁.copied hold ⟨.snapshot, world.copied turn⟩
  have hsafe₂ := fun turn => (hcopied turn).inPlace hmarked.owner
  refine holds_bind (holds_act_of (fun copied => ?_) (fun copied _ => hsafe₂ copied)
    fun _ => hsafe₁)
  refine holds_bind (holds_look ?_)
  refine holds_bind (holds_throwIf (fun _ => ?_) (hsafe₂ copied))
  refine holds_bind (holds_attempt (holds_ask (fun _ _ _ => ?_)
    fun _ failure _ => caught_of (hsafe₂ copied) (fun message => ?_) failure))
  · exact swap_inPlace hm (hcopied copied) hmarked hmain
  · split
    · exact holds_refuse (hsafe₂ copied)
    · exact holds_refuse (hsafe₂ copied)

theorem InPlace.remarked {m : MaintenanceMarker} (h : InPlace read old operationId env)
    (hm : m.operationType = .restore) (hid : m.operationId = operationId) :
    InPlace read old operationId { env with marker := some m } := by
  intro hnone
  refine ⟨(h hnone).1.remarked _, fun m' hm' => ?_⟩
  obtain rfl := Option.some.inj hm'
  exact ⟨hm, hid⟩

theorem restoreEnvironment_inPlace {paths : EnvironmentPaths} {contractVersion backupId : String}
    {confirmed : Bool} (hworld : ReadOnly read world) (h : Intact read old operationId env)
    (hnone : env.marker = none) :
    Holds (restoreEnvironment world paths contractVersion operationId backupId confirmed) env
      (fun _ env' => InPlace read old operationId env')
      fun _ env' => InPlace read old operationId env' := by
  have hsafe : InPlace read old operationId env := by
    apply h.inPlace
    intro m hm
    cases hnone.symm.trans hm
  unfold restoreEnvironment
  refine holds_bind (holds_throwIf (fun _ => ?_) hsafe)
  refine holds_bind (holds_ask_of (fun _ _ _ => ?_) hsafe)
  refine holds_bind (holds_ask_of (fun _ _ _ => ?_) hsafe)
  refine holds_bind (holds_look ?_)
  refine holds_bind (holds_throwIf (fun _ => ?_) hsafe)
  have hmarked : Marked operationId { env with
      marker := some (restoreMarker paths contractVersion operationId backupId) } :=
    ⟨_, rfl, rfl, rfl⟩
  have hprepared := h.remarked (some (restoreMarker paths contractVersion operationId backupId))
  refine holds_bind (holds_act_of (fun _ => ?_) (fun _ _ => hprepared.inPlace hmarked.owner)
    fun _ => hsafe)
  refine holds_attempt ((restoreOwned_inPlace (m := restoreMarker paths contractVersion operationId
    backupId) rfl hworld hprepared hmarked).mono (fun _ _ => id) fun failure env' h' =>
      caught_of h' (fun message => ?_) failure)
  refine holds_bind (holds_look ?_)
  split
  · exact holds_bind (holds_act_of (fun _ => holds_refuse (h'.remarked rfl rfl))
      (fun _ _ => h'.remarked rfl rfl) fun _ => h')
  · exact holds_bind (holds_pure (holds_refuse h'))

def checkFiles (release : Release) (read : FileSet Bytes → Except String Contents)
    (files : FileSet Bytes) : Except String Unit := do
  let db ← read files
  let _ ← verifyDatabase release true db
  .ok ()

/-- A database is there, and passes the check of the release. -/
def acceptActive (release : Release) (read : FileSet Bytes → Except String Contents)
    (files : FileSet Bytes) : Except String Unit := do
  failIf (files.main.isSome = false) "RECOVERY_REQUIRED: active database missing"
  checkFiles release read files

/-- An undisturbed recovery that reads the files as SQLite does. -/
structure Reading (release : Release) (read : FileSet Bytes → Except String Contents)
    (calm : Calm Bytes) : Prop where
  readOnly : ReadOnly read calm.world
  verifyDatabase : ∀ turn files,
    calm.world.verifyDatabase turn files = (checkFiles release read files).mapError .thrown

theorem acceptActive_of_main (hmain : old.main ≠ none) :
    acceptActive release read old = checkFiles release read old := by
  unfold acceptActive
  rw [Option.isSome_iff_ne_none.mpr hmain]
  rfl

theorem acceptActive_of_missing (hmain : old.main = none) :
    acceptActive release read old = .error "RECOVERY_REQUIRED: active database missing" := by
  unfold acceptActive
  rw [hmain]
  rfl

theorem Intact.checkFiles_eq (h : Intact read old operationId env) :
    checkFiles release read env.active = checkFiles release read old := by
  unfold checkFiles
  rw [h.reads]

/-- The end of a recovery from `env`: the marker goes exactly when the active
database is accepted, and the files stay either way. -/
def Cleared (release : Release) (read : FileSet Bytes → Except String Contents)
    (old : FileSet Bytes) (operationId : String) (env env' : Environment Bytes) : Prop :=
  env'.marker = none ∧ Intact read old operationId env' ∧
    (env.marker = none ∨ acceptActive release read old = .ok ())

def Blocked (release : Release) (read : FileSet Bytes → Except String Contents)
    (old : FileSet Bytes) (operationId : String) (env : Environment Bytes)
    (failure : Failure String) (env' : Environment Bytes) : Prop :=
  (env'.marker = env.marker ∧ env.marker ≠ none) ∧ Intact read old operationId env' ∧
    ∃ message, failure = .thrown message ∧ acceptActive release read old = .error message

theorem recoverRestore_intact {calm : Calm Bytes} {m : MaintenanceMarker}
    (hcalm : Reading release read calm) (hm : env.marker = some m)
    (h : Intact read old m.operationId env) :
    Holds (recoverRestore calm.world m) env
      (fun _ env' => Cleared release read old m.operationId env env')
      (Blocked release read old m.operationId env) := by
  have hmarker : env.marker ≠ none := by simp [hm]
  unfold recoverRestore
  refine holds_bind (holds_look ?_)
  by_cases hmain : env.active.main = none
  · have hnone := h.active.main.symm.trans hmain
    simp only [hmain, Option.isSome_none, if_true]
    refine holds_bind (holds_look ?_)
    simp only [h.staged hnone, Option.isSome_none, Bool.false_eq_true, if_false]
    refine holds_bind (holds_look ?_)
    simp only [h.quarantine, noFiles, Option.isSome_none, Bool.false_eq_true, if_false]
    refine holds_bind (holds_look (holds_bind ?_))
    simp only [hmain, Option.isSome_none, throwIf, if_true]
    exact holds_refuse ⟨⟨rfl, hmarker⟩, h, _, rfl, acceptActive_of_missing hnone⟩
  · have hold : old.main ≠ none := fun hnone => hmain (h.active.main.trans hnone)
    have hsome := Option.isSome_iff_ne_none.mpr hmain
    simp only [hsome, Bool.true_eq_false, if_false]
    refine holds_bind (holds_look (holds_bind ?_))
    simp only [hsome, throwIf, Bool.true_eq_false, if_false]
    refine holds_pure (holds_bind (holds_act_done calm.operation fun opened => ?_))
    have h₁ := h.opened hcalm.readOnly opened
    have hcheck : ∀ turn, calm.world.verifyDatabase turn
        (env.active.opened (calm.world.walLeft opened) (calm.world.shmLeft opened)) =
          (acceptActive release read old).mapError .thrown := by
      intro turn
      rw [hcalm.verifyDatabase, acceptActive_of_main hold]
      exact congrArg (Except.mapError Failure.thrown) h₁.checkFiles_eq
    refine holds_bind (holds_ask (fun turn _ hok => ?_) fun turn failure herror => ?_)
    · have haccepted : acceptActive release read old = .ok () := by
        cases haccept : acceptActive release read old with
        | ok u => rfl
        | error message =>
          rw [hcheck turn, haccept] at hok
          cases hok
      refine holds_bind (holds_act_done calm.operation fun _ => holds_pure ?_)
      exact ⟨rfl, h₁.remarked none, .inr haccepted⟩
    · cases haccept : acceptActive release read old with
      | ok u =>
        rw [hcheck turn, haccept] at herror
        cases herror
      | error message =>
        rw [hcheck turn, haccept] at herror
        cases herror
        exact ⟨⟨rfl, hmarker⟩, h₁, message, rfl, haccept⟩

theorem recoverEnvironment_intact {calm : Calm Bytes}
    {others : MaintenanceMarker → Maintain Bytes RecoveryStatus}
    (hcalm : Reading release read calm) (h : Intact read old operationId env)
    (howner : ∀ m, env.marker = some m →
      m.operationType = .restore ∧ m.operationId = operationId) :
    Holds (recoverEnvironment calm.world others true) env
      (fun _ env' => Cleared release read old operationId env env')
      (Blocked release read old operationId env) := by
  unfold recoverEnvironment
  refine holds_bind (holds_ask_ok calm.verifyOwnedEnvironment ?_)
  simp only [Bool.true_eq_false, if_false]
  refine holds_bind (holds_ask_ok calm.acquireLocks ?_)
  refine holds_bind (holds_look ?_)
  split
  · rename_i hnone
    exact holds_pure ⟨hnone, h, .inl hnone⟩
  · rename_i m hm
    obtain ⟨htype, rfl⟩ := howner m hm
    simp only [htype]
    exact recoverRestore_intact hcalm hm h

def Shows (read : FileSet Bytes → Except String Contents) (env : Environment Bytes)
    (disk : Migrate.Disk Bytes) : Prop :=
  disk.marker = env.marker ∧
    disk.database.map Except.ok = env.active.main.map fun _ => read env.active

theorem Intact.shows_iff {start : Environment Bytes} {disk : Migrate.Disk Bytes}
    (h : Intact read start.active operationId env) (hmarker : env.marker = start.marker) :
    Shows read env disk ↔ Shows read start disk := by
  unfold Shows
  rw [hmarker, h.active.main, h.reads]

theorem migrateEnvironment_refused {tools : Migrate.Tools Bytes} {world : Migrate.World Bytes}
    {paths : EnvironmentPaths} {disk : Migrate.Disk Bytes} {m : MaintenanceMarker}
    (hm : disk.marker = some m) (htype : m.operationType = .restore)
    (bootstrapOwnershipAlreadyHeld : Bool) (id : String) :
    Holds (Migrate.migrateEnvironment tools world paths bootstrapOwnershipAlreadyHeld id) disk
      (fun _ _ => False) fun _ disk' => disk' = disk := by
  unfold Migrate.migrateEnvironment
  refine holds_bind (holds_ask (fun _ _ _ => ?_) fun _ _ _ => rfl)
  refine holds_bind (holds_ask (fun _ _ _ => ?_) fun _ _ _ => rfl)
  refine holds_bind (holds_look ?_)
  simp only [hm]
  refine holds_bind (holds_refuseIf (fun hadmitted => ?_) fun _ => rfl)
  apply absurd _ hadmitted
  left
  rw [htype]
  decide

/-- The environment is unmarked again, and whatever starts from its marker and
its database finds what it found before the restore. -/
structure Usable (read : FileSet Bytes → Except String Contents) (start env : Environment Bytes) :
    Prop where
  marker : env.marker = none
  active : Grown start.active env.active
  reads : read env.active = read start.active
  shows_iff : ∀ disk, Shows read env disk ↔ Shows read start disk

/-- The marker stays over files that are as they were, and no migration starts. -/
structure Barred (read : FileSet Bytes → Except String Contents) (start env : Environment Bytes) :
    Prop where
  marker : ∃ m, env.marker = some m ∧ m.operationType = .restore
  active : Grown start.active env.active
  reads : read env.active = read start.active
  refused : ∀ (disk : Migrate.Disk Bytes) (tools : Migrate.Tools Bytes)
    (world : Migrate.World Bytes) (paths : EnvironmentPaths) (bootstrapOwnershipAlreadyHeld : Bool)
    (id : String), Shows read env disk →
      Holds (Migrate.migrateEnvironment tools world paths bootstrapOwnershipAlreadyHeld id) disk
        (fun _ _ => False) fun _ disk' => disk' = disk

/-- A restore that moved nothing left the active files as they were. The recovery
after it leaves no marker exactly when there was none or the active database is
one of the release; the environment is then as usable as before. -/
theorem failed_restore_recovers (release : Release)
    (read : FileSet Bytes → Except String Contents)
    (world : World Bytes) (hworld : ReadOnly read world) (paths : EnvironmentPaths)
    (contractVersion operationId backupId : String) (confirmed : Bool)
    (main wal shm : Option Bytes) (quarantine : String → FileSet Bytes)
    (staging : String → Option (File Bytes)) (turn : ℕ)
    (others : MaintenanceMarker → Maintain Bytes RecoveryStatus) :
    let start := idle (oldFiles main wal shm) quarantine staging operationId
    let env := (finalState (restoreEnvironment world paths contractVersion operationId backupId
      confirmed) ⟨turn, start⟩).disk
    env.quarantine operationId = noFiles →
      Grown start.active env.active ∧ read env.active = read start.active ∧
      ∀ calm : Calm Bytes, Reading release read calm →
        Holds (recoverEnvironment calm.world others true) env
          (fun _ env' => Usable read start env' ∧
            (env.marker = none ∨ acceptActive release read start.active = .ok ()))
          fun failure env' => env.marker ≠ none ∧ env'.marker = env.marker ∧
            Barred read start env' ∧ ∃ message, failure = .thrown message ∧
              acceptActive release read start.active = .error message := by
  intro start env hunmoved
  have hstart : Intact read start.active operationId start :=
    ⟨idle_untouched (oldFiles_old main wal shm), rfl⟩
  have hplace : InPlace read start.active operationId env :=
    Holds.final (restoreEnvironment_inPlace hworld hstart rfl) turn
  obtain ⟨hintact, howner⟩ := hplace hunmoved
  refine ⟨hintact.active, hintact.reads, fun calm hcalm => ?_⟩
  refine (recoverEnvironment_intact hcalm hintact howner).mono ?_ ?_
  · rintro _ env' ⟨hnone, h', haccepted⟩
    exact ⟨⟨hnone, h'.active, h'.reads, fun _ => h'.shows_iff hnone⟩, haccepted⟩
  · rintro failure env' ⟨⟨hkept, hmarker⟩, h', hfailure⟩
    obtain ⟨m, hm⟩ := Option.ne_none_iff_exists'.mp hmarker
    have htype := (howner m hm).1
    have hm' := hkept.trans hm
    refine ⟨hmarker, hkept, ⟨⟨m, hm', htype⟩, h'.active, h'.reads, ?_⟩, hfailure⟩
    intro disk tools world paths held id hshows
    exact migrateEnvironment_refused (hshows.1.trans hm') htype held id

/-- A file is what SQLite reads of it. -/
def readMain (files : FileSet Contents) : Except String Contents :=
  match files.main with
  | some file => .ok file.bytes
  | none => .error "unable to open database file"

def invalidBackup : World Contents where
  operation := fun _ => .done
  verifyOwnedEnvironment := fun _ => .ok ()
  acquireLocks := fun _ => .ok ()
  verifyBackup := fun _ => .error (.thrown "BACKUP_INVALID: database checksum")
  activeDeploymentId := fun _ _ => .ok "0x1"
  manifestDeploymentId := fun _ => .ok "0x1"
  assertActiveSidecarsMatchBackup := fun _ => .ok ()
  copied := fun _ => Migrate.emptyContents
  sha256 := fun _ => ""
  verifyDatabase := fun _ files =>
    (checkFiles Migrate.twoRelease readMain files).mapError .thrown
  walLeft := fun _ => some Migrate.emptyContents
  shmLeft := fun _ => some Migrate.emptyContents

theorem checkFiles_not_crash (files : FileSet Contents) :
    (checkFiles Migrate.twoRelease readMain files).mapError Failure.thrown ≠ .error .crash := by
  cases checkFiles Migrate.twoRelease readMain files with
  | ok u =>
    rintro ⟨⟩
  | error message =>
    rintro ⟨⟩

def undisturbed : Calm Contents where
  world := invalidBackup
  operation := fun _ => rfl
  verifyOwnedEnvironment := fun _ => rfl
  acquireLocks := fun _ => rfl
  verifyDatabase := fun _ files => checkFiles_not_crash files

theorem invalidBackup_readOnly : ReadOnly readMain invalidBackup := fun _ _ => rfl

theorem undisturbed_reading : Reading Migrate.twoRelease readMain undisturbed :=
  ⟨invalidBackup_readOnly, fun _ _ => rfl⟩

def holding (db : Contents) : Environment Contents :=
  idle (oldFiles (some db) none none) (fun _ => noFiles) (fun _ => none) "r1"

def restoreFailed (db : Contents) : Environment Contents :=
  (finalState (restoreEnvironment invalidBackup Migrate.migratedPaths "1" "r1" "b1" true)
    ⟨0, holding db⟩).disk

def recovering : Maintain Contents RecoveryStatus :=
  recoverEnvironment undisturbed.world (fun m => pure (.actionRequired m)) true

def migratedContents : Contents :=
  { Migrate.sourceContents with
    history := Migrate.rows Migrate.twoMigrations
    schema := Migrate.migratedTables }

theorem migratedContents_accepted :
    acceptActive Migrate.twoRelease readMain (holding migratedContents).active = .ok () := by
  have hverified : ∃ v, verifyDatabase Migrate.twoRelease true migratedContents = .ok v :=
    ⟨⟨2, Migrate.builtSchema 2, "ok", 0⟩, by decide +kernel⟩
  obtain ⟨v, hv⟩ := hverified
  show (verifyDatabase Migrate.twoRelease true migratedContents >>= fun _ => Except.ok ()) = .ok ()
  rw [hv]
  rfl

/-- The database of the release: the failed restore leaves its marker, and the
recovery makes the environment usable again. -/
theorem failed_restore_recovers_current :
    (restoreFailed migratedContents).marker.map (fun m => m.stage) = some .failed ∧
      Holds recovering (restoreFailed migratedContents)
        (fun _ env' => Usable readMain (holding migratedContents) env') fun _ _ => False := by
  refine ⟨rfl, ?_⟩
  obtain ⟨_, _, hrecovers⟩ := failed_restore_recovers Migrate.twoRelease readMain invalidBackup
    invalidBackup_readOnly Migrate.migratedPaths "1" "r1" "b1" true (some migratedContents) none
    none (fun _ => noFiles) (fun _ => none) 0 (fun m => pure (.actionRequired m)) rfl
  refine (hrecovers undisturbed undisturbed_reading).mono (fun _ _ h => h.1) ?_
  rintro _ _ ⟨_, _, _, message, _, herror⟩
  cases migratedContents_accepted.symm.trans herror

def migrating : Migrate.Maintain Contents Migrate.MigrationResult :=
  Migrate.migrateEnvironment Migrate.twoTools { Migrate.crashing with operation := fun _ => .done }
    Migrate.migratedPaths false "m1"

def completes (x : Migrate.Maintain Contents Migrate.MigrationResult)
    (disk : Migrate.Disk Contents) : Bool :=
  match x.run ⟨0, disk⟩ with
  | .ok _ _ => true
  | .error _ _ => false

/-- The database of an earlier schema: its migration completes before the
restore; the recovery after the failed restore throws the check's own error and
keeps the marker, over which the migration does not start. -/
theorem failed_restore_bars_migration :
    Shows readMain (holding Migrate.sourceContents) Migrate.sourceDisk ∧
      completes migrating Migrate.sourceDisk = true ∧
      (restoreFailed Migrate.sourceContents).quarantine "r1" = noFiles ∧
      Ends recovering ⟨0, restoreFailed Migrate.sourceContents⟩
        (fun _ _ => False)
        (fun failure m => failure = .thrown "DB_SCHEMA_BEHIND" ∧
          m.disk.marker = (restoreFailed Migrate.sourceContents).marker ∧
          m.disk.marker.isSome = true ∧
          Ends migrating ⟨0, { Migrate.sourceDisk with marker := m.disk.marker }⟩
            (fun _ _ => False) fun failure _ => failure = .thrown "MAINTENANCE_INCOMPLETE") := by
  refine ⟨⟨rfl, rfl⟩, by decide +kernel, rfl, rfl, rfl, rfl, rfl⟩

end MotorCove.Maintenance
