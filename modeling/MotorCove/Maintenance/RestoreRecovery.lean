import MotorCove.Maintenance.RestoreRuns

/-!
# Recovering an interrupted restore

Recovery decides by the files that exist. Every phase a crash can leave is led
to one of the two complete sets, or is one already.
-/

set_option autoImplicit false

namespace MotorCove.Maintenance
open MotorCove.Crashes MotorCove.Effects

variable {Bytes : Type} {V : File Bytes → Prop} {old : FileSet Bytes} {operationId : String}
  {env : Environment Bytes} {world : World Bytes}

/-- How a recovery from `env` can end without completing. -/
inductive Stopped (world : World Bytes) (V : File Bytes → Prop) (old : FileSet Bytes)
    (operationId : String) (env : Environment Bytes) :
    Failure String → Environment Bytes → Prop where
  | operation (turn : ℕ) {failure : Failure String} {env' : Environment Bytes}
      (h : world.operation turn ≠ .done) : Stopped world V old operationId env failure env'
  | notOwned {turn : ℕ} {failure : Failure String} {env' : Environment Bytes}
      (h : world.verifyOwnedEnvironment turn = .error failure) :
      Stopped world V old operationId env failure env'
  | notLocked {turn : ℕ} {failure : Failure String} {env' : Environment Bytes}
      (h : world.acquireLocks turn = .error failure) :
      Stopped world V old operationId env failure env'
  | missing : Stopped world V old operationId env
      (.thrown "RECOVERY_REQUIRED: active database missing") env
  | unverified {turn : ℕ} {failure : Failure String} {env' : Environment Bytes}
      (h : world.verifyDatabase turn env'.active = .error failure)
      (hunmixed : Unmixed V old operationId env') (hkept : env'.marker = env.marker) :
      Stopped world V old operationId env failure env'

theorem holds_operation {change : ℕ → Environment Bytes → Environment Bytes}
    {P : Unit → Environment Bytes → Prop} {Q : Environment Bytes → Prop}
    {start : Environment Bytes} (h : ∀ turn, P () (change turn env))
    (hdone : ∀ turn, Q (change turn env)) (hundone : Q env) :
    Holds (act world.operation change) env P
      fun failure env' => Q env' ∧ Stopped world V old operationId start failure env' := by
  refine holds_act (fun turn _ => h turn) (fun turn failure houtcome => ⟨hdone turn, ?_⟩)
    fun turn failure houtcome => ⟨hundone, ?_⟩
  · exact .operation turn (by simp only [houtcome, ne_eq, reduceCtorEq, not_false_eq_true])
  · exact .operation turn (by simp only [houtcome, ne_eq, reduceCtorEq, not_false_eq_true])

theorem Unmixed.opened (h : Unmixed V old operationId env) (wal shm : Option Bytes) :
    Unmixed V old operationId { env with active := env.active.opened wal shm } := by
  rcases h with h | h
  · exact .inl (h.opened wal shm)
  · exact .inr (h.opened wal shm)

theorem Unmixed.cleared (h : Unmixed V old operationId env) :
    Unmixed V old operationId { env with marker := none } := by
  rcases h with h | h
  · exact .inl ⟨h.active, h.quarantine, h.staged⟩
  · exact .inr ⟨h.main, h.generation, h.quarantine⟩

theorem Moving.not_both (h : Moving V old operationId env) {suffix : Suffix}
    (hsuffix : suffix ≠ .main) (hactive : (env.active.get suffix).isSome = true) :
    ((env.quarantine operationId).get suffix).isSome = false := by
  obtain ⟨files, _, _, hsplit⟩ := h.split
  rcases hsplit suffix hsuffix with ⟨_, hnone⟩ | ⟨hnone, _⟩
  · rw [hnone]
    rfl
  · rw [hnone] at hactive
    cases hactive

theorem quarantineActiveRestoreSidecar_moving {start : Environment Bytes}
    (h : Moving V old operationId env) (hmarked : Marked operationId env) {suffix : Suffix}
    (hsuffix : suffix ≠ .main) :
    Holds (quarantineActiveRestoreSidecar world operationId suffix) env
      (fun _ env' => Moving V old operationId env' ∧ env'.marker = env.marker ∧
        env'.active.get suffix = none ∧
        ∀ s, s ≠ suffix → env'.active.get s = env.active.get s)
      fun failure env' => Safe V old operationId env' ∧
        Stopped world V old operationId start failure env' := by
  refine holds_bind (holds_look ?_)
  split
  · rename_i hsome
    refine holds_bind (holds_look (holds_bind ?_))
    have hone := h.not_both hsuffix hsome
    unfold throwIf
    split
    · rename_i hboth
      rw [hone] at hboth
      cases hboth
    · obtain ⟨file, hfile⟩ := Option.isSome_iff_exists.mp hsome
      have hmoved := h.moved hsuffix hfile
      exact holds_pure (holds_operation
        (fun _ => ⟨hmoved, rfl, get_set_self .., fun s hs => get_set_of_ne _ _ hs⟩)
        (fun _ => hmoved.safe hmarked) (h.safe hmarked))
  · rename_i hnone
    refine holds_pure ⟨h, rfl, ?_, fun _ _ => rfl⟩
    simpa using hnone

theorem quarantineActiveRestoreSidecars_moving {start : Environment Bytes}
    (h : Moving V old operationId env) (hmarked : Marked operationId env) :
    Holds (quarantineActiveRestoreSidecars world operationId) env
      (fun _ env' => Moving V old operationId env' ∧ env'.marker = env.marker ∧
        ∀ suffix, env'.active.get suffix = none)
      fun failure env' => Safe V old operationId env' ∧
        Stopped world V old operationId start failure env' := by
  refine holds_bind (holds_operation (fun _ => ?_) (fun _ => h.safe hmarked) (h.safe hmarked))
  refine holds_bind ((quarantineActiveRestoreSidecar_moving h hmarked (by decide)).mono ?_
    fun _ _ => id)
  rintro _ env₁ ⟨h₁, hkept₁, hwal, _⟩
  have hmarked₁ := hmarked.of_eq hkept₁
  refine (quarantineActiveRestoreSidecar_moving h₁ hmarked₁ (by decide)).mono ?_ fun _ _ => id
  rintro _ env₂ ⟨h₂, hkept₂, hshm, hother⟩
  refine ⟨h₂, hkept₂.trans hkept₁, fun suffix => ?_⟩
  cases suffix with
  | main => exact h₂.active
  | wal => exact (hother .wal (by decide)).trans hwal
  | shm => exact hshm

theorem verified_holds {start : Environment Bytes} (h : Unmixed V old operationId env)
    (hmarked : Marked operationId env) (hkept : env.marker = start.marker)
    (hmain : env.active.main.isSome = true) :
    Holds (do
      throwIf ((← look fun env => env.active.main.isSome) = false)
        "RECOVERY_REQUIRED: active database missing"
      openActive world
      ask fun turn env => world.verifyDatabase turn env.active
      clearMaintenanceMarker world
      pure (RecoveryStatus.recovered operationId)) env
      (fun _ env' => Unmixed V old operationId env' ∧ env'.marker = none)
      fun failure env' => Safe V old operationId env' ∧
        Stopped world V old operationId start failure env' := by
  refine holds_bind (holds_look (holds_bind ?_))
  unfold throwIf
  split
  · rename_i hmissing
    rw [hmain] at hmissing
    cases hmissing
  refine holds_pure (holds_bind (holds_operation (fun opened => ?_)
    (fun _ => (h.opened _ _).safe hmarked) (h.safe hmarked)))
  have hopened := h.opened (world.walLeft opened) (world.shmLeft opened)
  refine holds_bind (holds_ask (fun _ _ _ => ?_) fun _ _ hverify =>
    ⟨hopened.safe hmarked, .unverified hverify hopened hkept⟩)
  exact holds_bind (holds_operation (fun _ => holds_pure ⟨hopened.cleared, rfl⟩)
    (fun _ => hopened.cleared.unmarked rfl) (hopened.safe hmarked))

theorem recoverRestore_holds {m : MaintenanceMarker} (hm : env.marker = some m)
    (h : Safe V old m.operationId env) :
    Holds (recoverRestore world m) env
      (fun _ env' => Unmixed V old m.operationId env' ∧ env'.marker = none)
      fun failure env' => Safe V old m.operationId env' ∧
        Stopped world V old m.operationId env failure env' := by
  have hmarked : Marked m.operationId env := ⟨m, hm, h.marker m hm⟩
  unfold recoverRestore
  refine holds_bind (holds_look ?_)
  split
  · rename_i hmissing
    refine holds_bind (holds_look ?_)
    rcases h.phase with (huntouched | hinstalled) | hmoving
    · -- The environment had no database: the files stay, and recovery refuses.
      have hnone : env.active.main = none := by simpa using hmissing
      have hstaged := huntouched.staged (huntouched.active.main.symm.trans hnone)
      simp only [hstaged, Option.isSome_none, Bool.false_eq_true, if_false]
      refine holds_bind (holds_look ?_)
      simp only [huntouched.quarantine, noFiles, Option.isSome_none, Bool.false_eq_true, if_false]
      refine holds_bind (holds_look (holds_bind ?_))
      simp only [hnone, Option.isSome_none, throwIf, if_true]
      exact holds_refuse ⟨h, .missing⟩
    · obtain ⟨file, hfile, _⟩ := hinstalled.main
      rw [hfile] at hmissing
      cases hmissing
    · obtain ⟨file, hstaged, _⟩ := hmoving.staged
      simp only [hstaged, Option.isSome_some, if_true]
      refine holds_bind ((quarantineActiveRestoreSidecars_moving hmoving hmarked).mono ?_
        fun _ _ => id)
      rintro _ env' ⟨hmoved, hkept, hnone⟩
      have hmarked' := hmarked.of_eq hkept
      have hinstalled := hmoved.installed hnone
      refine holds_bind (holds_operation (fun _ => ?_) (fun _ => hinstalled.safe hmarked')
        (hmoved.safe hmarked'))
      obtain ⟨snapshot, hsnapshot, _⟩ := hinstalled.main
      exact verified_holds (.inr hinstalled) hmarked' hkept (by rw [hsnapshot]; rfl)
  · rename_i hmain
    have hunmixed : Unmixed V old m.operationId env := by
      rcases h.phase with h | hmoving
      · exact h
      · rw [hmoving.active] at hmain
        exact absurd rfl hmain
    exact verified_holds hunmixed hmarked rfl (by simpa [Option.isSome_iff_ne_none] using hmain)

theorem recoverEnvironment_holds {others : MaintenanceMarker → Maintain Bytes RecoveryStatus}
    {complete : Bool} (h : Safe V old operationId env) :
    Holds (recoverEnvironment world others complete) env
      (fun _ env' => Safe V old operationId env' ∧ (complete = true → env'.marker = none))
      fun failure env' => Safe V old operationId env' ∧
        Stopped world V old operationId env failure env' := by
  unfold recoverEnvironment
  refine holds_bind (holds_ask (fun _ _ _ => ?_) fun _ _ hfailure => ⟨h, .notOwned hfailure⟩)
  split
  · rename_i hcomplete
    refine holds_bind (holds_look ?_)
    split <;> exact holds_pure ⟨h, fun htrue => (nomatch hcomplete.symm.trans htrue)⟩
  · refine holds_bind (holds_ask (fun _ _ _ => ?_) fun _ _ hfailure => ⟨h, .notLocked hfailure⟩)
    refine holds_bind (holds_look ?_)
    split
    · rename_i hnone
      exact holds_pure ⟨h, fun _ => hnone⟩
    · rename_i m hm
      obtain ⟨htype, rfl⟩ := h.marker m hm
      simp only [htype]
      refine (recoverRestore_holds hm h).mono ?_ fun _ _ => id
      rintro _ env' ⟨hunmixed, hnone⟩
      exact ⟨hunmixed.unmarked hnone, fun _ => hnone⟩

/-- The environment after the recoveries, each in a world of its own. -/
def recoverAll (others : MaintenanceMarker → Maintain Bytes RecoveryStatus) :
    List (World Bytes × Bool) → Environment Bytes → Environment Bytes
  | [], env => env
  | (world, complete) :: runs, env =>
    recoverAll others runs (finalState (recoverEnvironment world others complete) ⟨0, env⟩).disk

theorem recoverAll_safe {others : MaintenanceMarker → Maintain Bytes RecoveryStatus}
    {runs : List (World Bytes × Bool)} (h : Safe V old operationId env) :
    Safe V old operationId (recoverAll others runs env) := by
  induction runs generalizing env with
  | nil => exact h
  | cons run runs ih =>
    have hrun : Holds (recoverEnvironment run.1 others run.2) env
        (fun _ env' => Safe V old operationId env') fun _ env' => Safe V old operationId env' :=
      (recoverEnvironment_holds h).mono (fun _ _ => And.left) fun _ _ => And.left
    exact ih (Holds.final hrun 0)

def oldFiles (main wal shm : Option Bytes) : FileSet Bytes where
  main := main.map (File.mk .old)
  wal := wal.map (File.mk .old)
  shm := shm.map (File.mk .old)

theorem oldFiles_old (main wal shm : Option Bytes) : OldFiles (oldFiles main wal shm) := by
  intro suffix file hfile
  cases suffix <;>
  · obtain ⟨bytes, _, rfl⟩ := Option.map_eq_some_iff.mp hfile
    rfl

/-- What a restore of the environment and the recoveries after it leave. -/
def restoreThenRecover (world : World Bytes) (paths : EnvironmentPaths)
    (contractVersion operationId backupId : String) (confirmed : Bool)
    (others : MaintenanceMarker → Maintain Bytes RecoveryStatus)
    (runs : List (World Bytes × Bool)) (env : Environment Bytes) : Environment Bytes :=
  recoverAll others runs
    (finalState (restoreEnvironment world paths contractVersion operationId backupId confirmed)
      ⟨0, env⟩).disk

/-- Each file of the old generation is active or in quarantine. -/
def Kept (old : FileSet Bytes) (operationId : String) (env : Environment Bytes) : Prop :=
  ∀ suffix file, old.get suffix = some file →
    env.active.get suffix = some file ∨ (env.quarantine operationId).get suffix = some file

theorem Safe.kept (h : Safe V old operationId env) : Kept old operationId env := by
  intro suffix file hfile
  rcases h.phase with (huntouched | hinstalled) | hmoving
  · exact .inl (huntouched.active.kept suffix file hfile)
  · exact .inr (hinstalled.quarantine.kept suffix file hfile)
  · obtain ⟨files, hgrown, hmain, hsplit⟩ := hmoving.split
    have hkept := hgrown.kept suffix file hfile
    by_cases hsuffix : suffix = .main
    · subst hsuffix
      exact .inr (hmain.trans hkept)
    · rcases hsplit suffix hsuffix with ⟨hactive, _⟩ | ⟨_, hquarantine⟩
      · exact .inl (hactive.trans hkept)
      · exact .inr (hquarantine.trans hkept)

/-- A world in which nothing crashes: every operation succeeds, the locks are
free, and the check of a database answers. -/
structure Calm (Bytes : Type) where
  world : World Bytes
  operation : ∀ turn, world.operation turn = .done
  verifyOwnedEnvironment : ∀ turn, world.verifyOwnedEnvironment turn = .ok ()
  acquireLocks : ∀ turn, world.acquireLocks turn = .ok ()
  verifyDatabase : ∀ turn files, world.verifyDatabase turn files ≠ .error .crash

/-- How a recovery in a calm world may refuse: the files are as they were, or are
one complete generation that does not pass its check. The marker stays. -/
def Refused (calm : Calm Bytes) (V : File Bytes → Prop) (old : FileSet Bytes)
    (operationId : String) (env : Environment Bytes) (failure : Failure String)
    (env' : Environment Bytes) : Prop :=
  (failure = .thrown "RECOVERY_REQUIRED: active database missing" ∧ env' = env) ∨
    ∃ turn message, failure = .thrown message ∧
      calm.world.verifyDatabase turn env'.active = .error (.thrown message) ∧
      env'.marker = env.marker ∧ Unmixed V old operationId env'

theorem Stopped.refused {calm : Calm Bytes} {failure : Failure String} {env' : Environment Bytes}
    (h : Stopped calm.world V old operationId env failure env') :
    Refused calm V old operationId env failure env' := by
  cases h with
  | operation _ h => exact absurd (calm.operation _) h
  | notOwned h => cases (calm.verifyOwnedEnvironment _).symm.trans h
  | notLocked h => cases (calm.acquireLocks _).symm.trans h
  | missing => exact .inl ⟨rfl, rfl⟩
  | unverified h hunmixed hkept =>
    cases failure with
    | crash => exact absurd h (calm.verifyDatabase _ _)
    | thrown message => exact .inr ⟨_, message, rfl, h, hkept, hunmixed⟩

theorem recoverEnvironment_calm (calm : Calm Bytes)
    {others : MaintenanceMarker → Maintain Bytes RecoveryStatus}
    (h : Safe V old operationId env) :
    Holds (recoverEnvironment calm.world others true) env
      (fun _ env' => env'.marker = none ∧ Unmixed V old operationId env')
      (Refused calm V old operationId env) := by
  refine (recoverEnvironment_holds h).mono ?_ fun _ _ hstopped => hstopped.2.refused
  rintro _ env' ⟨hsafe, hnone⟩
  exact ⟨hnone rfl, hsafe.unmarked (hnone rfl)⟩

/-- At each moment of a restore and of any recoveries (a run that ends in a crash
ends anywhere): without a marker the active set is one complete generation; no
old file is lost; and a recovery that is not disturbed reaches such a state, or
says why the files, whole as they are, cannot be accepted. -/
theorem restore_never_mixes (world : World Bytes) (paths : EnvironmentPaths)
    (contractVersion operationId backupId : String) (confirmed : Bool)
    (main wal shm : Option Bytes) (quarantine : String → FileSet Bytes)
    (staging : String → Option (File Bytes))
    (others : MaintenanceMarker → Maintain Bytes RecoveryStatus)
    (runs : List (World Bytes × Bool)) :
    let old := oldFiles main wal shm
    let env := restoreThenRecover world paths contractVersion operationId backupId confirmed others
      runs (idle old quarantine staging operationId)
    (env.marker = none → Unmixed (Verified world) old operationId env) ∧
    Kept old operationId env ∧
    ∀ calm : Calm Bytes, Holds (recoverEnvironment calm.world others true) env
      (fun _ env' => env'.marker = none ∧ Unmixed (Verified world) old operationId env')
      (Refused calm (Verified world) old operationId env) := by
  intro old env
  have hstart : Untouched old operationId (idle old quarantine staging operationId) :=
    idle_untouched (oldFiles_old main wal shm)
  have hsafe : Safe (Verified world) old operationId env :=
    recoverAll_safe (Holds.final (restoreEnvironment_safe hstart rfl) 0)
  exact ⟨hsafe.unmarked, hsafe.kept, fun calm => recoverEnvironment_calm calm hsafe⟩

/-- An environment whose own database no longer passes the check of the release,
asked to restore a backup: the process crashes after its first operation. -/
def behind (outcome : Outcome String) : World Unit where
  operation := fun _ => outcome
  verifyOwnedEnvironment := fun _ => .ok ()
  acquireLocks := fun _ => .ok ()
  verifyBackup := fun _ => .error (.thrown "BACKUP_INVALID")
  activeDeploymentId := fun _ _ => .ok "0x1"
  manifestDeploymentId := fun _ => .ok "0x1"
  assertActiveSidecarsMatchBackup := fun _ => .ok ()
  copied := fun _ => ()
  sha256 := fun _ => ""
  verifyDatabase := fun _ _ => .error (.thrown "DB_SCHEMA_BEHIND")
  walLeft := fun _ => none
  shmLeft := fun _ => none

/-- The recovery after it, undisturbed, neither completes nor reports
`RECOVERY_REQUIRED`: it throws the check's own error, and the marker stays. -/
theorem recovery_stays_behind :
    Ends (recoverEnvironment (behind .done) (fun m => pure (.actionRequired m)) true)
      ⟨0, restoreThenRecover (behind (.doneThen .crash)) ⟨"local", "motorcove.sqlite"⟩ "1" "r1" "b1"
        true (fun m => pure (.actionRequired m)) []
        (idle (oldFiles (some ()) none none) (fun _ => noFiles) (fun _ => none) "r1")⟩
      (fun _ _ => False)
      (fun failure m => failure = .thrown "DB_SCHEMA_BEHIND" ∧ m.disk.marker.isSome = true) :=
  ⟨rfl, rfl⟩

end MotorCove.Maintenance
