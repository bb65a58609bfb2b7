import MotorCove.Maintenance.Restore

/-!
# No restore mixes two generations

The files of a restore are always in one of three phases: nothing moved, main
moved and the snapshot still staged, or the snapshot installed over a complete
quarantine. Each rename of restore and of recovery leads from a phase to a
phase, and the marker is only cleared in the first and the last.
-/

set_option autoImplicit false

namespace MotorCove.Maintenance
open MotorCove.Crashes

variable {Bytes : Type}

def noFiles : FileSet Bytes := ⟨none, none, none⟩

/-- The old file set, with sidecars that SQLite may have added to it. -/
structure Grown (old files : FileSet Bytes) : Prop where
  main : files.main = old.main
  kept : ∀ suffix file, old.get suffix = some file → files.get suffix = some file
  generation : ∀ suffix file, files.get suffix = some file → file.generation = .old

/-- Nothing has moved: the active set is the old one. Nothing is staged for an
environment without a database. -/
structure Untouched (old : FileSet Bytes) (operationId : String) (env : Environment Bytes) :
    Prop where
  active : Grown old env.active
  quarantine : env.quarantine operationId = noFiles
  staged : old.main = none → env.staging operationId = none

/-- Main is in quarantine, each sidecar is here or there, the snapshot is staged. -/
structure Moving (V : File Bytes → Prop) (old : FileSet Bytes) (operationId : String)
    (env : Environment Bytes) : Prop where
  active : env.active.main = none
  split : ∃ files, Grown old files ∧ (env.quarantine operationId).main = files.main ∧
    ∀ suffix, suffix ≠ .main →
      (env.active.get suffix = files.get suffix ∧ (env.quarantine operationId).get suffix = none) ∨
      (env.active.get suffix = none ∧
        (env.quarantine operationId).get suffix = files.get suffix)
  staged : ∃ file, env.staging operationId = some file ∧ V file ∧ file.generation = .snapshot

/-- The snapshot is active without an old sidecar, the old set in quarantine. -/
structure Installed (V : File Bytes → Prop) (old : FileSet Bytes) (operationId : String)
    (env : Environment Bytes) : Prop where
  main : ∃ file, env.active.main = some file ∧ V file
  generation : ∀ suffix file, env.active.get suffix = some file → file.generation = .snapshot
  quarantine : Grown old (env.quarantine operationId)

def Unmixed (V : File Bytes → Prop) (old : FileSet Bytes) (operationId : String)
    (env : Environment Bytes) : Prop :=
  Untouched old operationId env ∨ Installed V old operationId env

structure Safe (V : File Bytes → Prop) (old : FileSet Bytes) (operationId : String)
    (env : Environment Bytes) : Prop where
  phase : Unmixed V old operationId env ∨ Moving V old operationId env
  marker : ∀ m, env.marker = some m → m.operationType = .restore ∧ m.operationId = operationId
  unmarked : env.marker = none → Unmixed V old operationId env

variable {V : File Bytes → Prop} {old : FileSet Bytes} {operationId : String}
  {env : Environment Bytes}

/-- Opening leaves each file that exists, and may add one of the same generation. -/
theorem opened_get (files : FileSet Bytes) (wal shm : Option Bytes) (suffix : Suffix) :
    ∃ left : Option Bytes, (files.opened wal shm).get suffix =
      (files.get suffix).or (left.map (File.mk files.generation)) := by
  cases suffix with
  | main => exact ⟨none, Option.or_none.symm⟩
  | wal => exact ⟨wal, rfl⟩
  | shm => exact ⟨shm, rfl⟩

/-- The old generation has a main file of its own, or none. -/
def OldFiles (old : FileSet Bytes) : Prop :=
  ∀ suffix file, old.get suffix = some file → file.generation = .old

theorem Grown.of_old (h : OldFiles old) : Grown old old := ⟨rfl, fun _ _ => id, h⟩

theorem Grown.is_old {files : FileSet Bytes} (h : Grown old files) : files.generation = .old := by
  unfold FileSet.generation
  cases hmain : files.main with
  | none => rfl
  | some file => exact h.generation .main file hmain

theorem Grown.opened {files : FileSet Bytes} (h : Grown old files) (wal shm : Option Bytes) :
    Grown old (files.opened wal shm) where
  main := h.main
  kept := by
    intro suffix file hfile
    obtain ⟨left, hleft⟩ := opened_get files wal shm suffix
    rw [hleft, h.kept suffix file hfile]
    rfl
  generation := by
    intro suffix file hfile
    obtain ⟨left, hleft⟩ := opened_get files wal shm suffix
    rw [hleft, Option.or_eq_some_iff] at hfile
    rcases hfile with hfile | ⟨_, hfile⟩
    · exact h.generation suffix file hfile
    · obtain ⟨bytes, _, rfl⟩ := Option.map_eq_some_iff.mp hfile
      exact h.is_old

theorem Installed.is_snapshot (h : Installed V old operationId env) :
    env.active.generation = .snapshot := by
  obtain ⟨file, hfile, _⟩ := h.main
  unfold FileSet.generation
  rw [hfile]
  exact h.generation .main file hfile

theorem Untouched.opened (h : Untouched old operationId env) (wal shm : Option Bytes) :
    Untouched old operationId { env with active := env.active.opened wal shm } :=
  ⟨h.active.opened wal shm, h.quarantine, h.staged⟩

theorem Installed.opened (h : Installed V old operationId env) (wal shm : Option Bytes) :
    Installed V old operationId { env with active := env.active.opened wal shm } where
  main := h.main
  generation := by
    intro suffix file hfile
    obtain ⟨left, hleft⟩ := opened_get env.active wal shm suffix
    rw [hleft, Option.or_eq_some_iff] at hfile
    rcases hfile with hfile | ⟨_, hfile⟩
    · exact h.generation suffix file hfile
    · obtain ⟨bytes, _, rfl⟩ := Option.map_eq_some_iff.mp hfile
      exact h.is_snapshot
  quarantine := h.quarantine

/-- A writing connection on the snapshot touches no old file: none is beside it. -/
theorem Installed.written (h : Installed V old operationId env) (wal shm : Option Bytes) :
    Installed V old operationId { env with active := env.active.written wal shm } where
  main := h.main
  generation := by
    intro suffix file hfile
    cases suffix with
    | main => exact h.generation .main file hfile
    | wal =>
      obtain ⟨bytes, _, rfl⟩ := Option.map_eq_some_iff.mp hfile
      exact h.is_snapshot
    | shm =>
      obtain ⟨bytes, _, rfl⟩ := Option.map_eq_some_iff.mp hfile
      exact h.is_snapshot
  quarantine := h.quarantine

theorem get_set_self (files : FileSet Bytes) (file : Option (File Bytes)) (suffix : Suffix) :
    (files.set file suffix).get suffix = file := by
  cases suffix <;> rfl

theorem get_set_of_ne (files : FileSet Bytes) (file : Option (File Bytes)) {suffix s : Suffix}
    (h : s ≠ suffix) : (files.set file suffix).get s = files.get s := by
  cases suffix <;> cases s <;> first | rfl | exact absurd rfl h

theorem Untouched.moved (h : Untouched old operationId env) {file : File Bytes}
    (hstaged : env.staging operationId = some file) (hfile : V file)
    (hgeneration : file.generation = .snapshot) :
    Moving V old operationId { env with
      active := env.active.set none .main
      quarantine := Function.update env.quarantine operationId
        ((env.quarantine operationId).set (env.active.get .main) .main) } where
  active := rfl
  split := by
    refine ⟨env.active, h.active, ?_, fun suffix hsuffix => .inl ⟨get_set_of_ne _ _ hsuffix, ?_⟩⟩
    · simp only [Function.update_self]
      rfl
    · simp only [Function.update_self]
      rw [get_set_of_ne _ _ hsuffix, h.quarantine]
      cases suffix <;> rfl
  staged := ⟨file, hstaged, hfile, hgeneration⟩

theorem Moving.moved (h : Moving V old operationId env) {suffix : Suffix} (hsuffix : suffix ≠ .main)
    {file : File Bytes} (hfile : env.active.get suffix = some file) :
    Moving V old operationId { env with
      active := env.active.set none suffix
      quarantine := Function.update env.quarantine operationId
        ((env.quarantine operationId).set (env.active.get suffix) suffix) } where
  active := by
    have hmain := get_set_of_ne env.active none hsuffix.symm
    exact hmain.trans h.active
  split := by
    obtain ⟨files, hgrown, hmain, hsplit⟩ := h.split
    refine ⟨files, hgrown, ?_, fun s hs => ?_⟩
    · simp only [Function.update_self]
      have hq := get_set_of_ne (env.quarantine operationId) (env.active.get suffix)
        hsuffix.symm
      exact hq.trans hmain
    · simp only [Function.update_self]
      by_cases hne : s = suffix
      · subst hne
        rw [get_set_self, get_set_self]
        rcases hsplit s hs with ⟨hactive, _⟩ | ⟨hactive, _⟩
        · exact .inr ⟨rfl, hactive⟩
        · rw [hfile] at hactive
          cases hactive
      · rw [get_set_of_ne _ _ hne, get_set_of_ne _ _ hne]
        exact hsplit s hs
  staged := h.staged

theorem Moving.installed (h : Moving V old operationId env)
    (hnone : ∀ suffix, env.active.get suffix = none) :
    Installed V old operationId { env with
      active := { env.active with main := env.staging operationId }
      staging := Function.update env.staging operationId none } where
  main := by
    obtain ⟨file, hstaged, hfile, _⟩ := h.staged
    exact ⟨file, hstaged, hfile⟩
  generation := by
    intro suffix file hfile
    obtain ⟨snapshot, hstaged, _, hgeneration⟩ := h.staged
    cases suffix with
    | main =>
      obtain rfl := Option.some.inj (hstaged.symm.trans hfile)
      exact hgeneration
    | wal => cases (hnone .wal).symm.trans hfile
    | shm => cases (hnone .shm).symm.trans hfile
  quarantine := by
    obtain ⟨files, hgrown, hmain, hsplit⟩ := h.split
    have hsame : env.quarantine operationId = files := by
      have hget : ∀ suffix, suffix ≠ .main →
          (env.quarantine operationId).get suffix = files.get suffix := by
        intro suffix hsuffix
        rcases hsplit suffix hsuffix with ⟨hactive, hq⟩ | ⟨_, hq⟩
        · rw [hq, ← hactive, hnone]
        · exact hq
      have hwal := hget .wal (by decide)
      have hshm := hget .shm (by decide)
      cases hq : env.quarantine operationId
      cases files
      simp only [hq, FileSet.get] at hmain hwal hshm
      simp only [hmain, hwal, hshm]
    exact hsame ▸ hgrown

def Marked (operationId : String) (env : Environment Bytes) : Prop :=
  ∃ m, env.marker = some m ∧ m.operationType = .restore ∧ m.operationId = operationId

theorem Marked.of_eq {env' : Environment Bytes} (h : Marked operationId env)
    (hkept : env'.marker = env.marker) : Marked operationId env' := by
  obtain ⟨m, hm, howner⟩ := h
  exact ⟨m, hkept.trans hm, howner⟩

theorem Marked.owner (h : Marked operationId env) :
    ∀ m, env.marker = some m → m.operationType = .restore ∧ m.operationId = operationId := by
  obtain ⟨m, hm, howner⟩ := h
  intro m' hm'
  obtain rfl := Option.some.inj (hm.symm.trans hm')
  exact howner

theorem Unmixed.safe (h : Unmixed V old operationId env) (hmarked : Marked operationId env) :
    Safe V old operationId env :=
  ⟨.inl h, hmarked.owner, fun _ => h⟩

theorem Untouched.safe (h : Untouched old operationId env) (hmarked : Marked operationId env) :
    Safe V old operationId env :=
  Unmixed.safe (.inl h) hmarked

theorem Installed.safe (h : Installed V old operationId env) (hmarked : Marked operationId env) :
    Safe V old operationId env :=
  Unmixed.safe (.inr h) hmarked

theorem Moving.safe (h : Moving V old operationId env) (hmarked : Marked operationId env) :
    Safe V old operationId env := by
  refine ⟨.inr h, hmarked.owner, fun hnone => ?_⟩
  obtain ⟨m, hm, _⟩ := hmarked
  cases hnone.symm.trans hm

theorem Unmixed.unmarked (h : Unmixed V old operationId env) (hnone : env.marker = none) :
    Safe V old operationId env :=
  ⟨.inl h, fun _ hm => (nomatch hnone.symm.trans hm), fun _ => h⟩

theorem holds_throwIf {c : Prop} [Decidable c] {message : String}
    {P : Unit → Environment Bytes → Prop} {E : Failure String → Environment Bytes → Prop}
    (h : ¬c → P () env) (hE : E (.thrown message) env) : Holds (throwIf c message) env P E := by
  unfold throwIf
  split
  · exact holds_refuse hE
  · rename_i hc
    exact holds_pure (h hc)

section
variable (world : World Bytes)

def Verified (file : File Bytes) : Prop :=
  (∃ turn backup, world.verifyBackup turn = .ok backup ∧
    world.sha256 file.bytes = backup.databaseSha256) ∧
  ∃ turn, world.verifyDatabase turn ⟨some file, none, none⟩ = .ok ()

variable {world}

theorem holds_keeps {I : Environment Bytes → Prop} {outcome : ℕ → Outcome String}
    {change : ℕ → Environment Bytes → Environment Bytes} (h : I env)
    (hmarked : Marked operationId env) (hchange : ∀ turn, I (change turn env))
    (hmarker : ∀ turn, (change turn env).marker = env.marker)
    (hsafe : ∀ env, I env → Marked operationId env → Safe V old operationId env) :
    Holds (act outcome change) env (fun _ env' => I env' ∧ Marked operationId env')
      fun _ env' => Safe V old operationId env' := by
  have hmarked' : ∀ turn, Marked operationId (change turn env) := by
    intro turn
    obtain ⟨m, hm, howner⟩ := hmarked
    exact ⟨m, (hmarker turn).trans hm, howner⟩
  exact holds_act_of (fun turn => ⟨hchange turn, hmarked' turn⟩)
    (fun turn _ => hsafe _ (hchange turn) (hmarked' turn)) fun _ => hsafe _ h hmarked

theorem quarantineActive_moving (h : Moving V old operationId env)
    (hmarked : Marked operationId env) {suffix : Suffix} (hsuffix : suffix ≠ .main) :
    Holds (quarantineActive world operationId suffix) env
      (fun _ env' => Moving V old operationId env' ∧ Marked operationId env' ∧
        env'.active.get suffix = none ∧
        ∀ s, s ≠ suffix → env'.active.get s = env.active.get s)
      fun _ env' => Safe V old operationId env' := by
  refine holds_bind (holds_look ?_)
  split
  · rename_i hsome
    obtain ⟨file, hfile⟩ := Option.isSome_iff_exists.mp hsome
    have hmoved := h.moved hsuffix hfile
    refine holds_act_of (fun _ => ⟨hmoved, hmarked, get_set_self .., fun s hs => get_set_of_ne _ _ hs⟩)
      (fun _ _ => hmoved.safe hmarked) fun _ => h.safe hmarked
  · rename_i hnone
    refine holds_pure ⟨h, hmarked, ?_, fun _ _ => rfl⟩
    simpa using hnone

theorem writeMarker_safe {m : MaintenanceMarker} (hm : m.operationType = .restore)
    (hid : m.operationId = operationId) {I : Environment Bytes → Prop} (h : I env)
    (hmarked : Marked operationId env)
    (hmarker : ∀ env m, I env → I { env with marker := some m })
    (hsafe : ∀ env, I env → Marked operationId env → Safe V old operationId env) :
    Holds (writeMaintenanceMarker world m) env
      (fun _ env' => env' = { env with marker := some m } ∧ I env' ∧ Marked operationId env')
      fun _ env' => Safe V old operationId env' := by
  have hnew : Marked operationId { env with marker := some m } := ⟨m, rfl, hm, hid⟩
  exact holds_act_of (fun _ => ⟨rfl, hmarker env m h, hnew⟩)
    (fun _ _ => hsafe _ (hmarker env m h) hnew) fun _ => hsafe _ h hmarked

theorem install_safe {m : MaintenanceMarker} (hm : m.operationType = .restore)
    (h : Moving V old m.operationId env) (hmarked : Marked m.operationId env) :
    Holds (do
      quarantineActive world m.operationId .wal
      quarantineActive world m.operationId .shm
      writeMaintenanceMarker world { m with stage := .installingSnapshot }
      installStaged world m.operationId
      removeStaging world m.operationId
      writeActive world
      ask fun turn env => world.verifyDatabase turn env.active
      clearMaintenanceMarker world) env
      (fun _ env' => Safe V old m.operationId env') fun _ env' => Safe V old m.operationId env' := by
  refine holds_bind ((quarantineActive_moving h hmarked (by decide)).mono ?_ fun _ _ => id)
  rintro _ env₁ ⟨h₁, hmarked₁, hwal, _⟩
  refine holds_bind ((quarantineActive_moving h₁ hmarked₁ (by decide)).mono ?_ fun _ _ => id)
  rintro _ env₂ ⟨h₂, hmarked₂, hshm, hother⟩
  have hnone : ∀ suffix, env₂.active.get suffix = none := by
    intro suffix
    cases suffix with
    | main => exact h₂.active
    | wal => exact (hother .wal (by decide)).trans hwal
    | shm => exact hshm
  refine holds_bind ((writeMarker_safe (m := { m with stage := .installingSnapshot })
    (I := Moving V old m.operationId) hm rfl h₂ hmarked₂
    (fun _ _ h => ⟨h.active, h.split, h.staged⟩) fun _ h hmarked => h.safe hmarked).mono ?_
      fun _ _ => id)
  rintro _ _ ⟨rfl, h₃, hmarked₃⟩
  have hinstalled := h₃.installed hnone
  have hsafe : ∀ env, Installed V old m.operationId env → Marked m.operationId env →
      Safe V old m.operationId env := fun _ h hmarked => h.safe hmarked
  refine holds_bind (holds_act_of (fun _ => ?_) (fun _ _ => hsafe _ hinstalled hmarked₃)
    fun _ => h₃.safe hmarked₃)
  refine holds_bind ((holds_keeps hinstalled hmarked₃ (fun _ =>
    ⟨hinstalled.main, hinstalled.generation, hinstalled.quarantine⟩) (fun _ => rfl) hsafe).mono ?_
      fun _ _ => id)
  rintro _ env₄ ⟨h₄, hmarked₄⟩
  refine holds_bind ((holds_keeps h₄ hmarked₄ (fun _ => h₄.written _ _) (fun _ => rfl) hsafe).mono ?_
    fun _ _ => id)
  rintro _ env₅ ⟨h₅, hmarked₅⟩
  refine holds_bind (holds_ask (fun _ _ _ => ?_) fun _ _ _ => h₅.safe hmarked₅)
  have hcleared : Safe V old m.operationId { env₅ with marker := none } :=
    Unmixed.unmarked (.inr ⟨h₅.main, h₅.generation, h₅.quarantine⟩) rfl
  exact holds_act_of (fun _ => hcleared) (fun _ _ => hcleared) fun _ => h₅.safe hmarked₅

theorem swap_safe {m : MaintenanceMarker} (hm : m.operationType = .restore)
    (h : Untouched old m.operationId env) (hmarked : Marked m.operationId env)
    (hinitialised : env.active.main ≠ none) {file : File Bytes}
    (hstaged : env.staging m.operationId = some file) (hfile : Verified world file)
    (hgeneration : file.generation = .snapshot) :
    Holds (do
      writeMaintenanceMarker world { m with stage := .activeQuarantined }
      makeDirectory world
      quarantineActive world m.operationId .main
      quarantineActive world m.operationId .wal
      quarantineActive world m.operationId .shm
      writeMaintenanceMarker world { m with stage := .installingSnapshot }
      installStaged world m.operationId
      removeStaging world m.operationId
      writeActive world
      ask fun turn env => world.verifyDatabase turn env.active
      clearMaintenanceMarker world) env
      (fun _ env' => Safe (Verified world) old m.operationId env')
      fun _ env' => Safe (Verified world) old m.operationId env' := by
  have hsafe : ∀ env, Untouched old m.operationId env → Marked m.operationId env →
      Safe (Verified world) old m.operationId env := fun _ h hmarked => h.safe hmarked
  refine holds_bind ((writeMarker_safe (m := { m with stage := .activeQuarantined })
    (I := Untouched old m.operationId) hm rfl h hmarked
    (fun _ _ h => ⟨h.active, h.quarantine, h.staged⟩) hsafe).mono ?_ fun _ _ => id)
  rintro _ _ ⟨rfl, h₁, hmarked₁⟩
  refine holds_bind (holds_act_of (fun _ => ?_) (fun _ _ => h₁.safe hmarked₁)
    fun _ => h₁.safe hmarked₁)
  refine holds_bind (holds_bind (holds_look ?_))
  have hmoved := h₁.moved (V := Verified world) hstaged hfile hgeneration
  split
  · exact holds_act_of (fun _ => install_safe hm hmoved hmarked₁)
      (fun _ _ => hmoved.safe hmarked₁) fun _ => h₁.safe hmarked₁
  · rename_i hnone
    exact absurd (by simpa [FileSet.get] using hnone) hinitialised

theorem holds_ask_of {γ : Type} {answer : ℕ → Environment Bytes → Except (Failure String) γ}
    {P : γ → Environment Bytes → Prop} {Q : Environment Bytes → Prop}
    (h : ∀ turn a, answer turn env = .ok a → P a env) (hsafe : Q env) :
    Holds (ask answer) env P fun _ => Q :=
  holds_ask h fun _ _ _ => hsafe

theorem restoreOwned_safe {m : MaintenanceMarker} (hm : m.operationType = .restore)
    (h : Untouched old m.operationId env) (hmarked : Marked m.operationId env) :
    Holds (restoreOwned world m) env (fun _ env' => Safe (Verified world) old m.operationId env')
      fun _ env' => Safe (Verified world) old m.operationId env' := by
  have hsafe : ∀ env, Untouched old m.operationId env → Marked m.operationId env →
      Safe (Verified world) old m.operationId env := fun _ h hmarked => h.safe hmarked
  unfold restoreOwned
  refine holds_bind (holds_ask_of (fun turn backup hbackup => ?_) (hsafe _ h hmarked))
  refine holds_bind (holds_throwIf (fun _ => ?_) (hsafe _ h hmarked))
  refine holds_bind (holds_throwIf (fun _ => ?_) (hsafe _ h hmarked))
  refine holds_bind (holds_look ?_)
  refine holds_bind (holds_throwIf (fun hmain => ?_) (hsafe _ h hmarked))
  have hinitialised : env.active.main ≠ none := by
    intro hnone
    rw [hnone] at hmain
    exact hmain rfl
  refine holds_bind ((holds_keeps (I := fun env' => Untouched old m.operationId env' ∧
    env'.active.main ≠ none) ⟨h, hinitialised⟩ hmarked (fun _ => ⟨h.opened _ _, hinitialised⟩)
    (fun _ => rfl) fun _ h hmarked => hsafe _ h.1 hmarked).mono ?_ fun _ _ => id)
  rintro _ env₁ ⟨⟨h₁, hinitialised₁⟩, hmarked₁⟩
  refine holds_bind (holds_ask_of (fun _ activeId _ => ?_) (hsafe _ h₁ hmarked₁))
  refine holds_bind (holds_ask_of (fun _ manifestId _ => ?_) (hsafe _ h₁ hmarked₁))
  refine holds_bind (holds_throwIf (fun _ => ?_) (hsafe _ h₁ hmarked₁))
  refine holds_bind (holds_ask_of (fun _ _ _ => ?_) (hsafe _ h₁ hmarked₁))
  refine holds_bind (holds_act_of (fun _ => ?_) (fun _ _ => hsafe _ h₁ hmarked₁)
    fun _ => hsafe _ h₁ hmarked₁)
  have hold : old.main ≠ none := fun hnone => hinitialised₁ (h₁.active.main.trans hnone)
  have hcopied : ∀ turn, Untouched old m.operationId { env₁ with
      staging := Function.update env₁.staging m.operationId
        (some ⟨.snapshot, world.copied turn⟩) } :=
    fun _ => ⟨h₁.active, h₁.quarantine, fun hnone => absurd hnone hold⟩
  refine holds_bind (holds_act_of (fun copied => ?_)
    (fun copied _ => hsafe _ (hcopied copied) hmarked₁) fun _ => hsafe _ h₁ hmarked₁)
  refine holds_bind (holds_look ?_)
  simp only [Function.update_self]
  refine holds_bind (holds_throwIf (fun hsha => ?_) (hsafe _ (hcopied copied) hmarked₁))
  refine holds_bind (holds_attempt (holds_ask (fun verified _ hverified => ?_)
    fun _ failure _ => caught_of (hsafe _ (hcopied copied) hmarked₁) (fun message => ?_) failure))
  · have hfile : Verified world ⟨.snapshot, world.copied copied⟩ :=
      ⟨⟨turn, backup, hbackup, by simpa using hsha⟩, verified, hverified⟩
    exact swap_safe hm (hcopied copied) hmarked₁ hinitialised₁
      (by simp only [Function.update_self]) hfile rfl
  · split
    · exact holds_refuse (hsafe _ (hcopied copied) hmarked₁)
    · exact holds_refuse (hsafe _ (hcopied copied) hmarked₁)

/-- The environment before a restore whose identity is new: its directories do
not exist yet. -/
def idle (files : FileSet Bytes) (quarantine : String → FileSet Bytes)
    (staging : String → Option (File Bytes)) (operationId : String) : Environment Bytes where
  active := files
  quarantine := Function.update quarantine operationId noFiles
  staging := Function.update staging operationId none
  marker := none

theorem idle_untouched (hold : OldFiles old) {quarantine : String → FileSet Bytes}
    {staging : String → Option (File Bytes)} :
    Untouched old operationId (idle old quarantine staging operationId) where
  active := Grown.of_old hold
  quarantine := by simp only [idle, Function.update_self]
  staged := fun _ => by simp only [idle, Function.update_self]

theorem Safe.remarked {m : MaintenanceMarker} (h : Safe V old operationId env)
    (hm : m.operationType = .restore) (hid : m.operationId = operationId) :
    Safe V old operationId { env with marker := some m } where
  phase := by
    rcases h.phase with (h | h) | h
    · exact .inl (.inl ⟨h.active, h.quarantine, h.staged⟩)
    · exact .inl (.inr ⟨h.main, h.generation, h.quarantine⟩)
    · exact .inr ⟨h.active, h.split, h.staged⟩
  marker := by
    intro m' hm'
    obtain rfl := Option.some.inj hm'
    exact ⟨hm, hid⟩
  unmarked := fun hnone => (nomatch hnone)

theorem restoreEnvironment_safe {paths : EnvironmentPaths}
    {contractVersion backupId : String} {confirmed : Bool}
    (h : Untouched old operationId env) (hnone : env.marker = none) :
    Holds (restoreEnvironment world paths contractVersion operationId backupId confirmed) env
      (fun _ env' => Safe (Verified world) old operationId env')
      fun _ env' => Safe (Verified world) old operationId env' := by
  have hsafe : Safe (Verified world) old operationId env := Unmixed.unmarked (.inl h) hnone
  unfold restoreEnvironment
  refine holds_bind (holds_throwIf (fun _ => ?_) hsafe)
  refine holds_bind (holds_ask_of (fun _ _ _ => ?_) hsafe)
  refine holds_bind (holds_ask_of (fun _ _ _ => ?_) hsafe)
  refine holds_bind (holds_look ?_)
  refine holds_bind (holds_throwIf (fun _ => ?_) hsafe)
  have hmarked : Marked operationId { env with
      marker := some (restoreMarker paths contractVersion operationId backupId) } :=
    ⟨_, rfl, rfl, rfl⟩
  have hprepared : Untouched old operationId { env with
      marker := some (restoreMarker paths contractVersion operationId backupId) } :=
    ⟨h.active, h.quarantine, h.staged⟩
  refine holds_bind (holds_act_of (fun _ => ?_) (fun _ _ => hprepared.safe hmarked) fun _ => hsafe)
  refine holds_attempt ((restoreOwned_safe (m := restoreMarker paths contractVersion operationId
    backupId) rfl hprepared hmarked).mono (fun _ _ => id) fun failure env' h' =>
      caught_of h' (fun message => ?_) failure)
  refine holds_bind (holds_look ?_)
  split
  · exact holds_bind (holds_act_of (fun _ => holds_refuse (h'.remarked rfl rfl))
      (fun _ _ => h'.remarked rfl rfl) fun _ => h')
  · exact holds_bind (holds_pure (holds_refuse h'))

end

end MotorCove.Maintenance
