import Mathlib.Data.Nat.Notation
import Mathlib.Logic.Function.Basic
import MotorCove.Histories

/-!
# Programs that wait

An asynchronous program runs without interruption until it waits for an answer.
What it does between two awaits is one act on the state; while it waits, other
programs act. A desk is the part of the state that the programs of one place
share, and it is lost when that place closes. A program keeps its promises when
each of its acts does, whatever the others, who keep theirs, did before it.
Nothing here depends on the states, the requests or the programs.
-/

set_option autoImplicit false

namespace MotorCove.Asynchrony
open MotorCove.Histories

/-- A program up to its end: `sync` acts at once, with what the moment gives,
and `await` lets others act until the answer is there. -/
inductive Async {Req : Type} (Ans : Req → Type) (ε μ σ α : Type) : Type where
  | done (a : α)
  | fail (error : ε)
  | sync (change : μ → σ → σ) (next : μ → σ → Async Ans ε μ σ α)
  | await (request : Req) (next : Ans request → Async Ans ε μ σ α)

namespace Async
variable {Req : Type} {Ans : Req → Type} {ε μ σ α β γ : Type}

def andThen : Async Ans ε μ σ α → (α → Async Ans ε μ σ β) → Async Ans ε μ σ β
  | .done a, f => f a
  | .fail error, _ => .fail error
  | .sync change next, f => .sync change fun m s => (next m s).andThen f
  | .await request next, f => .await request fun answer => (next answer).andThen f

/-- `try`/`catch`, over all that the program awaits. -/
def orElse : Async Ans ε μ σ α → (ε → Async Ans ε μ σ α) → Async Ans ε μ σ α
  | .done a, _ => .done a
  | .fail error, handle => handle error
  | .sync change next, handle => .sync change fun m s => (next m s).orElse handle
  | .await request next, handle => .await request fun answer => (next answer).orElse handle

instance : Monad (Async Ans ε μ σ) where
  pure := .done
  bind := andThen

instance : MonadExceptOf ε (Async Ans ε μ σ) where
  throw := .fail
  tryCatch := orElse

def access (f : μ → σ → α × σ) : Async Ans ε μ σ α :=
  .sync (fun m s => (f m s).2) fun m s => .done (f m s).1

/-- The same for an act that may throw after what it has changed. -/
def attempt (f : μ → σ → Except ε α × σ) : Async Ans ε μ σ α :=
  .sync (fun m s => (f m s).2) fun m s =>
    match (f m s).1 with
    | .ok a => .done a
    | .error error => .fail error

def request (r : Req) : Async Ans ε μ σ (Ans r) := .await r .done

/-- The outcome of an asynchronous function is seen only after an await. -/
def awaited (r : Req) (x : Async Ans ε μ σ α) : Async Ans ε μ σ α :=
  tryCatch (x >>= fun a => request r >>= fun _ => pure a) fun error =>
    request r >>= fun _ => throw error

/-- `try`/`catch` that hands on what was thrown. -/
def caught (x : Async Ans ε μ σ α) : Async Ans ε μ σ (Except ε α) :=
  tryCatch (x >>= fun a => pure (.ok a)) fun error => pure (.error error)

def advance (moments : ℕ → μ) : Async Ans ε μ σ α → σ → Async Ans ε μ σ α × σ
  | .done a, s => (.done a, s)
  | .fail error, s => (.fail error, s)
  | .sync change next, s =>
    (next (moments 0) s).advance (fun n => moments (n + 1)) (change (moments 0) s)
  | .await r next, s => (.await r next, s)

end Async

/-- What the answers and the moments may be. -/
structure Surroundings {Req : Type} (Ans : Req → Type) (μ : Type) where
  answers : ∀ r, Ans r → Prop
  moments : μ → Prop

section
variable {Req : Type} {Ans : Req → Type} {ε μ σ α β : Type}

open Async

/-- Every act of the program, from the state at its start to the program and
the state at its end, is as promised, whatever the others do within `R` while
the program waits. -/
def Keeps (E : Surroundings Ans μ) (R : σ → σ → Prop) (P : Async Ans ε μ σ α → σ → σ → Prop) :
    Async Ans ε μ σ α → σ → σ → Prop
  | .done a, start, s => P (.done a) start s
  | .fail error, start, s => P (.fail error) start s
  | .sync change next, start, s => ∀ m, E.moments m → Keeps E R P (next m s) start (change m s)
  | .await r next, start, s => P (.await r next) start s ∧
    ∀ s', R s s' → ∀ answer, E.answers r answer → Keeps E R P (next answer) s' s'

/-- A program at rest keeps the promise from its next act on. -/
def Waits (E : Surroundings Ans μ) (R : σ → σ → Prop) (P : Async Ans ε μ σ α → σ → σ → Prop) :
    Async Ans ε μ σ α → σ → Prop
  | .await r next, s => ∀ s', R s s' → ∀ answer, E.answers r answer →
    Keeps E R P (next answer) s' s'
  | _, _ => True

variable {E : Surroundings Ans μ} {R : σ → σ → Prop} {P P' : Async Ans ε μ σ α → σ → σ → Prop}
  {x : Async Ans ε μ σ α} {start s : σ}

theorem Keeps.mono (h : Keeps E R P x start s)
    (hP : ∀ x start s, P x start s → P' x start s) : Keeps E R P' x start s := by
  induction x generalizing start s with
  | done a => exact hP _ _ _ h
  | fail error => exact hP _ _ _ h
  | sync change next ih => exact fun m hm => ih m s (h m hm)
  | await r next ih =>
    exact ⟨hP _ _ _ h.1, fun s' hs' answer hanswer => ih answer (h.2 s' hs' answer hanswer)⟩

theorem Waits.mono (h : Waits E R P x s) (hP : ∀ x start s, P x start s → P' x start s) :
    Waits E R P' x s := by
  cases x with
  | await r next => exact fun s' hs' answer hanswer => (h s' hs' answer hanswer).mono hP
  | done a => trivial
  | fail error => trivial
  | sync change next => trivial

theorem Waits.stable (hR : ∀ a b c, R a b → R b c → R a c) (h : Waits E R P x s) {s' : σ}
    (hs' : R s s') : Waits E R P x s' := by
  cases x with
  | await r next => exact fun s'' hs'' => h s'' (hR _ _ _ hs' hs'')
  | done a => trivial
  | fail error => trivial
  | sync change next => trivial

theorem Keeps.advance (h : Keeps E R P x start s) {moments : ℕ → μ}
    (hmoments : ∀ n, E.moments (moments n)) :
    P (x.advance moments s).1 start (x.advance moments s).2 ∧
      Waits E R P (x.advance moments s).1 (x.advance moments s).2 := by
  induction x generalizing s moments with
  | done a => exact ⟨h, trivial⟩
  | fail error => exact ⟨h, trivial⟩
  | sync change next ih => exact ih _ s (h _ (hmoments 0)) fun n => hmoments (n + 1)
  | await r next => exact h

end

variable {Req : Type} {Ans : Req → Type} {ε μ σ τ α π ι : Type}

/-- The shared state, the desks, and what is left of each program. -/
structure World {Req : Type} (Ans : Req → Type) (ε μ σ τ α π ι : Type) where
  shared : σ
  desk : ι → τ
  left : π → Async Ans ε μ (σ × τ) α
  isOpen : ι → Bool

structure System {Req : Type} (Ans : Req → Type) (μ σ π ι : Type) extends
    Surroundings Ans μ where
  home : π → ι
  /-- What the shared state loses when a place closes. -/
  onClose : ι → σ → σ

inductive Act (π ι : Type) where
  | resume (p : π)
  | close (i : ι)

section
variable [DecidableEq π] [DecidableEq ι] (S : System Ans μ σ π ι)

/-- What a program sees. -/
def World.view (w : World Ans ε μ σ τ α π ι) (p : π) : σ × τ := (w.shared, w.desk (S.home p))

def World.resumed (w : World Ans ε μ σ τ α π ι) (p : π)
    (stop : Async Ans ε μ (σ × τ) α × σ × τ) : World Ans ε μ σ τ α π ι :=
  { w with
    shared := stop.2.1
    desk := Function.update w.desk (S.home p) stop.2.2
    left := Function.update w.left p stop.1 }

inductive Step : World Ans ε μ σ τ α π ι → Act π ι → World Ans ε μ σ τ α π ι → Prop where
  | resume {w : World Ans ε μ σ τ α π ι} {p : π} {r : Req}
      {next : Ans r → Async Ans ε μ (σ × τ) α} (hopen : w.isOpen (S.home p) = true)
      (hleft : w.left p = .await r next) (answer : Ans r) (hanswer : S.answers r answer)
      (moments : ℕ → μ) (hmoments : ∀ n, S.moments (moments n)) :
      Step w (.resume p) (w.resumed S p ((next answer).advance moments (w.view S p)))
  | close (w : World Ans ε μ σ τ α π ι) (i : ι) :
      Step w (.close i) { w with
        shared := S.onClose i w.shared
        isOpen := Function.update w.isOpen i false }

theorem Step.desk_of_ne {S : System Ans μ σ π ι} {w w' : World Ans ε μ σ τ α π ι} {p : π}
    (h : Step S w (.resume p) w') {i : ι} (hi : i ≠ S.home p) : w'.desk i = w.desk i := by
  cases h
  simp [World.resumed, hi]

/-- What each program relies on and promises. -/
structure Contract (S : System Ans μ σ π ι) (ε τ α : Type) where
  rely : π → σ × τ → σ × τ → Prop
  promises : π → Async Ans ε μ (σ × τ) α → σ × τ → σ × τ → Prop
  refl : ∀ p a, rely p a a
  trans : ∀ p a b c, rely p a b → rely p b c → rely p a c
  /-- An act at the same desk is within what the others there rely on. -/
  near : ∀ p q, p ≠ q → S.home p = S.home q → ∀ x a b, promises p x a b → rely q a b
  /-- An act at another desk shows only in the shared state. -/
  far : ∀ p q, S.home p ≠ S.home q → ∀ x a b, promises p x a b →
    ∀ d, rely q (a.1, d) (b.1, d)
  close : ∀ i q, i ≠ S.home q → ∀ a, rely q a (S.onClose i a.1, a.2)

variable {S} (C : Contract S ε τ α)

/-- Every program that can still act waits for what it relies on. -/
def Contract.Holds (w : World Ans ε μ σ τ α π ι) : Prop :=
  ∀ p, w.isOpen (S.home p) = true → Waits S.toSurroundings (C.rely p) (C.promises p) (w.left p)
    (w.view S p)

variable {C} {w w' : World Ans ε μ σ τ α π ι}

theorem World.view_resumed_self (p : π) (stop : Async Ans ε μ (σ × τ) α × σ × τ) :
    (w.resumed S p stop).view S p = stop.2 := by
  simp [World.view, World.resumed]

theorem World.left_resumed_self (p : π) (stop : Async Ans ε μ (σ × τ) α × σ × τ) :
    (w.resumed S p stop).left p = stop.1 := by
  simp [World.resumed]

theorem World.view_resumed_near {p q : π} (h : S.home q = S.home p)
    (stop : Async Ans ε μ (σ × τ) α × σ × τ) : (w.resumed S p stop).view S q = stop.2 := by
  simp [World.view, World.resumed, h]

theorem World.view_resumed_far {p q : π} (h : S.home q ≠ S.home p)
    (stop : Async Ans ε μ (σ × τ) α × σ × τ) :
    (w.resumed S p stop).view S q = (stop.2.1, w.desk (S.home q)) := by
  simp [World.view, World.resumed, h]

theorem World.left_resumed_of_ne {p q : π} (h : q ≠ p) (stop : Async Ans ε μ (σ × τ) α × σ × τ) :
    (w.resumed S p stop).left q = w.left q := by
  simp [World.resumed, h]

theorem Contract.others {p q : π} (hne : q ≠ p) {stop : Async Ans ε μ (σ × τ) α × σ × τ}
    (hp : C.promises p stop.1 (w.view S p) stop.2) :
    C.rely q (w.view S q) ((w.resumed S p stop).view S q) := by
  by_cases hhome : S.home q = S.home p
  · have hview : w.view S q = w.view S p := by simp [World.view, hhome]
    rw [World.view_resumed_near hhome, hview]
    exact C.near p q (Ne.symm hne) hhome.symm _ _ _ hp
  · rw [World.view_resumed_far hhome]
    exact C.far p q (Ne.symm hhome) _ _ _ hp _

theorem Contract.Holds.step (h : C.Holds w) {act : Act π ι} (hstep : Step S w act w') :
    C.Holds w' ∧ ∀ p, act = .resume p → C.promises p (w'.left p) (w.view S p) (w'.view S p) := by
  cases hstep with
  | @resume p r next hopen hleft answer hanswer moments hmoments =>
    have hp := h p hopen
    rw [hleft] at hp
    obtain ⟨hact, hrest⟩ := (hp _ (C.refl p _) answer hanswer).advance hmoments
    constructor
    · intro q hq
      by_cases hqp : q = p
      · subst hqp
        rw [World.left_resumed_self, World.view_resumed_self]
        exact hrest
      · rw [World.left_resumed_of_ne hqp]
        exact (h q hq).stable (C.trans q) (C.others hqp hact)
    · rintro q ⟨⟩
      rw [World.left_resumed_self, World.view_resumed_self]
      exact hact
  | close i =>
    constructor
    · intro q hq
      by_cases hi : S.home q = i
      · simp [hi] at hq
      · have hopen : w.isOpen (S.home q) = true := by simpa [hi] using hq
        exact (h q hopen).stable (C.trans q) (C.close i q (Ne.symm hi) _)
    · rintro q ⟨⟩

/-- The contract stays in force over a whole run, and every act of the run is
as promised. -/
theorem Contract.Holds.run (h : C.Holds w) {history : List (Transition _ _)}
    (hrun : IsHistory (Step S) w history w') :
    C.Holds w' ∧ ∀ t ∈ history, C.Holds t.before ∧
      ∀ p, t.label = .resume p → C.promises p (t.after.left p) (t.before.view S p)
        (t.after.view S p) := by
  induction history generalizing w with
  | nil =>
    obtain rfl := hrun
    exact ⟨h, fun t ht => absurd ht List.not_mem_nil⟩
  | cons t rest ih =>
    obtain ⟨rfl, hstep, hrest⟩ := hrun
    obtain ⟨hnext, hact⟩ := h.step hstep
    obtain ⟨hlast, hall⟩ := ih hnext hrest
    refine ⟨hlast, fun t' ht' => ?_⟩
    rcases List.mem_cons.mp ht' with rfl | ht'
    · exact ⟨h, hact⟩
    · exact hall t' ht'

end

section
variable [DecidableEq π] [DecidableEq ι] (S : System Ans μ σ π ι) (ports : ∀ r, Ans r)
  (moments : ℕ → μ)

/-- A program that waits goes on with what the ports answer. -/
def World.turn (w : World Ans ε μ σ τ α π ι) (p : π) : Option (World Ans ε μ σ τ α π ι) :=
  match w.left p with
  | .await r next =>
    if w.isOpen (S.home p) then
      some (w.resumed S p ((next (ports r)).advance moments (w.view S p)))
    else none
  | _ => none

/-- The turns of a schedule, but for those of programs that do not wait. -/
def plays : List π → World Ans ε μ σ τ α π ι →
    List (Transition (World Ans ε μ σ τ α π ι) (Act π ι)) × World Ans ε μ σ τ α π ι
  | [], w => ([], w)
  | p :: rest, w =>
    match w.turn S ports moments p with
    | none => plays rest w
    | some w' =>
      let played := plays rest w'
      (⟨w, .resume p, w'⟩ :: played.1, played.2)

variable {S ports moments} {w w' : World Ans ε μ σ τ α π ι}

theorem World.turn_step {p : π} (hports : ∀ r, S.answers r (ports r))
    (hmoments : ∀ n, S.moments (moments n)) (h : w.turn S ports moments p = some w') :
    Step S w (.resume p) w' := by
  unfold World.turn at h
  split at h
  · rename_i r next hleft
    split at h
    · rename_i hopen
      cases h
      exact .resume hopen hleft (ports r) (hports r) moments hmoments
    · cases h
  · cases h

theorem plays_isHistory (hports : ∀ r, S.answers r (ports r))
    (hmoments : ∀ n, S.moments (moments n)) (schedule : List π) :
    IsHistory (Step S) w (plays S ports moments schedule w).1
      (plays S ports moments schedule w).2 := by
  induction schedule generalizing w with
  | nil => rfl
  | cons p rest ih =>
    unfold plays
    cases hturn : w.turn S ports moments p with
    | none => exact ih
    | some w' => exact ⟨rfl, World.turn_step hports hmoments hturn, ih⟩

end

end MotorCove.Asynchrony
