import Mathlib.Data.Nat.Notation
import MotorCove.Effects

/-!
# Programs that may crash

A program acts on durable state one operation after the other. Each operation
may fail, and the process may crash around it, with or without its effect; an
oracle decides, turn by turn. What a later process finds is the durable state
alone. Nothing here depends on the state or the operations.
-/

set_option autoImplicit false

namespace MotorCove.Crashes
open MotorCove.Effects

inductive Failure (ε : Type) where
  | crash
  | thrown (error : ε)
  deriving DecidableEq, Repr

inductive Outcome (ε : Type) where
  | done
  | doneThen (failure : Failure ε)
  | undone (failure : Failure ε)
  deriving DecidableEq, Repr

structure Machine (σ : Type) where
  turn : ℕ
  disk : σ

abbrev Prog (ε σ : Type) := EStateM (Failure ε) (Machine σ)

variable {ε σ α β : Type}

def look (f : σ → α) : Prog ε σ α := fun m => .ok (f m.disk) m

/-- One durable operation, atomic in its effect. -/
def act (outcome : ℕ → Outcome ε) (change : ℕ → σ → σ) : Prog ε σ Unit := fun m =>
  match outcome m.turn with
  | .done => .ok () ⟨m.turn + 1, change m.turn m.disk⟩
  | .doneThen failure => .error failure ⟨m.turn + 1, change m.turn m.disk⟩
  | .undone failure => .error failure ⟨m.turn + 1, m.disk⟩

/-- A request that changes nothing durable. -/
def ask (answer : ℕ → σ → Except (Failure ε) α) : Prog ε σ α := fun m =>
  match answer m.turn m.disk with
  | .ok a => .ok a { m with turn := m.turn + 1 }
  | .error failure => .error failure { m with turn := m.turn + 1 }

/-- A request of several effects: it runs whole, or is cut after some of them. -/
def perform (outcome : ℕ → Outcome ε) (cut : ℕ → σ → σ) (whole : ℕ → σ → Except ε α × σ) :
    Prog ε σ α := fun m =>
  match outcome m.turn with
  | .done =>
    match whole m.turn m.disk with
    | (.ok a, disk) => .ok a ⟨m.turn + 1, disk⟩
    | (.error error, disk) => .error (.thrown error) ⟨m.turn + 1, disk⟩
  | .doneThen failure => .error failure ⟨m.turn + 1, (whole m.turn m.disk).2⟩
  | .undone failure => .error failure ⟨m.turn + 1, cut m.turn m.disk⟩

def refuse (error : ε) : Prog ε σ α := throw (.thrown error)

def refuseIf (c : Prop) [Decidable c] (error : ε) : Prog ε σ Unit :=
  if c then refuse error else pure ()

/-- `try`/`catch`: a crash is not caught. -/
def attempt (x : Prog ε σ α) (handle : ε → Prog ε σ α) : Prog ε σ α :=
  tryCatch x fun failure =>
    match failure with
    | .crash => throw .crash
    | .thrown error => handle error

/-- A program on one part of the durable state. -/
def within {τ : Type} (get : τ → σ) (put : σ → τ → τ) (x : Prog ε σ α) : Prog ε τ α := fun m =>
  match x ⟨m.turn, get m.disk⟩ with
  | .ok a n => .ok a ⟨n.turn, put n.disk m.disk⟩
  | .error failure n => .error failure ⟨n.turn, put n.disk m.disk⟩

/-- From the durable state `d`, at any turn, the program ends in `P` or in `E`. -/
def Holds (x : Prog ε σ α) (d : σ) (P : α → σ → Prop) (E : Failure ε → σ → Prop) : Prop :=
  ∀ turn, Ends x ⟨turn, d⟩ (fun a m => P a m.disk) fun failure m => E failure m.disk

variable {d : σ} {P P' : α → σ → Prop} {E E' : Failure ε → σ → Prop}

theorem Holds.mono {x : Prog ε σ α} (h : Holds x d P E) (hP : ∀ a d', P a d' → P' a d')
    (hE : ∀ failure d', E failure d' → E' failure d') : Holds x d P' E' :=
  fun turn => (h turn).mono (fun _ _ => hP _ _) fun _ _ => hE _ _

theorem holds_pure {a : α} (h : P a d) : Holds (pure a : Prog ε σ α) d P E := fun _ => h

theorem holds_refuse {error : ε} (h : E (.thrown error) d) :
    Holds (refuse error : Prog ε σ α) d P E := fun _ => h

theorem holds_refuseIf {c : Prop} [Decidable c] {error : ε} {P : Unit → σ → Prop}
    (h : ¬c → P () d) (hE : c → E (.thrown error) d) :
    Holds (refuseIf c error : Prog ε σ Unit) d P E := by
  unfold refuseIf
  split
  · rename_i hc
    exact holds_refuse (hE hc)
  · rename_i hc
    exact holds_pure (h hc)

theorem holds_bind {x : Prog ε σ α} {f : α → Prog ε σ β} {P : β → σ → Prop}
    (h : Holds x d (fun a d' => Holds (f a) d' P E) E) : Holds (x >>= f) d P E := by
  intro turn
  rw [ends_bind]
  exact (h turn).mono (fun a m ha => ha m.turn) fun _ _ => id

theorem holds_look {f : σ → α} (h : P (f d) d) : Holds (look f : Prog ε σ α) d P E := fun _ => h

theorem holds_act {outcome : ℕ → Outcome ε} {change : ℕ → σ → σ} {P : Unit → σ → Prop}
    (h : ∀ turn, outcome turn = .done → P () (change turn d))
    (hdone : ∀ turn failure, outcome turn = .doneThen failure → E failure (change turn d))
    (hundone : ∀ turn failure, outcome turn = .undone failure → E failure d) :
    Holds (act outcome change) d P E := by
  intro turn
  simp only [Ends, EStateM.run, act]
  cases houtcome : outcome turn with
  | done => exact h turn houtcome
  | doneThen failure => exact hdone turn failure houtcome
  | undone failure => exact hundone turn failure houtcome

theorem holds_act_of {outcome : ℕ → Outcome ε} {change : ℕ → σ → σ} {P : Unit → σ → Prop}
    (h : ∀ turn, P () (change turn d)) (hdone : ∀ turn failure, E failure (change turn d))
    (hundone : ∀ failure, E failure d) : Holds (act outcome change) d P E :=
  holds_act (fun turn _ => h turn) (fun turn failure _ => hdone turn failure)
    fun _ failure _ => hundone failure

theorem holds_ask {answer : ℕ → σ → Except (Failure ε) α}
    (h : ∀ turn a, answer turn d = .ok a → P a d)
    (hE : ∀ turn failure, answer turn d = .error failure → E failure d) :
    Holds (ask answer) d P E := by
  intro turn
  simp only [Ends, EStateM.run, ask]
  cases hanswer : answer turn d with
  | ok a => exact h turn a hanswer
  | error failure => exact hE turn failure hanswer

theorem holds_ask_ok {answer : ℕ → σ → Except (Failure ε) α} {a : α}
    (h : ∀ turn, answer turn d = .ok a) (hP : P a d) : Holds (ask answer) d P E := by
  refine holds_ask (fun turn b hb => ?_) fun turn failure hfailure => ?_
  · rw [h turn] at hb
    obtain rfl := Except.ok.inj hb
    exact hP
  · rw [h turn] at hfailure
    cases hfailure

theorem holds_act_done {outcome : ℕ → Outcome ε} {change : ℕ → σ → σ} {P : Unit → σ → Prop}
    (h : ∀ turn, outcome turn = .done) (hP : ∀ turn, P () (change turn d)) :
    Holds (act outcome change) d P E :=
  holds_act (fun turn _ => hP turn) (fun turn failure hfailure => by simp [h turn] at hfailure)
    fun turn failure hfailure => by simp [h turn] at hfailure

theorem holds_perform {outcome : ℕ → Outcome ε} {cut : ℕ → σ → σ}
    {whole : ℕ → σ → Except ε α × σ} (h : ∀ turn a d', whole turn d = (.ok a, d') → P a d')
    (hE : ∀ turn error d', whole turn d = (.error error, d') → E (.thrown error) d')
    (hwhole : ∀ turn failure, E failure (whole turn d).2)
    (hcut : ∀ turn failure, E failure (cut turn d)) : Holds (perform outcome cut whole) d P E := by
  intro turn
  simp only [Ends, EStateM.run, perform]
  cases houtcome : outcome turn with
  | done =>
    simp only
    cases hresult : whole turn d with
    | mk result d' =>
      cases result with
      | ok a => exact h turn a d' hresult
      | error error => exact hE turn error d' hresult
  | doneThen failure => exact hwhole turn failure
  | undone failure => exact hcut turn failure

theorem holds_perform_of {outcome : ℕ → Outcome ε} {cut : ℕ → σ → σ}
    {whole : ℕ → σ → Except ε α × σ} {Q : Except ε α × σ → Prop} (h : ∀ turn, Q (whole turn d))
    (hok : ∀ a d', Q (.ok a, d') → P a d')
    (herror : ∀ error d', Q (.error error, d') → E (.thrown error) d')
    (hdone : ∀ turn failure result, outcome turn = .doneThen failure → Q result →
      E failure result.2)
    (hundone : ∀ turn failure, outcome turn = .undone failure → E failure (cut turn d)) :
    Holds (perform outcome cut whole) d P E := by
  intro turn
  have hQ := h turn
  simp only [Ends, EStateM.run, perform]
  cases houtcome : outcome turn with
  | done =>
    simp only
    cases hresult : whole turn d with
    | mk result d' =>
      rw [hresult] at hQ
      cases result with
      | ok a => exact hok a d' hQ
      | error error => exact herror error d' hQ
  | doneThen failure => exact hdone turn failure _ houtcome hQ
  | undone failure => exact hundone turn failure houtcome

theorem holds_within {τ : Type} {get : τ → σ} {put : σ → τ → τ} {x : Prog ε σ α} {t : τ}
    {P : α → τ → Prop} {E : Failure ε → τ → Prop}
    (h : Holds x (get t) (fun a s => P a (put s t)) fun failure s => E failure (put s t)) :
    Holds (within get put x) t P E := by
  intro turn
  have hx := h turn
  simp only [Ends, EStateM.run, within] at hx ⊢
  cases hresult : x ⟨turn, get t⟩ with
  | ok a m =>
    rw [hresult] at hx
    exact hx
  | error failure m =>
    rw [hresult] at hx
    exact hx

/-- What a failure leaves for the handler, which a crash does not reach. -/
def Caught (handle : ε → Prog ε σ α) (P : α → σ → Prop) (E : Failure ε → σ → Prop) :
    Failure ε → σ → Prop
  | .crash, d => E .crash d
  | .thrown error, d => Holds (handle error) d P E

theorem caught_of {handle : ε → Prog ε σ α} (hcrash : E .crash d)
    (hthrown : ∀ error, Holds (handle error) d P E) (failure : Failure ε) :
    Caught handle P E failure d := by
  cases failure with
  | crash => exact hcrash
  | thrown error => exact hthrown error

theorem holds_attempt {x : Prog ε σ α} {handle : ε → Prog ε σ α}
    (h : Holds x d P (Caught handle P E)) : Holds (attempt x handle) d P E := by
  intro turn
  rw [attempt, ends_tryCatch]
  refine (h turn).mono (fun _ _ => id) fun failure m hfailure => ?_
  cases failure with
  | crash => exact hfailure
  | thrown error => exact hfailure m.turn

theorem Holds.and {x : Prog ε σ α} (h : Holds x d P E) (h' : Holds x d P' E') :
    Holds x d (fun a d' => P a d' ∧ P' a d') fun failure d' => E failure d' ∧ E' failure d' := by
  intro turn
  have hx := h turn
  have hx' := h' turn
  unfold Ends at hx hx' ⊢
  split <;> simp_all

theorem Holds.final {x : Prog ε σ α} {Q : σ → Prop} (h : Holds x d (fun _ => Q) fun _ => Q)
    (turn : ℕ) : Q (finalState x ⟨turn, d⟩).disk :=
  ends_final.mp (h turn)

end MotorCove.Crashes
