import Mathlib.Logic.Basic

/-!
# Monitors of a trace

A monitor reads a trace act by act. It remembers what it needs of the acts
before and says which act it allows next. Nothing here depends on the acts.
-/

set_option autoImplicit false

namespace MotorCove.Traces

structure Monitor (Memory Act : Type) where
  after : Memory → Act → Memory
  allows : Memory → Act → Prop

variable {Memory Act : Type}

/-- Every act of the trace is allowed when its turn comes. -/
def Monitor.Accepts (m : Monitor Memory Act) : Memory → List Act → Prop
  | _, [] => True
  | s, a :: rest => m.allows s a ∧ Accepts m (m.after s a) rest

variable (m : Monitor Memory Act)

@[simp] theorem accepts_nil (s : Memory) : m.Accepts s [] := trivial

@[simp] theorem accepts_cons (s : Memory) (a : Act) (rest : List Act) :
    m.Accepts s (a :: rest) ↔ m.allows s a ∧ m.Accepts (m.after s a) rest := Iff.rfl

theorem accepts_append (s : Memory) (as bs : List Act) :
    m.Accepts s (as ++ bs) ↔ m.Accepts s as ∧ m.Accepts (as.foldl m.after s) bs := by
  induction as generalizing s with
  | nil => simp
  | cons a as ih => simp [ih, and_assoc]

theorem accepts_free {as : List Act} (h : ∀ a ∈ as, ∀ s, m.allows s a) (s : Memory) :
    m.Accepts s as := by
  induction as generalizing s with
  | nil => trivial
  | cons a as ih =>
    constructor
    · exact h a List.mem_cons_self s
    · exact ih (fun b hb => h b (List.mem_cons_of_mem _ hb)) _

theorem foldl_unnoted {as : List Act} (h : ∀ a ∈ as, ∀ s, m.after s a = s) (s : Memory) :
    as.foldl m.after s = s := by
  induction as generalizing s with
  | nil => rfl
  | cons a as ih =>
    rw [List.foldl_cons, h a List.mem_cons_self]
    exact ih (fun b hb => h b (List.mem_cons_of_mem _ hb)) s

end MotorCove.Traces
