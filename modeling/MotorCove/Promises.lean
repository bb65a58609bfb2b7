import Mathlib.Data.Nat.Notation
import Mathlib.Data.List.Basic

/-!
# Promises that only fulfil

A promise is resolved at once, resolved later from outside, or follows two
others one after the other. Whether it is fulfilled depends only on which
promises were resolved from outside so far. An infinite run takes a step at
every moment, and a step of a fair run that stays possible is taken.
Nothing here depends on what waits for the promises.
-/

set_option autoImplicit false

namespace MotorCove.Promises

inductive Promise where
  /-- `Promise.resolve()` -/
  | resolved
  /-- `new Promise((resolve) => ...)`, by a number of its own -/
  | deferred (id : ℕ)
  /-- `previous.then(() => next)` -/
  | andThen (previous next : Promise)
  deriving DecidableEq, Repr

/-- The promise is fulfilled once these deferred promises were resolved. -/
def Promise.Fulfilled (released : List ℕ) : Promise → Prop
  | .resolved => True
  | .deferred id => id ∈ released
  | .andThen previous next => previous.Fulfilled released ∧ next.Fulfilled released

variable {released released' : List ℕ}

@[simp] theorem fulfilled_resolved : Promise.resolved.Fulfilled released := trivial

@[simp] theorem fulfilled_deferred {id : ℕ} :
    (Promise.deferred id).Fulfilled released ↔ id ∈ released := Iff.rfl

@[simp] theorem fulfilled_andThen {p q : Promise} :
    (p.andThen q).Fulfilled released ↔ p.Fulfilled released ∧ q.Fulfilled released := Iff.rfl

theorem Promise.Fulfilled.mono (h : released ⊆ released') {p : Promise}
    (hp : p.Fulfilled released) : p.Fulfilled released' := by
  induction p with
  | resolved => trivial
  | deferred id => exact h hp
  | andThen p q ihp ihq => exact ⟨ihp hp.1, ihq hp.2⟩

structure Run {State Label : Type} (start : State) (step : State → Label → State → Prop) where
  state : ℕ → State
  label : ℕ → Label
  start_eq : state 0 = start
  step_at : ∀ n, step (state n) (label n) (state (n + 1))

section
variable {State Label : Type} {start : State} {step : State → Label → State → Prop}
  (ρ : Run start step)

theorem Run.invariant {P : State → Prop} (hstart : P start)
    (hstep : ∀ s l s', P s → step s l s' → P s') (n : ℕ) : P (ρ.state n) := by
  induction n with
  | zero =>
    rw [ρ.start_eq]
    exact hstart
  | succ n ih => exact hstep _ _ _ ih (ρ.step_at n)

theorem Run.stable {P : State → Prop} (hstep : ∀ s l s', P s → step s l s' → P s') {m n : ℕ}
    (hmn : m ≤ n) (h : P (ρ.state m)) : P (ρ.state n) := by
  induction hmn with
  | refl => exact h
  | step _ ih => exact hstep _ _ _ ih (ρ.step_at _)

theorem Run.exists_change {P : State → Prop} {m n : ℕ} (hmn : m ≤ n) (hbefore : ¬P (ρ.state m))
    (hafter : P (ρ.state n)) :
    ∃ k, m ≤ k ∧ k < n ∧ ¬P (ρ.state k) ∧ P (ρ.state (k + 1)) := by
  induction hmn with
  | refl => exact absurd hafter hbefore
  | @step n hmn ih =>
    by_cases h : P (ρ.state n)
    · obtain ⟨k, hmk, hkn, hchange⟩ := ih h
      exact ⟨k, hmk, by omega, hchange⟩
    · exact ⟨n, hmn, by omega, h, hafter⟩

end
end MotorCove.Promises
