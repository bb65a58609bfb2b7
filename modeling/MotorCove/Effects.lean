import Mathlib.Logic.Basic

/-!
# Programs that fail and keep what they wrote

A program in `EStateM` ends with a value or an error, and its state in either
case. `Ends` states what holds of each end; its rules follow the program text.
Nothing here depends on what the programs compute.
-/

set_option autoImplicit false

namespace MotorCove.Effects

variable {ε σ α β : Type}

/-- Run from `s`, the program ends with a value and a state that satisfy `P`, or
with an error and a state that satisfy `E`. -/
def Ends (x : EStateM ε σ α) (s : σ) (P : α → σ → Prop) (E : ε → σ → Prop) : Prop :=
  match x.run s with
  | .ok a t => P a t
  | .error e t => E e t

variable {P P' : α → σ → Prop} {E E' : ε → σ → Prop} {s : σ}

theorem Ends.mono {x : EStateM ε σ α} (h : Ends x s P E) (hP : ∀ a t, P a t → P' a t)
    (hE : ∀ e t, E e t → E' e t) : Ends x s P' E' := by
  unfold Ends at *
  split at h
  · exact hP _ _ h
  · exact hE _ _ h

theorem Ends.and {x : EStateM ε σ α} (h : Ends x s P E) (h' : Ends x s P' E') :
    Ends x s (fun a t => P a t ∧ P' a t) fun e t => E e t ∧ E' e t := by
  unfold Ends at *
  split at h
  · rename_i heq
    rw [heq] at h'
    exact ⟨h, h'⟩
  · rename_i heq
    rw [heq] at h'
    exact ⟨h, h'⟩

theorem ends_run (x : EStateM ε σ α) (s : σ) :
    Ends x s (fun a t => x.run s = .ok a t) fun e t => x.run s = .error e t := by
  unfold Ends
  cases x.run s with
  | ok a t => rfl
  | error e t => rfl

theorem ends_of_ok {x : EStateM ε σ α} {a : α} {t : σ} (h : x.run s = .ok a t) :
    Ends x s P E ↔ P a t := by
  rw [Ends, h]

theorem ends_of_error {x : EStateM ε σ α} {e : ε} {t : σ} (h : x.run s = .error e t) :
    Ends x s P E ↔ E e t := by
  rw [Ends, h]

@[simp] theorem ends_pure {a : α} : Ends (pure a : EStateM ε σ α) s P E ↔ P a s := Iff.rfl

@[simp] theorem ends_throw {e : ε} : Ends (throw e : EStateM ε σ α) s P E ↔ E e s := Iff.rfl

@[simp] theorem ends_get {P : σ → σ → Prop} : Ends (get : EStateM ε σ σ) s P E ↔ P s s := Iff.rfl

@[simp] theorem ends_modify {f : σ → σ} {P : Unit → σ → Prop} :
    Ends (modify f : EStateM ε σ Unit) s P E ↔ P () (f s) := Iff.rfl

theorem ends_bind {x : EStateM ε σ α} {f : α → EStateM ε σ β} {P : β → σ → Prop} :
    Ends (x >>= f) s P E ↔ Ends x s (fun a t => Ends (f a) t P E) E := by
  simp only [Ends, bind, EStateM.run, EStateM.bind]
  cases x s with
  | ok a t => exact Iff.rfl
  | error e t => exact Iff.rfl

theorem run_bind_error {x : EStateM ε σ α} {f : α → EStateM ε σ β} {e : ε} {t : σ}
    (h : x.run s = .error e t) : (x >>= f).run s = .error e t := by
  simp only [bind, EStateM.run, EStateM.bind] at h ⊢
  rw [h]

theorem run_tryCatch_ok {x : EStateM ε σ α} {handle : ε → EStateM ε σ α} {a : α} {t : σ}
    (h : x.run s = .ok a t) : (tryCatch x handle).run s = .ok a t := by
  show EStateM.tryCatch x handle s = _
  delta EStateM.tryCatch
  change x s = _ at h
  simp only [h]

theorem run_tryCatch_error {x : EStateM ε σ α} {handle : ε → EStateM ε σ α} {e : ε} {t : σ}
    (h : x.run s = .error e t) : (tryCatch x handle).run s = (handle e).run t := by
  show EStateM.tryCatch x handle s = _
  delta EStateM.tryCatch
  change x s = _ at h
  simp only [h]
  rfl

theorem ends_tryCatch {x : EStateM ε σ α} {handle : ε → EStateM ε σ α} :
    Ends (tryCatch x handle) s P E ↔ Ends x s P fun e t => Ends (handle e) t P E := by
  cases hx : x.run s with
  | ok a t => rw [ends_of_ok (run_tryCatch_ok hx), ends_of_ok hx]
  | error e t =>
    rw [ends_of_error hx, Ends, run_tryCatch_error hx]
    exact Iff.rfl

def finalState (x : EStateM ε σ α) (s : σ) : σ :=
  match x.run s with
  | .ok _ t => t
  | .error _ t => t

theorem ends_final {x : EStateM ε σ α} {Q : σ → Prop} :
    Ends x s (fun _ t => Q t) (fun _ t => Q t) ↔ Q (finalState x s) := by
  unfold Ends finalState
  split <;> rfl

end MotorCove.Effects
