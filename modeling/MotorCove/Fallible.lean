import Mathlib.Logic.Basic

/-!
# Fallible steps and their inversion

A guarded computation is a chain of steps in `Except`. The rules below peel
such a chain apart from its successful result, so that no later proof opens
the chain by cases. Nothing here depends on what the steps compute.
-/

set_option autoImplicit false

namespace MotorCove.Fallible

variable {ε α β : Type}

/-- Stop with `e` when `c` holds. -/
def failIf (c : Prop) [Decidable c] (e : ε) : Except ε Unit :=
  if c then .error e else .ok ()

theorem bind_ok {x : Except ε α} {f : α → Except ε β} {b : β} :
    (x >>= f) = .ok b ↔ ∃ a, x = .ok a ∧ f a = .ok b := by
  cases x with
  | error e => simp [bind, Except.bind]
  | ok a => simp [bind, Except.bind]

theorem bind_error {x : Except ε α} {f : α → Except ε β} {e : ε} :
    (x >>= f) = .error e ↔ x = .error e ∨ ∃ a, x = .ok a ∧ f a = .error e := by
  cases x with
  | error e' => simp [bind, Except.bind]
  | ok a => simp [bind, Except.bind]

theorem bind_congr_ok {x : Except ε α} {f g : α → Except ε β}
    (h : ∀ a, x = .ok a → f a = g a) : (x >>= f) = (x >>= g) := by
  cases x with
  | error e => rfl
  | ok a => exact h a rfl

theorem bind_congr_left {x y : Except ε α} {f : α → Except ε β} (h : x = y) :
    (x >>= f) = (y >>= f) := by
  rw [h]

theorem map_ok {x : Except ε α} {f : α → β} {b : β} :
    x.map f = .ok b ↔ ∃ a, x = .ok a ∧ b = f a := by
  cases x <;> simp [Except.map, eq_comm]

/-- Two chains whose steps agree up to `g` have results that agree up to `h`. -/
theorem map_bind_forget {α' β' : Type} {x : Except ε α} {y : Except ε α'} {g : α → α'}
    {f : α → Except ε β} {f' : α' → Except ε β'} {h : β → β'} (hx : x.map g = y)
    (hf : ∀ a, (f a).map h = f' (g a)) : (x >>= f).map h = (y >>= f') := by
  subst hx
  cases x with
  | error e => rfl
  | ok a => exact hf a

theorem map_bind_congr {β' : Type} {x y : Except ε α} {f : α → Except ε β}
    {f' : α → Except ε β'} {h : β → β'} (hx : x = y) (hf : ∀ a, (f a).map h = f' a) :
    (x >>= f).map h = (y >>= f') := by
  subst hx
  cases x with
  | error e => rfl
  | ok a => exact hf a

theorem map_bind {α' : Type} (x : Except ε α) (g : α → α') (f : α' → Except ε β) :
    (x.map g >>= f) = (x >>= fun a => f (g a)) := by
  cases x with
  | error e => rfl
  | ok a => rfl

theorem exists_ok {x : Except ε α} (h : ∀ e, x ≠ .error e) : ∃ a, x = .ok a := by
  cases x with
  | error e => exact absurd rfl (h e)
  | ok a => exact ⟨a, rfl⟩

@[simp] theorem ok_bind (a : α) (f : α → Except ε β) : (Except.ok a >>= f) = f a := rfl

@[simp] theorem error_bind (e : ε) (f : α → Except ε β) :
    (Except.error e >>= f) = .error e := rfl

@[simp] theorem failIf_ok {c : Prop} [Decidable c] {e : ε} {u : Unit} :
    failIf c e = .ok u ↔ ¬c := by
  by_cases h : c <;> simp [failIf, h]

@[simp] theorem failIf_error {c : Prop} [Decidable c] {e e' : ε} :
    failIf c e = .error e' ↔ c ∧ e = e' := by
  by_cases h : c <;> simp [failIf, h]

@[simp] theorem failIf_bind_ok {c : Prop} [Decidable c] {e : ε} {f : Unit → Except ε β} {b : β} :
    (failIf c e >>= f) = .ok b ↔ ¬c ∧ f () = .ok b := by
  by_cases h : c <;> simp [failIf, h]

theorem failIf_neg {c : Prop} [Decidable c] (e : ε) (h : ¬c) : failIf c e = .ok () :=
  if_neg h

theorem foldlM_invariant {σ : Type} (step : σ → α → Except ε σ) (P : σ → Prop)
    (hstep : ∀ s a t, P s → step s a = .ok t → P t) (as : List α) (s t : σ)
    (hs : P s) (h : as.foldlM step s = .ok t) : P t := by
  induction as generalizing s with
  | nil =>
    cases h
    exact hs
  | cons a as ih =>
    rw [List.foldlM_cons] at h
    obtain ⟨u, hu, ht⟩ := bind_ok.mp h
    exact ih u (hstep s a u hs hu) ht

/-- Each step of a successful sequence was taken, with what relates the start to
the state before it and the state after it to the result. -/
theorem foldlM_mem {σ : Type} {step : σ → α → Except ε σ} {R : σ → σ → Prop}
    (hrefl : ∀ s, R s s) (htrans : ∀ s t u, R s t → R t u → R s u)
    (hstep : ∀ s a t, step s a = .ok t → R s t) {as : List α} {s t : σ}
    (h : as.foldlM step s = .ok t) :
    R s t ∧ ∀ a ∈ as, ∃ u v, R s u ∧ step u a = .ok v ∧ R v t := by
  induction as generalizing s with
  | nil =>
    cases h
    exact ⟨hrefl _, fun a ha => absurd ha List.not_mem_nil⟩
  | cons a as ih =>
    rw [List.foldlM_cons] at h
    obtain ⟨u, hu, ht⟩ := bind_ok.mp h
    obtain ⟨hut, hmem⟩ := ih ht
    have hsu := hstep s a u hu
    constructor
    · exact htrans s u t hsu hut
    · intro b hb
      rcases List.mem_cons.mp hb with rfl | hb
      · exact ⟨s, u, hrefl s, hu, hut⟩
      · obtain ⟨v, w, hv, hb, hw⟩ := hmem b hb
        exact ⟨v, w, htrans s u v hsu hv, hb, hw⟩

/-- Steps that fail unless they change nothing succeed together exactly when
each of them does. -/
theorem foldlM_fixed {σ : Type} {step : σ → α → Except ε σ} {P : α → Prop} {s : σ}
    {as : List α} (hstep : ∀ a ∈ as, ∀ t, step s a = .ok t ↔ P a ∧ t = s) (t : σ) :
    as.foldlM step s = .ok t ↔ (∀ a ∈ as, P a) ∧ t = s := by
  induction as with
  | nil =>
    simp only [List.foldlM_nil, List.not_mem_nil, false_implies, implies_true, true_and]
    exact ⟨fun h => (Except.ok.inj h).symm, fun h => h ▸ rfl⟩
  | cons a as ih =>
    have ih := ih fun b hb => hstep b (List.mem_cons_of_mem a hb)
    rw [List.foldlM_cons, bind_ok, List.forall_mem_cons]
    constructor
    · rintro ⟨u, hu, ht⟩
      obtain ⟨ha, rfl⟩ := (hstep a List.mem_cons_self u).mp hu
      obtain ⟨has, rfl⟩ := ih.mp ht
      exact ⟨⟨ha, has⟩, rfl⟩
    · rintro ⟨⟨ha, has⟩, rfl⟩
      exact ⟨t, (hstep a List.mem_cons_self t).mpr ⟨ha, rfl⟩, ih.mpr ⟨has, rfl⟩⟩

theorem foldlM_append_ok {σ : Type} (step : σ → α → Except ε σ) (as bs : List α) (s t : σ) :
    (as ++ bs).foldlM step s = .ok t ↔
      ∃ u, as.foldlM step s = .ok u ∧ bs.foldlM step u = .ok t := by
  rw [List.foldlM_append, bind_ok]

theorem mapError_ok {ε' : Type} {x : Except ε α} {f : ε → ε'} {a : α} :
    x.mapError f = .ok a ↔ x = .ok a := by
  cases x with
  | error e =>
    show (Except.error (f e) : Except ε' α) = .ok a ↔ (Except.error e : Except ε α) = .ok a
    simp
  | ok b =>
    show (Except.ok b : Except ε' α) = .ok a ↔ (Except.ok b : Except ε α) = .ok a
    simp

end MotorCove.Fallible
