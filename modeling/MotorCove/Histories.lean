import Mathlib.Logic.Basic

/-!
# Histories of a labelled relation

A history lists the transitions of a run, each with the states around it. What
a transition keeps from the past, a history keeps as a whole. Nothing here
depends on the states or the labels.
-/

set_option autoImplicit false

namespace MotorCove.Histories

structure Transition (State Label : Type) where
  before : State
  label : Label
  after : State

variable {State Label : Type} (R : State → Label → State → Prop)

/-- The transitions follow one another from the first state to the last. -/
def IsHistory : State → List (Transition State Label) → State → Prop
  | s, [], s' => s' = s
  | s, t :: rest, s' => t.before = s ∧ R t.before t.label t.after ∧ IsHistory t.after rest s'

theorem isHistory_append {s s' : State} {past rest : List (Transition State Label)} :
    IsHistory R s (past ++ rest) s' ↔ ∃ m, IsHistory R s past m ∧ IsHistory R m rest s' := by
  induction past generalizing s with
  | nil => simp [IsHistory]
  | cons t past ih => simp [IsHistory, ih, and_assoc]

/-- Some history leads from one state to another. -/
def Reaches (s s' : State) : Prop := ∃ history, IsHistory R s history s'

theorem Reaches.refl (s : State) : Reaches R s s := ⟨[], rfl⟩

variable {R}

theorem Reaches.trans {s m s' : State} (h : Reaches R s m) (h' : Reaches R m s') :
    Reaches R s s' := by
  obtain ⟨past, hpast⟩ := h
  obtain ⟨rest, hrest⟩ := h'
  exact ⟨past ++ rest, (isHistory_append R).mpr ⟨m, hpast, hrest⟩⟩

theorem Reaches.of_step {s s' : State} {label : Label} (h : R s label s') : Reaches R s s' :=
  ⟨[⟨s, label, s'⟩], rfl, h, rfl⟩

/-- What each transition keeps of the past and the state holds after a history. -/
theorem IsHistory.invariant {P : List (Transition State Label) → State → Prop}
    (hstep : ∀ past t, P past t.before → R t.before t.label t.after → P (past ++ [t]) t.after)
    {s s' : State} {history : List (Transition State Label)} (past : List (Transition State Label))
    (hpast : P past s)
    (h : IsHistory R s history s') : P (past ++ history) s' := by
  induction history generalizing s past with
  | nil =>
    obtain rfl := h
    rw [List.append_nil]
    exact hpast
  | cons t rest ih =>
    obtain ⟨rfl, ht, hrest⟩ := h
    rw [List.append_cons]
    exact ih _ (hstep past t hpast ht) hrest

theorem Reaches.invariant {P : State → Prop}
    (hstep : ∀ s label s', P s → R s label s' → P s') {s s' : State} (h : Reaches R s s')
    (hs : P s) : P s' := by
  obtain ⟨history, h⟩ := h
  exact h.invariant (P := fun _ s => P s) (fun _ t ht htr => hstep _ _ _ ht htr) [] hs

/-- The last transition that ends a property, when the history reaches it and
does not keep it. -/
theorem IsHistory.last_end {P : State → Prop} {s s' : State}
    {history : List (Transition State Label)} (h : IsHistory R s history s')
    (hreached : P s ∨ ∃ t ∈ history, P t.after) (hend : ¬P s') :
    ∃ past t rest, history = past ++ t :: rest ∧ R t.before t.label t.after ∧ P t.before ∧
      ¬P t.after ∧ ∀ later ∈ rest, ¬P later.after := by
  induction history generalizing s with
  | nil =>
    obtain rfl := h
    rcases hreached with hs | ⟨t, hmem, _⟩
    · exact absurd hs hend
    · exact absurd hmem (List.not_mem_nil)
  | cons t rest ih =>
    obtain ⟨rfl, ht, hrest⟩ := h
    by_cases hlater : P t.after ∨ ∃ t' ∈ rest, P t'.after
    · obtain ⟨past, t', rest', rfl, hfound⟩ := ih hrest hlater
      exact ⟨t :: past, t', rest', rfl, hfound⟩
    · rw [not_or] at hlater
      have hbefore : P t.before := by
        rcases hreached with hs | ⟨t', hmem, ht'⟩
        · exact hs
        · rcases List.mem_cons.mp hmem with rfl | hmem
          · exact absurd ht' hlater.1
          · exact absurd ⟨t', hmem, ht'⟩ hlater.2
      exact ⟨[], t, rest, rfl, ht, hbefore, hlater.1, fun t' hmem ht' =>
        hlater.2 ⟨t', hmem, ht'⟩⟩

end MotorCove.Histories
