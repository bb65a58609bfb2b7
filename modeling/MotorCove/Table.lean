import Mathlib.Data.List.Nodup
import Mathlib.Data.List.Sort

/-!
# Keyed tables

A table is a list of rows no two of which share a key. An insert of a present
key is refused; an update keeps the key of each row; a delete removes the rows
that satisfy a condition. A key therefore finds at most one row. A sorted
listing of rows is determined by its members when the order tells them apart.
-/

set_option autoImplicit false

namespace MotorCove

structure Table (α : Type) {κ : Type} (key : α → κ) where
  rows : List α
  nodup : (rows.map key).Nodup

namespace Table
variable {α κ : Type} {key : α → κ}

def empty (key : α → κ) : Table α key := ⟨[], List.nodup_nil⟩

def update (t : Table α key) (f : α → α) (hf : ∀ a, key (f a) = key a) : Table α key :=
  ⟨t.rows.map f, by
    rw [List.map_map]
    exact (List.map_congr_left (fun a _ => hf a) : t.rows.map (key ∘ f) = _) ▸ t.nodup⟩

def delete (t : Table α key) (p : α → Bool) : Table α key :=
  ⟨t.rows.filter fun a => !p a, (List.filter_sublist.map key).nodup t.nodup⟩

@[simp] theorem rows_empty : (empty key).rows = [] := rfl

@[simp] theorem rows_update (t : Table α key) (f : α → α) (hf : ∀ a, key (f a) = key a) :
    (t.update f hf).rows = t.rows.map f := rfl

@[simp] theorem rows_delete (t : Table α key) (p : α → Bool) :
    (t.delete p).rows = t.rows.filter fun a => !p a := rfl

theorem eq_of_key {t : Table α key} {a b : α} (ha : a ∈ t.rows) (hb : b ∈ t.rows)
    (h : key a = key b) : a = b :=
  List.inj_on_of_nodup_map t.nodup ha hb h

theorem nodup_rows (t : Table α key) : t.rows.Nodup := List.Nodup.of_map key t.nodup

variable [DecidableEq κ]

def find? (t : Table α key) (k : κ) : Option α := t.rows.find? fun a => key a = k

def insert? (t : Table α key) (a : α) : Option (Table α key) :=
  if h : key a ∈ t.rows.map key then none
  else some ⟨t.rows ++ [a], by
    rw [List.map_append, List.nodup_append]
    refine ⟨t.nodup, List.nodup_singleton _, fun x hx y hy => ?_⟩
    rintro rfl
    rw [List.map_singleton, List.mem_singleton] at hy
    exact h (hy ▸ hx)⟩

theorem find?_some {t : Table α key} {k : κ} {a : α} :
    t.find? k = some a ↔ a ∈ t.rows ∧ key a = k := by
  constructor
  · intro h
    exact ⟨List.mem_of_find?_eq_some h, by simpa using List.find?_some h⟩
  · rintro ⟨ha, rfl⟩
    cases hf : t.find? (key a) with
    | none =>
      have hno := List.find?_eq_none.mp hf a ha
      simp at hno
    | some b =>
      have hb : key b = key a := by simpa using List.find?_some hf
      rw [eq_of_key (List.mem_of_find?_eq_some hf) ha hb]

theorem find?_none {t : Table α key} {k : κ} :
    t.find? k = none ↔ ∀ a ∈ t.rows, key a ≠ k := by
  rw [find?, List.find?_eq_none]
  simp

theorem insert?_some {t t' : Table α key} {a : α} :
    t.insert? a = some t' ↔ (∀ b ∈ t.rows, key b ≠ key a) ∧ t'.rows = t.rows ++ [a] := by
  unfold insert?
  split
  · rename_i h
    obtain ⟨b, hb, hk⟩ := List.mem_map.mp h
    simp only [reduceCtorEq, false_iff, not_and]
    intro hall
    exact absurd hk (hall b hb)
  · rename_i h
    cases t' with
    | mk rows nodup =>
      simp only [Option.some.injEq, mk.injEq]
      constructor
      · rintro rfl
        exact ⟨fun b hb hk => h (List.mem_map.mpr ⟨b, hb, hk⟩), rfl⟩
      · rintro ⟨_, rfl⟩
        rfl

theorem insert?_of_new {t : Table α key} {a : α} (h : ∀ b ∈ t.rows, key b ≠ key a) :
    ∃ t', t.insert? a = some t' ∧ t'.rows = t.rows ++ [a] := by
  cases hi : t.insert? a with
  | some t' => exact ⟨t', rfl, (insert?_some.mp hi).2⟩
  | none =>
    unfold insert? at hi
    split at hi
    · rename_i hmem
      obtain ⟨b, hb, hk⟩ := List.mem_map.mp hmem
      exact absurd hk (h b hb)
    · cases hi

/-- A row in the place of the one with its key, or at the end. -/
def set (t : Table α key) (a : α) : Table α key :=
  if h : key a ∈ t.rows.map key then
    t.update (fun b => if key b = key a then a else b) fun b => by
      by_cases hb : key b = key a
      · rw [if_pos hb, hb]
      · rw [if_neg hb]
  else ⟨t.rows ++ [a], by
    rw [List.map_append, List.nodup_append]
    refine ⟨t.nodup, List.nodup_singleton _, fun x hx y hy => ?_⟩
    rintro rfl
    rw [List.map_singleton, List.mem_singleton] at hy
    exact h (hy ▸ hx)⟩

theorem set_of_new {t : Table α key} {a : α} (h : key a ∉ t.rows.map key) :
    (t.set a).rows = t.rows ++ [a] := by
  rw [set, dif_neg h]

theorem rows_foldl_set {as : List α} (t : Table α key)
    (h : (t.rows.map key ++ as.map key).Nodup) : (as.foldl set t).rows = t.rows ++ as := by
  induction as generalizing t with
  | nil => simp
  | cons a as ih =>
    have hnew : key a ∉ t.rows.map key := by
      intro hmem
      exact (List.nodup_append.mp h).2.2 _ hmem _ List.mem_cons_self rfl
    rw [List.foldl_cons, ih (t.set a), set_of_new hnew, List.append_assoc, List.singleton_append]
    rw [set_of_new hnew, List.map_append, List.append_assoc]
    exact h

end Table

/-- Sorting yields the sorted list with the same members, when the order tells
those members apart. -/
theorem insertionSort_eq {α : Type} {r : α → α → Prop} [DecidableRel r]
    (htotal : ∀ a b, r a b ∨ r b a) (htrans : ∀ a b c, r a b → r b c → r a c) {l l' : List α}
    (hl : l.Nodup) (hl' : l'.Nodup) (hmem : ∀ a, a ∈ l ↔ a ∈ l') (hsorted : l'.Pairwise r)
    (hanti : ∀ a ∈ l', ∀ b ∈ l', r a b → r b a → a = b) : l.insertionSort r = l' := by
  have : Std.Total r := ⟨htotal⟩
  have : IsTrans α r := ⟨htrans⟩
  have hperm : (l.insertionSort r).Perm l' :=
    (List.perm_insertionSort r l).trans ((List.perm_ext_iff_of_nodup hl hl').mpr hmem)
  refine hperm.eq_of_pairwise (fun a b ha hb => ?_) (List.pairwise_insertionSort r l) hsorted
  exact hanti a (hperm.mem_iff.mp ha) b hb

end MotorCove
