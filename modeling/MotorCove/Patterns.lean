import Mathlib.Computability.RegularExpressions
import MotorCove.Text

/-!
# Patterns of digits

Regular expressions over characters, for the patterns that input is tested
with: a choice of characters, a bounded repetition, and decimal numerals.
Nothing here depends on what the texts stand for.
-/

set_option autoImplicit false

namespace MotorCove.Patterns
open MotorCove.Text RegularExpression

abbrev Pattern := RegularExpression Char

/-- `^pattern$`. -/
def test (p : Pattern) (s : String) : Bool := p.rmatch s.toList

/-- `[abc]`. -/
def anyOf : List Char → Pattern
  | [] => 0
  | c :: cs => char c + anyOf cs

/-- `p{0,n}`. -/
def upTo (p : Pattern) : ℕ → Pattern
  | 0 => 1
  | n + 1 => 1 + p * upTo p n

/-- `p{m,n}`. -/
def between (p : Pattern) (m n : ℕ) : Pattern := p ^ m * upTo p (n - m)

/-- `\d`, or `[0-9]`. -/
def digit : Pattern := anyOf "0123456789".toList

/-- `[1-9]`. -/
def positiveDigit : Pattern := anyOf "123456789".toList

/-- `0|[1-9]\d*`. -/
def numeral : Pattern := char '0' + positiveDigit * star digit

theorem test_iff {p : Pattern} {s : String} : test p s = true ↔ s.toList ∈ p.matches' :=
  rmatch_iff_matches' p s.toList

/-- The pattern takes one character, of those that satisfy `q`. -/
def Single (p : Pattern) (q : Char → Prop) : Prop := ∀ x, x ∈ p.matches' ↔ ∃ c, q c ∧ x = [c]

theorem single_anyOf (cs : List Char) : Single (anyOf cs) (· ∈ cs) := by
  intro x
  induction cs with
  | nil => simp [anyOf, matches'_zero]
  | cons c cs ih =>
    rw [anyOf, matches'_add, Language.mem_add, matches'_char, ih]
    constructor
    · rintro (hx | ⟨d, hd, hx⟩)
      · exact ⟨c, List.mem_cons_self, hx⟩
      · exact ⟨d, List.mem_cons_of_mem c hd, hx⟩
    · rintro ⟨d, hd, hx⟩
      rcases List.mem_cons.mp hd with rfl | hd
      · exact .inl hx
      · exact .inr ⟨d, hd, hx⟩

section
variable {p : Pattern} {q : Char → Prop}

theorem Single.star (h : Single p q) (x : List Char) :
    x ∈ (star p).matches' ↔ ∀ c ∈ x, q c := by
  rw [matches'_star, Language.mem_kstar]
  constructor
  · rintro ⟨l, rfl, hl⟩ c hc
    obtain ⟨y, hy, hcy⟩ := List.mem_flatten.mp hc
    obtain ⟨d, hd, rfl⟩ := (h y).mp (hl y hy)
    rwa [List.mem_singleton.mp hcy]
  · intro hx
    refine ⟨x.map fun c => [c], (List.flatMap_singleton' x).symm, fun y hy => ?_⟩
    obtain ⟨c, hc, rfl⟩ := List.mem_map.mp hy
    exact (h _).mpr ⟨c, hx c hc, rfl⟩

theorem Single.mem_mul (h : Single p q) {r : Pattern} (x : List Char) :
    x ∈ (p * r).matches' ↔ ∃ c rest, x = c :: rest ∧ q c ∧ rest ∈ r.matches' := by
  rw [matches'_mul, Language.mem_mul]
  constructor
  · rintro ⟨a, ha, b, hb, rfl⟩
    obtain ⟨c, hc, rfl⟩ := (h a).mp ha
    exact ⟨c, b, rfl, hc, hb⟩
  · rintro ⟨c, rest, rfl, hc, hrest⟩
    exact ⟨[c], (h _).mpr ⟨c, hc, rfl⟩, rest, hrest, rfl⟩

theorem Single.upTo (h : Single p q) (n : ℕ) (x : List Char) :
    x ∈ (upTo p n).matches' ↔ x.length ≤ n ∧ ∀ c ∈ x, q c := by
  induction n generalizing x with
  | zero =>
    rw [Patterns.upTo, matches'_epsilon, Language.mem_one]
    cases x <;> simp
  | succ n ih =>
    rw [Patterns.upTo, matches'_add, Language.mem_add, matches'_epsilon, Language.mem_one,
      h.mem_mul]
    cases x with
    | nil => simp
    | cons c x => simp [ih, and_left_comm]

theorem Single.pow (h : Single p q) (n : ℕ) (x : List Char) :
    x ∈ (p ^ n).matches' ↔ x.length = n ∧ ∀ c ∈ x, q c := by
  rw [matches'_pow]
  induction n generalizing x with
  | zero =>
    rw [pow_zero, Language.mem_one]
    cases x <;> simp
  | succ n ih =>
    rw [pow_succ', Language.mem_mul]
    constructor
    · rintro ⟨a, ha, b, hb, rfl⟩
      obtain ⟨c, hc, rfl⟩ := (h a).mp ha
      obtain ⟨hlength, hall⟩ := (ih b).mp hb
      exact ⟨congrArg Nat.succ hlength, List.forall_mem_cons.mpr ⟨hc, hall⟩⟩
    · rintro ⟨hlength, hall⟩
      cases x with
      | nil => cases hlength
      | cons c x =>
        obtain ⟨hc, hall⟩ := List.forall_mem_cons.mp hall
        exact ⟨[c], (h _).mpr ⟨c, hc, rfl⟩, x, (ih x).mpr ⟨Nat.succ.inj hlength, hall⟩, rfl⟩

theorem Single.between (h : Single p q) {m n : ℕ} (hle : m ≤ n) (x : List Char) :
    x ∈ (between p m n).matches' ↔ m ≤ x.length ∧ x.length ≤ n ∧ ∀ c ∈ x, q c := by
  rw [Patterns.between, matches'_mul, Language.mem_mul]
  constructor
  · rintro ⟨a, ha, b, hb, rfl⟩
    obtain ⟨ha, hqa⟩ := (h.pow m a).mp ha
    obtain ⟨hb, hqb⟩ := (h.upTo _ b).mp hb
    rw [List.length_append]
    refine ⟨by omega, by omega, fun c hc => ?_⟩
    exact (List.mem_append.mp hc).elim (hqa c) (hqb c)
  · rintro ⟨hm, hn, hq⟩
    refine ⟨x.take m, (h.pow m _).mpr ⟨?_, ?_⟩, x.drop m, (h.upTo _ _).mpr ⟨?_, ?_⟩,
      List.take_append_drop m x⟩
    · rw [List.length_take]
      omega
    · exact fun c hc => hq c (List.mem_of_mem_take hc)
    · rw [List.length_drop]
      omega
    · exact fun c hc => hq c (List.mem_of_mem_drop hc)

end

theorem mem_digits {c : Char} : c ∈ "0123456789".toList ↔ c.isDigit = true := by
  constructor
  · have hall : "0123456789".toList.all Char.isDigit = true := by decide
    exact List.all_eq_true.mp hall c
  · intro h
    have hc := isDigit_bounds h
    have hall : ∀ i < 10, Nat.digitChar i ∈ "0123456789".toList := by decide
    rw [← digitChar_toNat h]
    exact hall _ (by omega)

theorem mem_positiveDigits {c : Char} :
    c ∈ "123456789".toList ↔ c.isDigit = true ∧ c ≠ '0' := by
  rw [← mem_digits]
  have hcons : "0123456789".toList = '0' :: "123456789".toList := by decide
  rw [hcons, List.mem_cons]
  constructor
  · intro h
    refine ⟨.inr h, ?_⟩
    rintro rfl
    exact absurd h (by decide)
  · rintro ⟨rfl | h, hne⟩
    · exact absurd rfl hne
    · exact h

theorem single_digit : Single digit (·.isDigit = true) := by
  intro x
  rw [digit, single_anyOf]
  simp only [mem_digits]

theorem single_positiveDigit : Single positiveDigit fun c => c.isDigit = true ∧ c ≠ '0' := by
  intro x
  rw [positiveDigit, single_anyOf]
  simp only [mem_positiveDigits]

theorem exists_repr {cs : List Char} : (∃ n, cs = (Nat.repr n).toList) ↔
    cs = ['0'] ∨ ∃ c rest, cs = c :: rest ∧ (c.isDigit = true ∧ c ≠ '0') ∧
      ∀ d ∈ rest, d.isDigit = true := by
  constructor
  · rintro ⟨n, rfl⟩
    have hdigits := repr_isDigit n
    cases n with
    | zero => exact .inl rfl
    | succ n =>
      right
      cases hs : (Nat.repr (n + 1)).toList with
      | nil =>
        have hlength : 0 < (Nat.repr (n + 1)).length := Nat.length_repr_pos
        rw [← String.length_toList, hs] at hlength
        simp at hlength
      | cons c rest =>
        rw [hs] at hdigits
        obtain ⟨hc, hrest⟩ := List.forall_mem_cons.mp hdigits
        exact ⟨c, rest, rfl, ⟨hc, repr_head hs (Nat.succ_pos n)⟩, hrest⟩
  · intro h
    refine ⟨value cs, ?_⟩
    rw [repr_value, String.toList_ofList]
    · rcases h with rfl | ⟨c, rest, rfl, ⟨hc, _⟩, hrest⟩
      · exact List.all_eq_true.mp (by decide)
      · exact List.forall_mem_cons.mpr ⟨hc, hrest⟩
    · exact h.imp_right fun ⟨c, rest, hcs, ⟨_, hne⟩, _⟩ => ⟨c, rest, hcs, hne⟩

theorem mem_numeral {cs : List Char} :
    cs ∈ numeral.matches' ↔ ∃ n, cs = (Nat.repr n).toList := by
  rw [numeral, matches'_add, Language.mem_add, single_positiveDigit.mem_mul, exists_repr,
    matches'_char]
  simp only [single_digit.star]
  exact Iff.rfl

end MotorCove.Patterns
