import Mathlib.Algebra.Order.Group.Nat
import Mathlib.Tactic.Ring
import Mathlib.Tactic.Linarith

/-!
# Letter case, numerals and the order of texts

ASCII lower case, decimal and hexadecimal numerals, and comparison of texts by
code points. Among digit strings of one length that comparison is the order of
the numbers they denote.
-/

set_option autoImplicit false

namespace MotorCove.Text

def lower (s : String) : String := String.ofList (s.toList.map Char.toLower)

theorem toList_lower (s : String) : (lower s).toList = s.toList.map Char.toLower :=
  String.toList_ofList

theorem toLower_toLower (c : Char) : c.toLower.toLower = c.toLower := by
  unfold Char.toLower
  split
  · rename_i h
    rw [dif_neg]
    rintro ⟨_, h₂⟩
    have h₁ := h.1
    have h₀ := h.2
    simp only [ge_iff_le, UInt32.le_iff_toNat_le] at h₀ h₁ h₂
    simp only [UInt32.toNat_add, UInt32.toNat_sub] at h₂
    simp at h₀ h₁ h₂
    omega
  · rfl

@[simp] theorem lower_lower (s : String) : lower (lower s) = lower s := by
  apply String.toList_inj.mp
  simp only [toList_lower, List.map_map]
  exact List.map_congr_left fun c _ => toLower_toLower c

theorem lower_of_forall {s : String} (h : ∀ c ∈ s.toList, c.toLower = c) : lower s = s := by
  apply String.toList_inj.mp
  rw [toList_lower]
  exact (List.map_congr_left h).trans (List.map_id _)

def isHexDigit (c : Char) : Bool := c.isDigit || ('a' ≤ c && c ≤ 'f')

/-- The numeral of `n` with exactly `width` hexadecimal digits. -/
def hex (width n : ℕ) : String :=
  String.ofList ('0' :: 'x' ::
    (List.range width).reverse.map fun i => Nat.digitChar (n / 16^i % 16))

theorem toList_hex (width n : ℕ) : (hex width n).toList = '0' :: 'x' ::
    (List.range width).reverse.map fun i => Nat.digitChar (n / 16^i % 16) :=
  String.toList_ofList

theorem digitChar_hex {n : ℕ} (h : n < 16) :
    isHexDigit (Nat.digitChar n) = true ∧ (Nat.digitChar n).toLower = Nat.digitChar n := by
  have hall : ∀ m ∈ List.range 16, isHexDigit (Nat.digitChar m) = true ∧
      (Nat.digitChar m).toLower = Nat.digitChar m := by decide
  exact hall n (List.mem_range.mpr h)

theorem lower_hex (width n : ℕ) : lower (hex width n) = hex width n := by
  apply lower_of_forall
  intro c hc
  rw [toList_hex] at hc
  simp only [List.mem_cons, List.mem_map] at hc
  rcases hc with rfl | rfl | ⟨i, _, rfl⟩
  · decide
  · decide
  · exact (digitChar_hex (Nat.mod_lt _ (by decide))).2

/-- Comparison by code points, as a binary collation orders texts. -/
def leChars : List Char → List Char → Bool
  | [], _ => true
  | _ :: _, [] => false
  | a :: as, b :: bs => decide (a < b) || (a == b && leChars as bs)

abbrev value (cs : List Char) : ℕ := Nat.ofDigitChars 10 cs 0

theorem value_cons (c : Char) (cs : List Char) :
    value (c :: cs) = (c.toNat - '0'.toNat) * 10^cs.length + value cs := by
  rw [value, Nat.ofDigitChars_cons, Nat.ofDigitChars_eq_ofDigitChars_zero]
  ring

theorem isDigit_bounds {c : Char} (h : c.isDigit = true) : 48 ≤ c.toNat ∧ c.toNat ≤ 57 := by
  simp only [Char.isDigit, Bool.and_eq_true, decide_eq_true_eq, ge_iff_le,
    UInt32.le_iff_toNat_le] at h
  exact h

theorem value_lt {cs : List Char} (h : ∀ c ∈ cs, c.isDigit = true) :
    value cs < 10^cs.length := by
  induction cs with
  | nil => simp [value]
  | cons c cs ih =>
    have hc := isDigit_bounds (h c List.mem_cons_self)
    have hcs := ih fun d hd => h d (List.mem_cons_of_mem c hd)
    have hd : c.toNat - '0'.toNat ≤ 9 := by
      change c.toNat - 48 ≤ 9
      omega
    rw [value_cons, List.length_cons, pow_succ]
    nlinarith [Nat.mul_le_mul_right (10^cs.length) hd]

theorem leChars_iff {as bs : List Char} (hlen : as.length = bs.length)
    (ha : ∀ c ∈ as, c.isDigit = true) (hb : ∀ c ∈ bs, c.isDigit = true) :
    leChars as bs = true ↔ value as ≤ value bs := by
  induction as generalizing bs with
  | nil =>
    cases bs with
    | nil => simp [leChars]
    | cons b bs => simp at hlen
  | cons a as ih =>
    cases bs with
    | nil => simp at hlen
    | cons b bs =>
      have hlen' : as.length = bs.length := by simpa using hlen
      have ha' : ∀ c ∈ as, c.isDigit = true := fun c hc => ha c (List.mem_cons_of_mem a hc)
      have hb' : ∀ c ∈ bs, c.isDigit = true := fun c hc => hb c (List.mem_cons_of_mem b hc)
      have hda := isDigit_bounds (ha a List.mem_cons_self)
      have hdb := isDigit_bounds (hb b List.mem_cons_self)
      have hva := value_lt ha'
      have hvb := value_lt hb'
      have hlt : a < b ↔ a.toNat < b.toNat := Iff.rfl
      have heq : a = b ↔ a.toNat = b.toNat := Char.toNat_inj.symm
      rw [value_cons, value_cons, ← hlen']
      rw [← hlen'] at hvb
      change _ ↔ (a.toNat - 48) * 10^as.length + value as ≤
        (b.toNat - 48) * 10^as.length + value bs
      simp only [leChars, Bool.or_eq_true, decide_eq_true_eq, Bool.and_eq_true, beq_iff_eq, hlt,
        heq, ih hlen' ha' hb']
      constructor
      · rintro (h | ⟨h, hle⟩)
        · have hmul := Nat.mul_le_mul_right (10^as.length)
            (show a.toNat - 48 + 1 ≤ b.toNat - 48 by omega)
          nlinarith
        · rw [h]
          omega
      · intro h
        rcases Nat.lt_trichotomy a.toNat b.toNat with hab | hab | hab
        · exact .inl hab
        · refine .inr ⟨hab, ?_⟩
          rw [hab] at h
          omega
        · have hmul := Nat.mul_le_mul_right (10^as.length)
            (show b.toNat - 48 + 1 ≤ a.toNat - 48 by omega)
          nlinarith

theorem value_append (as bs : List Char) :
    value (as ++ bs) = value as * 10^bs.length + value bs := by
  rw [value, Nat.ofDigitChars_append, Nat.ofDigitChars_eq_ofDigitChars_zero]
  ring

theorem value_zeros (k : ℕ) : value (List.replicate k '0') = 0 := by
  rw [value, Nat.ofDigitChars_replicate_zero, Nat.mul_zero]

def dropZeros (cs : List Char) : List Char := (cs.reverse.dropWhile (· == '0')).reverse

theorem dropZeros_append (cs : List Char) :
    ∃ k, cs = dropZeros cs ++ List.replicate k '0' := by
  have hzeros : cs.reverse.takeWhile (· == '0') =
      List.replicate (cs.reverse.takeWhile (· == '0')).length '0' := by
    apply List.eq_replicate_iff.mpr
    refine ⟨rfl, fun c hc => ?_⟩
    simpa using List.all_eq_true.mp List.all_takeWhile c hc
  refine ⟨(cs.reverse.takeWhile (· == '0')).length, ?_⟩
  rw [← List.reverse_inj, List.reverse_append, dropZeros, List.reverse_reverse,
    List.reverse_replicate, ← hzeros, List.takeWhile_append_dropWhile]

theorem dropZeros_zeros (cs : List Char) (k : ℕ) :
    dropZeros (cs ++ List.replicate k '0') = dropZeros cs := by
  induction k with
  | zero => rw [List.replicate_zero, List.append_nil]
  | succ k ih =>
    rw [← ih, List.replicate_succ', ← List.append_assoc, dropZeros, dropZeros,
      List.reverse_append, List.reverse_singleton, List.singleton_append,
      List.dropWhile_cons_of_pos rfl]

theorem getLast?_dropZeros (cs : List Char) : (dropZeros cs).getLast? ≠ some '0' := by
  rw [dropZeros, List.getLast?_reverse]
  intro h
  have hnot := List.head?_dropWhile_not (· == '0') cs.reverse
  rw [h] at hnot
  simp at hnot

theorem dropZeros_of_getLast? {cs : List Char} (h : cs.getLast? ≠ some '0') :
    dropZeros cs = cs := by
  obtain ⟨k, hk⟩ := dropZeros_append cs
  cases k with
  | zero => rw [List.replicate_zero, List.append_nil] at hk; exact hk.symm
  | succ k =>
    rw [hk, List.replicate_succ', ← List.append_assoc, List.getLast?_concat] at h
    exact absurd rfl h

theorem value_dropZeros {cs : List Char} {k : ℕ} (h : cs = dropZeros cs ++ List.replicate k '0') :
    value cs = value (dropZeros cs) * 10^k := by
  rw [h, value_append, value_zeros, List.length_replicate, Nat.add_zero, ← h]

theorem dropZeros_of_value {cs : List Char} (h : ∀ c ∈ cs, c.isDigit = true)
    (hzero : value cs = 0) : dropZeros cs = [] := by
  have hall : cs = List.replicate cs.length '0' := by
    induction cs with
    | nil => rfl
    | cons c cs ih =>
      have hc := isDigit_bounds (h c List.mem_cons_self)
      rw [value_cons, Nat.add_eq_zero_iff, Nat.mul_eq_zero] at hzero
      have hhead : c = '0' := by
        apply Char.toNat_inj.mp
        rcases hzero.1 with h0 | hpow
        · change c.toNat - 48 = 0 at h0
          change c.toNat = 48
          omega
        · exact absurd hpow (by positivity)
      rw [List.length_cons, List.replicate_succ, hhead,
        ← ih (fun d hd => h d (List.mem_cons_of_mem c hd)) hzero.2]
  rw [hall, ← List.nil_append (List.replicate cs.length '0'), dropZeros_zeros]
  rfl

theorem repr_isDigit (n : ℕ) : ∀ c ∈ (Nat.repr n).toList, c.isDigit = true := by
  intro c hc
  rw [Nat.toList_repr] at hc
  exact Nat.isDigit_of_mem_toDigits (by decide) (by decide) hc

theorem value_repr (n : ℕ) : value (Nat.repr n).toList = n := by
  rw [Nat.toList_repr]
  exact Nat.ofDigitChars_ten_toDigits

theorem repr_injective {m n : ℕ} : Nat.repr m = Nat.repr n ↔ m = n := by
  constructor
  · intro h
    rw [← value_repr m, h, value_repr]
  · rintro rfl
    rfl

theorem repr_order {m n : ℕ} : (Nat.repr m).length < (Nat.repr n).length ∨
    (Nat.repr m).length = (Nat.repr n).length ∧
      leChars (Nat.repr m).toList (Nat.repr n).toList = true ↔ m ≤ n := by
  have hpos : ∀ k, 0 < (Nat.repr k).length := fun k => Nat.length_repr_pos
  rcases Nat.lt_trichotomy (Nat.repr m).length (Nat.repr n).length with hlt | heq | hgt
  · have hm := (Nat.length_repr_le_iff (n := m) (hpos m)).mp le_rfl
    have hn : ¬n < 10 ^ (Nat.repr m).length := by
      rw [← Nat.length_repr_le_iff (hpos m)]
      omega
    exact iff_of_true (.inl hlt) (by omega)
  · have hchars : (Nat.repr m).toList.length = (Nat.repr n).toList.length := by
      rw [String.length_toList, String.length_toList, heq]
    rw [leChars_iff hchars (repr_isDigit m) (repr_isDigit n), value_repr, value_repr]
    omega
  · have hn := (Nat.length_repr_le_iff (n := n) (hpos n)).mp le_rfl
    have hm : ¬m < 10 ^ (Nat.repr n).length := by
      rw [← Nat.length_repr_le_iff (hpos n)]
      omega
    refine iff_of_false ?_ (by omega)
    rintro (hlt | ⟨heq, _⟩)
    · omega
    · omega

theorem repr_head {n : ℕ} {c : Char} {cs : List Char} (h : (Nat.repr n).toList = c :: cs)
    (hn : 0 < n) : c ≠ '0' := by
  rintro rfl
  have hlen : cs.length + 1 = (Nat.repr n).length := by
    rw [← String.length_toList, h]
    rfl
  have hd := repr_isDigit n
  have hv := value_repr n
  rw [h] at hd hv
  have hlt := value_lt fun c hc => hd c (List.mem_cons_of_mem _ hc)
  rw [value_cons] at hv
  have hn' : n < 10^cs.length := by
    simp at hv
    omega
  rcases Nat.eq_zero_or_pos cs.length with h0 | h0
  · rw [h0] at hn'
    omega
  · have hle := (Nat.length_repr_le_iff h0).mpr hn'
    omega

theorem digitChar_toNat {c : Char} (h : c.isDigit = true) : Nat.digitChar (c.toNat - 48) = c := by
  have hc := isDigit_bounds h
  apply Char.toNat_inj.mp
  rw [Nat.toNat_digitChar_of_lt_ten (by omega)]
  omega

theorem toDigits_ofDigitChars {cs : List Char} (h : ∀ c ∈ cs, c.isDigit = true) {n : ℕ}
    (hn : 0 < n) : Nat.toDigits 10 (Nat.ofDigitChars 10 cs n) = Nat.toDigits 10 n ++ cs := by
  induction cs generalizing n with
  | nil => simp [Nat.ofDigitChars]
  | cons c cs ih =>
    have hc := isDigit_bounds (h c List.mem_cons_self)
    have hdigit : c.toNat - 48 < 10 := by omega
    rw [Nat.ofDigitChars_cons, ih (fun d hd => h d (List.mem_cons_of_mem c hd)) (by omega)]
    change Nat.toDigits 10 (10 * n + (c.toNat - 48)) ++ cs = _
    rw [← Nat.toDigits_append_toDigits (by decide) hn hdigit, Nat.toDigits_of_lt_base hdigit,
      digitChar_toNat (h c List.mem_cons_self), List.append_assoc, List.singleton_append]

theorem repr_value {cs : List Char} (h : ∀ c ∈ cs, c.isDigit = true)
    (hhead : cs = ['0'] ∨ ∃ c rest, cs = c :: rest ∧ c ≠ '0') :
    Nat.repr (value cs) = String.ofList cs := by
  rcases hhead with rfl | ⟨c, rest, rfl, hne⟩
  · rfl
  · have hc := isDigit_bounds (h c List.mem_cons_self)
    have hzero : c.toNat ≠ 48 := fun h => hne (Char.toNat_inj.mp h)
    rw [Nat.repr_eq_ofList_toDigits, value, Nat.ofDigitChars_cons, Nat.mul_zero, Nat.zero_add]
    change String.ofList (Nat.toDigits 10 (Nat.ofDigitChars 10 rest (c.toNat - 48))) = _
    rw [toDigits_ofDigitChars (fun d hd => h d (List.mem_cons_of_mem c hd)) (by omega),
      Nat.toDigits_of_lt_base (by omega), digitChar_toNat (h c List.mem_cons_self),
      List.singleton_append]

/-- Digits filled up with zeros in front are the numeral of their value, filled up. -/
theorem padStart_repr {cs : List Char} (h : ∀ c ∈ cs, c.isDigit = true) (hpos : 0 < value cs) :
    List.replicate (cs.length - (Nat.repr (value cs)).toList.length) '0' ++
      (Nat.repr (value cs)).toList = cs := by
  induction cs with
  | nil => exact absurd hpos (by decide)
  | cons c cs ih =>
    by_cases hc : c = '0'
    · subst hc
      have hvalue : value ('0' :: cs) = value cs := by
        rw [value_cons]
        simp
      rw [hvalue] at hpos ⊢
      have hcs := ih (fun d hd => h d (List.mem_cons_of_mem '0' hd)) hpos
      have hlength := congrArg List.length hcs
      rw [List.length_append, List.length_replicate] at hlength
      have hsub : ('0' :: cs).length - (Nat.repr (value cs)).toList.length =
          cs.length - (Nat.repr (value cs)).toList.length + 1 := by
        rw [List.length_cons]
        omega
      rw [hsub, List.replicate_succ, List.cons_append, hcs]
    · rw [repr_value h (.inr ⟨c, cs, rfl, hc⟩), String.toList_ofList, Nat.sub_self]
      rfl

end MotorCove.Text
