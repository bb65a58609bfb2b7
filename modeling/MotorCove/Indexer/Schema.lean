import Mathlib.Data.Nat.Log
import MotorCove.Text

/-!
# Column values and checks

What a number becomes on its way into an integer column and back, and the
checks that the schema puts on its text and integer columns. A number passes
through a double, so a value from `2^53` on may be rounded, and one from
`2^63` on stays a floating-point cell.
-/

set_option autoImplicit false

namespace MotorCove.Indexer
open MotorCove.Text

/-- The nearest double of a natural number, ties to the even significand. -/
def toDouble (n : ℕ) : ℕ :=
  if n < 2^53 then n
  else
    let unit := 2^(Nat.log2 n - 52)
    let q := n / unit
    let r := n % unit
    if 2 * r < unit ∨ (2 * r = unit ∧ q % 2 = 0) then q * unit else (q + 1) * unit

/-- `Number(text)` for the texts that occur: the digits the decoder writes, and
a floating-point cell read back, as in `9.2233720368547758e+18`. -/
def number (text : String) : Option ℕ :=
  if text.toList.all Char.isDigit then some (toDouble (value text.toList))
  else
    let mantissa := text.toList.takeWhile (· != 'e')
    let scale := text.toList.drop mantissa.length
    let whole := mantissa.takeWhile (· != '.')
    let fraction := mantissa.drop (whole.length + 1)
    let exponent := value (scale.drop 2)
    if scale.take 2 == ['e', '+'] && (whole ++ fraction ++ scale.drop 2).all Char.isDigit &&
        fraction.length ≤ exponent then
      some (toDouble (value (whole ++ fraction) * 10^(exponent - fraction.length)))
    else none

/-- A cell of a column with integer affinity. -/
inductive Cell where
  | integer (n : ℕ)
  | real (n : ℕ)
  deriving DecidableEq, Repr

def Cell.ofDouble (n : ℕ) : Cell := if n < 2^63 then .integer n else .real n

/-- A floating-point cell as text: seventeen significant digits and an exponent. -/
def realText (n : ℕ) : String :=
  let exponent := (Nat.repr n).length - 1
  let kept := n / 10^(exponent - 16)
  let rounded := if 5 ≤ n / 10^(exponent - 17) % 10 then kept + 1 else kept
  let digits := (Nat.repr rounded).toList
  let exponent := if digits.length = 18 then exponent + 1 else exponent
  let fraction := dropZeros (digits.drop 1)
  String.ofList (digits.take 1 ++ '.' :: (if fraction = [] then ['0'] else fraction)) ++
    "e+" ++ Nat.repr exponent

/-- `CAST(column AS TEXT)`. -/
def Cell.text : Cell → String
  | .integer n => Nat.repr n
  | .real n => realText n

def maxSafeInteger : ℕ := 9007199254740991

def safeInteger (n : ℕ) : Bool := n ≤ maxSafeInteger

def maxUint256 : String :=
  "115792089237316195423570985008687907853269984665640564039457584007913129639935"

def canonicalUint256 (value : String) (positive : Bool) : Bool :=
  (!positive || value != "0") && decide (1 ≤ value.length ∧ value.length ≤ 78) &&
    (value == "0" || (value.toList.head?.any fun c => '1' ≤ c && c ≤ '9')) &&
    value.toList.all Char.isDigit &&
    (decide (value.length < 78) || leChars value.toList maxUint256.toList)

def hexLength (value : String) (chars : ℕ) : Bool :=
  value.length == chars + 2 && value.toList.take 2 == ['0', 'x'] && lower value == value &&
    (value.toList.drop 2).all isHexDigit

theorem toDouble_of_lt {n : ℕ} (h : n < 2^53) : toDouble n = n := if_pos h

theorem number_repr (n : ℕ) : number (Nat.repr n) = some (toDouble n) := by
  rw [number, if_pos (List.all_eq_true.mpr (repr_isDigit n)), value_repr]

theorem safeInteger_iff {n : ℕ} : safeInteger n = true ↔ n < 2^53 := by
  rw [safeInteger, decide_eq_true_eq, maxSafeInteger]
  omega

theorem canonicalUint256_repr {n : ℕ} {positive : Bool} (h : n < 2^256)
    (hpos : positive = true → 0 < n) : canonicalUint256 (Nat.repr n) positive = true := by
  have hd := repr_isDigit n
  have hlen : (Nat.repr n).length ≤ 78 := by
    refine (Nat.length_repr_le_iff (by decide)).mpr (lt_of_lt_of_le h ?_)
    norm_num
  have h0 : 0 < (Nat.repr n).length := Nat.length_repr_pos
  have hzero : Nat.repr n = "0" ↔ n = 0 := by
    rw [show "0" = Nat.repr 0 from rfl]
    exact repr_injective
  simp only [canonicalUint256, Bool.and_eq_true, Bool.or_eq_true, Bool.not_eq_true', bne_iff_ne,
    decide_eq_true_eq, beq_iff_eq, ne_eq, hzero]
  refine ⟨⟨⟨⟨?_, h0, hlen⟩, ?_⟩, List.all_eq_true.mpr hd⟩, ?_⟩
  · cases positive with
    | false => exact .inl rfl
    | true => exact .inr (Nat.pos_iff_ne_zero.mp (hpos rfl))
  · -- the first digit of a positive numeral is not a zero
    rcases Nat.eq_zero_or_pos n with hn | hn
    · exact .inl hn
    · right
      match hs : (Nat.repr n).toList with
      | [] =>
        rw [← String.length_toList, hs] at h0
        simp at h0
      | c :: cs =>
        rw [hs] at hd
        have hc := isDigit_bounds (hd c List.mem_cons_self)
        have hne : c.toNat ≠ 48 := fun he => repr_head hs hn (Char.toNat_inj.mp he)
        simp only [List.head?_cons, Option.any_some, Bool.and_eq_true, decide_eq_true_eq]
        constructor
        · change 49 ≤ c.toNat
          omega
        · change c.toNat ≤ 57
          omega
  · rcases Nat.lt_or_ge (Nat.repr n).length 78 with hl | hl
    · exact .inl hl
    · right
      have heq : (Nat.repr n).toList.length = maxUint256.toList.length := by
        rw [String.length_toList]
        have : maxUint256.toList.length = 78 := by decide +kernel
        omega
      have hdigits : maxUint256.toList.all Char.isDigit = true := by decide +kernel
      rw [leChars_iff heq hd (List.all_eq_true.mp hdigits), value_repr]
      have : value maxUint256.toList = 2^256 - 1 := by decide +kernel
      omega

theorem repr_of_canonicalUint256 {text : String} {positive : Bool}
    (h : canonicalUint256 text positive = true) : Nat.repr (value text.toList) = text := by
  simp only [canonicalUint256, Bool.and_eq_true, Bool.or_eq_true, beq_iff_eq] at h
  obtain ⟨⟨⟨_, hhead⟩, hdigits⟩, _⟩ := h
  rw [repr_value (List.all_eq_true.mp hdigits), String.ofList_toList]
  rcases hhead with rfl | hhead
  · exact .inl rfl
  · right
    cases hs : text.toList with
    | nil => simp [hs] at hhead
    | cons c cs =>
      refine ⟨c, cs, rfl, ?_⟩
      rintro rfl
      simp [hs] at hhead

theorem hexLength_hex (width n : ℕ) : hexLength (hex width n) width = true := by
  have hlen : (hex width n).length = width + 2 := by
    rw [← String.length_toList, toList_hex]
    simp
  simp only [hexLength, hlen, lower_hex, beq_self_eq_true, Bool.true_and, Bool.and_true,
    Bool.and_eq_true, toList_hex]
  refine ⟨rfl, List.all_eq_true.mpr fun c hc => ?_⟩
  simp only [List.drop_succ_cons, List.drop_zero, List.mem_map] at hc
  obtain ⟨i, _, rfl⟩ := hc
  exact (digitChar_hex (Nat.mod_lt _ (by decide))).1

theorem lower_of_hexLength {s : String} {chars : ℕ} (h : hexLength s chars = true) :
    lower s = s := by
  simp only [hexLength, Bool.and_eq_true, beq_iff_eq] at h
  exact h.1.2

end MotorCove.Indexer
