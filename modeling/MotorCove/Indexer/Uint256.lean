import Mathlib.Data.List.TakeWhile
import MotorCove.Fallible
import MotorCove.Indexer.Schema
import MotorCove.Patterns

/-!
# Validators of 256-bit numerals

The check of a text column, the codec of the database and the schema of the
API. `length`, `substr` and `GLOB` see a text up to its first NUL, and
comparisons see all of it. Without a NUL the three accept the same texts.
-/

set_option autoImplicit false

namespace MotorCove.Indexer.Uint256
open MotorCove.Fallible MotorCove.Patterns MotorCove.Text RegularExpression

def uint256Max : ℕ := 2 ^ 256 - 1

/-- The part of a text before its first NUL. -/
def cText (s : String) : List Char := s.toList.takeWhile (· != '\x00')

def sqlLength (s : String) : ℕ := (cText s).length

/-- `substr(s, 1, 1) BETWEEN '1' AND '9'`. -/
def startsPositive (s : String) : Bool :=
  leChars ['1'] ((cText s).take 1) && leChars ((cText s).take 1) ['9']

/-- `s GLOB '*[^0-9]*'`. -/
def globNonDigit (s : String) : Bool := (cText s).any fun c => !c.isDigit

/-- The check that the schema builds for a column. -/
def sqlCheck (s : String) (positive : Bool) : Bool :=
  (!positive || s != "0") && decide (1 ≤ sqlLength s ∧ sqlLength s ≤ 78) &&
    (s == "0" || startsPositive s) && !globNonDigit s &&
    (decide (sqlLength s < 78) || leChars s.toList maxUint256.toList)

/-- `/^(?:0|[1-9][0-9]{0,77})$/`. -/
def uint256Pattern : Pattern := char '0' + positiveDigit * upTo digit 77

def parseUint256 (s label : String) : Except String ℕ := do
  failIf (test uint256Pattern s = false) ("INVALID_UINT256: " ++ label)
  failIf (uint256Max < value s.toList) ("UINT256_OVERFLOW: " ++ label)
  .ok (value s.toList)

/-- The API's schema: `/^(0|[1-9]\d*)$/`, and the bound. -/
def uint256DecimalString (s : String) : Bool :=
  test numeral s && decide (value s.toList ≤ uint256Max)

/-- `ORDER BY length(s), s`. -/
def leText (s t : String) : Prop :=
  sqlLength s < sqlLength t ∨ sqlLength s = sqlLength t ∧ leChars s.toList t.toList = true

def Canonical (s : String) : Prop := ∃ n, n < 2 ^ 256 ∧ s = Nat.repr n

section
variable {s t : String}

theorem cText_of_no_nul (h : '\x00' ∉ s.toList) : cText s = s.toList := by
  rw [cText, List.takeWhile_eq_self_iff]
  intro c hc
  rw [bne_iff_ne]
  rintro rfl
  exact h hc

theorem le_chars {a b : Char} : (a < b ∨ a = b) ↔ a ≤ b := by
  have hlt : a < b ↔ a.toNat < b.toNat := Iff.rfl
  have hle : a ≤ b ↔ a.toNat ≤ b.toNat := Iff.rfl
  rw [hlt, hle, ← Char.toNat_inj]
  omega

theorem sqlCheck_eq (h : '\x00' ∉ s.toList) (positive : Bool) :
    sqlCheck s positive = canonicalUint256 s positive := by
  have hstarts : startsPositive s = s.toList.head?.any fun c => '1' ≤ c && c ≤ '9' := by
    rw [startsPositive, cText_of_no_nul h]
    cases s.toList with
    | nil => rfl
    | cons c cs =>
      rw [Bool.eq_iff_iff]
      simp only [List.take_succ_cons, List.take_zero, leChars, List.head?_cons, Option.any_some,
        Bool.and_true, Bool.and_eq_true, Bool.or_eq_true, decide_eq_true_eq, beq_iff_eq, le_chars]
  have hglob : (!globNonDigit s) = s.toList.all Char.isDigit := by
    rw [globNonDigit, cText_of_no_nul h, List.all_eq_not_any_not]
  rw [sqlCheck, canonicalUint256, hstarts, hglob, sqlLength, cText_of_no_nul h,
    String.length_toList]

theorem value_maxUint256 : value maxUint256.toList = uint256Max := by decide +kernel

/-- A text of at most 78 digits that is not above the bound is a small number's. -/
theorem lt_of_le_max (hdigits : ∀ c ∈ s.toList, c.isDigit = true) (hlength : s.length ≤ 78)
    (h : s.length < 78 ∨ leChars s.toList maxUint256.toList = true) :
    value s.toList < 2 ^ 256 := by
  by_cases hshort : s.length < 78
  · have hvalue := value_lt hdigits
    rw [String.length_toList] at hvalue
    have hpow : 10 ^ s.length ≤ 10 ^ 77 := Nat.pow_le_pow_right (by decide) (by omega)
    have hbound : 10 ^ 77 < 2 ^ 256 := by decide
    omega
  · have hle := h.resolve_left hshort
    have hlengths : s.toList.length = maxUint256.toList.length := by
      have : maxUint256.toList.length = 78 := by decide +kernel
      rw [String.length_toList]
      omega
    have hmax : maxUint256.toList.all Char.isDigit = true := by decide +kernel
    rw [leChars_iff hlengths hdigits (List.all_eq_true.mp hmax), value_maxUint256, uint256Max] at hle
    omega

theorem canonicalUint256_iff {positive : Bool} :
    canonicalUint256 s positive = true ↔ Canonical s ∧ (positive = true → s ≠ "0") := by
  constructor
  · intro h
    have hrepr := repr_of_canonicalUint256 h
    simp only [canonicalUint256, Bool.and_eq_true, Bool.or_eq_true, Bool.not_eq_true',
      bne_iff_ne, decide_eq_true_eq] at h
    obtain ⟨⟨⟨⟨hzero, _, hlength⟩, _⟩, hdigits⟩, hmax⟩ := h
    refine ⟨⟨_, lt_of_le_max (List.all_eq_true.mp hdigits) hlength hmax, hrepr.symm⟩, ?_⟩
    intro hpositive
    rcases hzero with hfalse | hne
    · rw [hpositive] at hfalse
      cases hfalse
    · exact hne
  · rintro ⟨⟨n, hn, rfl⟩, hzero⟩
    apply canonicalUint256_repr hn
    intro hpositive
    rcases Nat.eq_zero_or_pos n with rfl | hpos
    · exact absurd rfl (hzero hpositive)
    · exact hpos

theorem test_uint256Pattern : test uint256Pattern s = true ↔
    (∃ n, s = Nat.repr n) ∧ s.length ≤ 78 := by
  have hlist : (∃ n, s = Nat.repr n) ↔ ∃ n, s.toList = (Nat.repr n).toList := by
    simp only [String.toList_inj]
  rw [test_iff, uint256Pattern, matches'_add, Language.mem_add, single_positiveDigit.mem_mul,
    hlist, exists_repr, ← String.length_toList, matches'_char]
  simp only [single_digit.upTo]
  constructor
  · rintro (hzero | ⟨c, rest, hs, hc, hlength, hrest⟩)
    · refine ⟨.inl hzero, ?_⟩
      rw [show s.toList = ['0'] from hzero]
      decide
    · refine ⟨.inr ⟨c, rest, hs, hc, hrest⟩, ?_⟩
      rw [hs, List.length_cons]
      omega
  · rintro ⟨hzero | ⟨c, rest, hs, hc, hrest⟩, hlength⟩
    · exact .inl hzero
    · refine .inr ⟨c, rest, hs, hc, ?_, hrest⟩
      rw [hs, List.length_cons] at hlength
      omega

theorem length_of_canonical (h : Canonical s) : s.length ≤ 78 := by
  obtain ⟨n, hn, rfl⟩ := h
  have hbound : 2 ^ 256 < 10 ^ 78 := by decide
  exact (Nat.length_repr_le_iff (by decide)).mpr (by omega)

theorem parseUint256_ok {label : String} {n : ℕ} :
    parseUint256 s label = .ok n ↔ n < 2 ^ 256 ∧ s = Nat.repr n := by
  have hmax : ∀ m, ¬uint256Max < m ↔ m < 2 ^ 256 := by
    intro m
    rw [uint256Max]
    omega
  simp only [parseUint256, failIf_bind_ok, Bool.not_eq_false, Except.ok.injEq, hmax]
  constructor
  · rintro ⟨htest, hlt, rfl⟩
    obtain ⟨⟨m, rfl⟩, _⟩ := test_uint256Pattern.mp htest
    exact ⟨hlt, by rw [value_repr]⟩
  · rintro ⟨hlt, rfl⟩
    refine ⟨test_uint256Pattern.mpr ⟨⟨n, rfl⟩, length_of_canonical ⟨n, hlt, rfl⟩⟩, ?_, ?_⟩
    · rwa [value_repr]
    · rw [value_repr]

theorem uint256DecimalString_iff : uint256DecimalString s = true ↔ Canonical s := by
  rw [uint256DecimalString, Bool.and_eq_true, test_iff, mem_numeral, decide_eq_true_eq]
  constructor
  · rintro ⟨⟨n, hn⟩, hle⟩
    rw [hn, value_repr, uint256Max] at hle
    exact ⟨n, by omega, String.toList_inj.mp hn⟩
  · rintro ⟨n, hn, rfl⟩
    refine ⟨⟨n, rfl⟩, ?_⟩
    rw [value_repr, uint256Max]
    omega

theorem leText_iff {m n : ℕ} : leText (Nat.repr m) (Nat.repr n) ↔ m ≤ n := by
  have hnul : ∀ k, '\x00' ∉ (Nat.repr k).toList :=
    fun k hmem => absurd (repr_isDigit k _ hmem) (by decide)
  have hlength : ∀ k, sqlLength (Nat.repr k) = (Nat.repr k).length := by
    intro k
    rw [sqlLength, cText_of_no_nul (hnul k), String.length_toList]
  rw [leText, hlength, hlength]
  exact repr_order

end

/-- The three validators accept the canonical numerals and nothing else; a
positive column excludes `0`; and accepted texts are ordered as numbers. -/
theorem uint256_validators (s label : String) (h : '\x00' ∉ s.toList) :
    (sqlCheck s false = true ↔ Canonical s) ∧
    ((∃ n, parseUint256 s label = .ok n) ↔ Canonical s) ∧
    (uint256DecimalString s = true ↔ Canonical s) ∧
    (sqlCheck s true = true ↔ sqlCheck s false = true ∧ s ≠ "0") ∧
    ∀ t m n, parseUint256 s label = .ok m → parseUint256 t label = .ok n →
      (leText s t ↔ m ≤ n) := by
  refine ⟨?_, ?_, uint256DecimalString_iff, ?_, fun t m n hs ht => ?_⟩
  · rw [sqlCheck_eq h, canonicalUint256_iff]
    simp
  · simp only [parseUint256_ok]
    exact Iff.rfl
  · rw [sqlCheck_eq h, sqlCheck_eq h, canonicalUint256_iff, canonicalUint256_iff]
    simp
  · rw [(parseUint256_ok.mp hs).2, (parseUint256_ok.mp ht).2, leText_iff]

theorem uint256_validators_seven : '\x00' ∉ "7".toList ∧
    (sqlCheck "7" false = true ↔ Canonical "7") ∧
    (parseUint256 "7" "saleId" = .ok 7 ∧ parseUint256 "12" "saleId" = .ok 12 ∧
      (leText "7" "12" ↔ 7 ≤ 12)) := by
  have hnul : '\x00' ∉ "7".toList := by decide
  have hseven : parseUint256 "7" "saleId" = .ok 7 := parseUint256_ok.mpr ⟨by decide, rfl⟩
  have htwelve : parseUint256 "12" "saleId" = .ok 12 := parseUint256_ok.mpr ⟨by decide, rfl⟩
  have h := uint256_validators "7" "saleId" hnul
  exact ⟨hnul, h.1, hseven, htwelve, h.2.2.2.2 "12" 7 12 hseven htwelve⟩

end MotorCove.Indexer.Uint256
