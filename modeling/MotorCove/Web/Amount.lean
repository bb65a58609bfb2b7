import MotorCove.Patterns
import Mathlib.Tactic.FieldSimp

/-!
# ETH amounts

What the price field reads and how an amount of wei is displayed. A numeral
has a whole part and up to eighteen digits after its point; it is read as the
wei that it denotes, and displayed without its last zeros.
-/

set_option autoImplicit false

namespace MotorCove.Web
open MotorCove.Text MotorCove.Patterns RegularExpression

/-- `/^(0|[1-9]\d*)(\.\d{1,18})?$/`. -/
def ethPattern : Pattern := numeral * (1 + char '.' * between digit 1 18)

def padEnd (cs : List Char) (length : ℕ) : List Char :=
  cs ++ List.replicate (length - cs.length) '0'

def padStart (cs : List Char) (length : ℕ) : List Char :=
  List.replicate (length - cs.length) '0' ++ cs

def weiPerEth : ℤ := 10 ^ 18

def parseEth (text : String) : Except String ℤ :=
  if test ethPattern text then
    let parts := text.toList.splitOn '.'
    let whole := (parts[0]?).getD ['0']
    let fraction := (parts[1]?).getD []
    let wei : ℤ := value whole * weiPerEth + value (padEnd fraction 18)
    if wei ≤ 0 then .error "Price must be greater than zero" else .ok wei
  else .error "Enter a positive ETH amount with at most 18 decimals"

def formatWeiAsEth (wei : ℤ) : Except String String :=
  if wei < 0 then .error "Wei amount must not be negative"
  else
    let whole := wei / weiPerEth
    let remainder := wei % weiPerEth
    if remainder = 0 then .ok (toString whole ++ " ETH")
    else
      let fraction := dropZeros (padStart (toString remainder).toList 18)
      .ok (toString whole ++ "." ++ String.ofList fraction ++ " ETH")

/-- A decimal numeral: a whole part, and up to eighteen digits after a point. -/
structure EthNumeral where
  whole : ℕ
  fraction : List Char
  digits : ∀ c ∈ fraction, c.isDigit = true
  length_le : fraction.length ≤ 18

def EthNumeral.text (d : EthNumeral) : String :=
  if d.fraction = [] then Nat.repr d.whole
  else Nat.repr d.whole ++ "." ++ String.ofList d.fraction

def EthNumeral.amount (d : EthNumeral) : ℚ :=
  d.whole + value d.fraction / 10 ^ d.fraction.length

def EthNumeral.wei (d : EthNumeral) : ℕ := d.whole * 10 ^ 18 + value (padEnd d.fraction 18)

def EthNumeral.trimmed (d : EthNumeral) : EthNumeral where
  whole := d.whole
  fraction := dropZeros d.fraction
  digits := by
    obtain ⟨k, hk⟩ := dropZeros_append d.fraction
    intro c hc
    exact d.digits c (hk ▸ List.mem_append_left _ hc)
  length_le := by
    obtain ⟨k, hk⟩ := dropZeros_append d.fraction
    have hlength := congrArg List.length hk
    rw [List.length_append] at hlength
    have := d.length_le
    omega

/-- A text with a point, without the zeros after it at the end, and without the
point when nothing follows it. -/
def trimFraction (text : String) : String :=
  if '.' ∈ text.toList then
    let trimmed := dropZeros text.toList
    String.ofList (if trimmed.getLast? = some '.' then trimmed.dropLast else trimmed)
  else text

variable (d : EthNumeral)

theorem value_padEnd (cs : List Char) (length : ℕ) :
    value (padEnd cs length) = value cs * 10 ^ (length - cs.length) := by
  rw [padEnd, value_append, value_zeros, List.length_replicate, Nat.add_zero]

theorem EthNumeral.wei_eq : (d.wei : ℚ) = d.amount * 10 ^ 18 := by
  have hpow : (10 : ℚ) ^ 18 = 10 ^ (18 - d.fraction.length) * 10 ^ d.fraction.length := by
    rw [← pow_add, Nat.sub_add_cancel d.length_le]
  have hcast : (d.wei : ℚ) = d.whole * 10 ^ 18 +
      value d.fraction * 10 ^ (18 - d.fraction.length) := by
    rw [EthNumeral.wei, value_padEnd]
    norm_cast
  rw [hcast, EthNumeral.amount, add_mul, hpow]
  field_simp

theorem EthNumeral.toList_text : d.text.toList = (Nat.repr d.whole).toList ++
    if d.fraction = [] then [] else '.' :: d.fraction := by
  unfold EthNumeral.text
  split
  · rw [List.append_nil]
  · simp

theorem test_ethPattern {text : String} :
    test ethPattern text = true ↔ ∃ d : EthNumeral, d.text = text := by
  rw [test_iff, ethPattern, matches'_mul, Language.mem_mul]
  constructor
  · rintro ⟨a, ha, b, hb, hab⟩
    obtain ⟨n, rfl⟩ := mem_numeral.mp ha
    rw [matches'_add, Language.mem_add, matches'_epsilon, Language.mem_one, matches'_mul,
      Language.mem_mul] at hb
    rcases hb with rfl | ⟨_, rfl, fraction, hfraction, rfl⟩
    · refine ⟨⟨n, [], fun _ hc => absurd hc List.not_mem_nil, by simp⟩, ?_⟩
      rw [← String.toList_inj, EthNumeral.toList_text, ← hab]
      rfl
    · obtain ⟨hlength, hle, hdigits⟩ := (single_digit.between (by decide) _).mp hfraction
      refine ⟨⟨n, fraction, hdigits, hle⟩, ?_⟩
      have hne : fraction ≠ [] := by
        rintro rfl
        simp at hlength
      rw [← String.toList_inj, EthNumeral.toList_text, if_neg hne, ← hab]
      rfl
  · rintro ⟨d, rfl⟩
    refine ⟨_, mem_numeral.mpr ⟨d.whole, rfl⟩, _, ?_, d.toList_text.symm⟩
    rw [matches'_add, Language.mem_add, matches'_epsilon, Language.mem_one, matches'_mul,
      Language.mem_mul]
    by_cases hnil : d.fraction = []
    · rw [if_pos hnil]
      exact .inl rfl
    · rw [if_neg hnil]
      have hlength : 1 ≤ d.fraction.length := List.length_pos_iff.mpr hnil
      exact .inr ⟨['.'], rfl, d.fraction, (single_digit.between (by decide) _).mpr
        ⟨hlength, d.length_le, d.digits⟩, rfl⟩

theorem not_mem_digits {cs : List Char} (h : ∀ c ∈ cs, c.isDigit = true) : '.' ∉ cs :=
  fun hmem => absurd (h '.' hmem) (by decide)

theorem EthNumeral.splitOn_text : d.text.toList.splitOn '.' =
    if d.fraction = [] then [(Nat.repr d.whole).toList]
    else [(Nat.repr d.whole).toList, d.fraction] := by
  have hwhole := not_mem_digits (repr_isDigit d.whole)
  have hfraction := not_mem_digits d.digits
  rw [EthNumeral.toList_text]
  split
  · rw [List.append_nil, List.splitOn_eq_singleton hwhole]
  · rw [List.splitOn_append_cons_self_of_not_mem hwhole, List.splitOn_eq_singleton hfraction]

theorem EthNumeral.parseEth_text : parseEth d.text =
    if d.wei = 0 then .error "Price must be greater than zero" else .ok d.wei := by
  have hsum : (value (Nat.repr d.whole).toList * weiPerEth + value (padEnd d.fraction 18) : ℤ) =
      d.wei := by
    rw [value_repr, EthNumeral.wei, weiPerEth]
    norm_cast
  have hparts : (if d.fraction = [] then [(Nat.repr d.whole).toList]
      else [(Nat.repr d.whole).toList, d.fraction])[0]?.getD ['0'] = (Nat.repr d.whole).toList ∧
      (if d.fraction = [] then [(Nat.repr d.whole).toList]
        else [(Nat.repr d.whole).toList, d.fraction])[1]?.getD [] = d.fraction := by
    split
    · rename_i hnil
      exact ⟨rfl, hnil.symm⟩
    · exact ⟨rfl, rfl⟩
  unfold parseEth
  rw [if_pos (test_ethPattern.mpr ⟨d, rfl⟩)]
  simp only [EthNumeral.splitOn_text, hparts, hsum]
  by_cases hzero : d.wei = 0
  · rw [if_pos hzero, if_pos (by omega)]
  · rw [if_neg hzero, if_neg (by omega)]

theorem EthNumeral.digits_padEnd : ∀ c ∈ padEnd d.fraction 18, c.isDigit = true := by
  intro c hc
  rcases List.mem_append.mp hc with hc | hc
  · exact d.digits c hc
  · rw [(List.mem_replicate.mp hc).2]
    decide

theorem EthNumeral.length_padEnd : (padEnd d.fraction 18).length = 18 := by
  have := d.length_le
  rw [padEnd, List.length_append, List.length_replicate]
  omega

theorem EthNumeral.wei_trimmed : d.trimmed.wei = d.wei := by
  obtain ⟨k, hk⟩ := dropZeros_append d.fraction
  have hlength := congrArg List.length hk
  rw [List.length_append, List.length_replicate] at hlength
  have hle := d.length_le
  have hsum : 18 - (dropZeros d.fraction).length = k + (18 - d.fraction.length) := by omega
  show d.whole * 10 ^ 18 + value (padEnd (dropZeros d.fraction) 18) = d.wei
  rw [EthNumeral.wei, value_padEnd, value_padEnd, value_dropZeros hk, hsum, pow_add, mul_assoc]

theorem EthNumeral.formatWeiAsEth_wei :
    formatWeiAsEth d.wei = .ok (d.trimmed.text ++ " ETH") := by
  have hlt : value (padEnd d.fraction 18) < 10 ^ 18 := by
    have := value_lt d.digits_padEnd
    rwa [d.length_padEnd] at this
  have hwhole : (d.wei : ℤ) / weiPerEth = d.whole := by
    rw [weiPerEth, EthNumeral.wei]
    omega
  have hremainder : (d.wei : ℤ) % weiPerEth = value (padEnd d.fraction 18) := by
    rw [weiPerEth, EthNumeral.wei]
    omega
  unfold formatWeiAsEth
  rw [if_neg (by omega), hwhole, hremainder]
  have hdrop : dropZeros (padEnd d.fraction 18) = dropZeros d.fraction := dropZeros_zeros _ _
  dsimp only
  by_cases hzero : value (padEnd d.fraction 18) = 0
  · have hnil := dropZeros_of_value d.digits_padEnd hzero
    rw [hdrop] at hnil
    rw [if_pos (by omega), EthNumeral.text, EthNumeral.trimmed, if_pos hnil]
    rfl
  · have hpad : padStart (toString (value (padEnd d.fraction 18) : ℤ)).toList 18 =
        padEnd d.fraction 18 := by
      have hrepr := padStart_repr d.digits_padEnd (Nat.pos_of_ne_zero hzero)
      rwa [d.length_padEnd] at hrepr
    have hne : dropZeros d.fraction ≠ [] := by
      intro hnil
      obtain ⟨k, hk⟩ := dropZeros_append (padEnd d.fraction 18)
      apply hzero
      rw [value_dropZeros hk, hdrop, hnil]
      simp
    rw [if_neg (by omega), hpad, hdrop, EthNumeral.text, EthNumeral.trimmed, if_neg hne]
    rfl

theorem EthNumeral.trimFraction_text : trimFraction d.text = d.trimmed.text := by
  have hwhole := not_mem_digits (repr_isDigit d.whole)
  unfold trimFraction
  by_cases hnil : d.fraction = []
  · have htrimmed : d.trimmed.fraction = [] := by
      show dropZeros d.fraction = []
      rw [hnil]
      rfl
    have hpoint : '.' ∉ d.text.toList := by
      rw [EthNumeral.toList_text, if_pos hnil, List.append_nil]
      exact hwhole
    rw [if_neg hpoint, EthNumeral.text, EthNumeral.text, if_pos hnil, if_pos htrimmed]
    rfl
  · obtain ⟨k, hk⟩ := dropZeros_append d.fraction
    have hlist : d.text.toList =
        ((Nat.repr d.whole).toList ++ '.' :: dropZeros d.fraction) ++ List.replicate k '0' := by
      rw [EthNumeral.toList_text, if_neg hnil, List.append_assoc, List.cons_append, ← hk]
    have hlast : ((Nat.repr d.whole).toList ++ '.' :: dropZeros d.fraction).getLast? =
        ('.' :: dropZeros d.fraction).getLast? := by
      rw [List.getLast?_append_of_ne_nil _ (List.cons_ne_nil _ _)]
    have hpoint : '.' ∈ d.text.toList := by
      rw [hlist]
      simp
    rw [if_pos hpoint, hlist, dropZeros_zeros]
    dsimp only
    rw [EthNumeral.text, EthNumeral.trimmed]
    by_cases hzeros : dropZeros d.fraction = []
    · rw [if_pos hzeros]
      simp only [hzeros]
      rw [dropZeros_of_getLast? (by simp), if_pos (by simp), List.dropLast_concat,
        String.ofList_toList]
    · have hend : ('.' :: dropZeros d.fraction).getLast? = (dropZeros d.fraction).getLast? := by
        rw [List.getLast?_cons_of_ne_nil hzeros]
      have hdot : ((Nat.repr d.whole).toList ++ '.' :: dropZeros d.fraction).getLast? ≠
          some '.' := by
        rw [hlast, hend]
        intro hmem
        exact not_mem_digits d.trimmed.digits (List.mem_of_getLast? hmem)
      rw [if_neg hzeros, dropZeros_of_getLast?, if_neg hdot]
      · rw [← String.toList_inj]
        simp
      · rw [hlast, hend]
        exact getLast?_dropZeros _

theorem exists_numeral (wei : ℕ) : ∃ d : EthNumeral, d.wei = wei := by
  have hlt : wei % 10 ^ 18 < 10 ^ 18 := Nat.mod_lt _ (by decide)
  have hlength : (Nat.repr (wei % 10 ^ 18)).toList.length ≤ 18 := by
    rw [String.length_toList]
    exact (Nat.length_repr_le_iff (by decide)).mpr hlt
  have hvalue : value (padStart (Nat.repr (wei % 10 ^ 18)).toList 18) = wei % 10 ^ 18 := by
    rw [padStart, value_append, value_zeros, value_repr, Nat.zero_mul, Nat.zero_add]
  have hfull : (padStart (Nat.repr (wei % 10 ^ 18)).toList 18).length = 18 := by
    rw [padStart, List.length_append, List.length_replicate]
    omega
  refine ⟨⟨wei / 10 ^ 18, padStart (Nat.repr (wei % 10 ^ 18)).toList 18, fun c hc => ?_,
    hfull.le⟩, ?_⟩
  · rcases List.mem_append.mp hc with hc | hc
    · rw [(List.mem_replicate.mp hc).2]
      decide
    · exact repr_isDigit _ c hc
  · rw [EthNumeral.wei, value_padEnd]
    simp only [hfull, hvalue]
    omega

theorem parseEth_ok {text : String} {wei : ℤ} : parseEth text = .ok wei ↔
    ∃ d : EthNumeral, d.text = text ∧ 0 < d.wei ∧ wei = d.wei := by
  constructor
  · intro h
    by_cases htest : test ethPattern text = true
    · obtain ⟨d, rfl⟩ := test_ethPattern.mp htest
      rw [d.parseEth_text] at h
      split at h
      · cases h
      · rename_i hne
        exact ⟨d, rfl, Nat.pos_of_ne_zero hne, (Except.ok.inj h).symm⟩
    · rw [parseEth, if_neg htest] at h
      cases h
  · rintro ⟨d, rfl, hpos, rfl⟩
    rw [d.parseEth_text, if_neg hpos.ne']

/-- Entry and display are inverse: what is displayed is read back as it was,
what is read is exactly the amount of a positive numeral, and what is read is
displayed as it was entered, without the zeros at its end. -/
theorem parseEth_formatWeiAsEth :
    (∀ wei : ℤ, 0 < wei → ∃ text, formatWeiAsEth wei = .ok (text ++ " ETH") ∧
      parseEth text = .ok wei) ∧
    (∀ text wei, parseEth text = .ok wei ↔ ∃ d : EthNumeral, d.text = text ∧ 0 < d.amount ∧
      (wei : ℚ) = d.amount * 10 ^ 18) ∧
    ∀ text wei, parseEth text = .ok wei →
      formatWeiAsEth wei = .ok (trimFraction text ++ " ETH") := by
  have hpositive : ∀ d : EthNumeral, 0 < d.amount ↔ 0 < d.wei := by
    intro d
    have hwei := d.wei_eq
    rw [← Nat.cast_pos (α := ℚ), hwei]
    simp
  refine ⟨fun wei hpos => ?_, fun text wei => ?_, fun text wei h => ?_⟩
  · obtain ⟨n, rfl⟩ := Int.eq_ofNat_of_zero_le hpos.le
    obtain ⟨d, hd⟩ := exists_numeral n
    refine ⟨d.trimmed.text, ?_, parseEth_ok.mpr ⟨d.trimmed, rfl, ?_, ?_⟩⟩
    · rw [← hd, d.formatWeiAsEth_wei]
    · rw [d.wei_trimmed, hd]
      omega
    · rw [d.wei_trimmed, hd]
  · rw [parseEth_ok]
    apply exists_congr
    intro d
    apply and_congr_right
    intro _
    apply and_congr (hpositive d).symm
    rw [← d.wei_eq]
    norm_cast
  · obtain ⟨d, rfl, _, rfl⟩ := parseEth_ok.mp h
    rw [d.formatWeiAsEth_wei, d.trimFraction_text]

theorem parseEth_formatWeiAsEth_price :
    (0 < (500000000000000 : ℤ) ∧ ∃ text, formatWeiAsEth 500000000000000 = .ok (text ++ " ETH") ∧
      parseEth text = .ok 500000000000000) ∧
    parseEth "0.00050" = .ok 500000000000000 ∧
    formatWeiAsEth 500000000000000 = .ok (trimFraction "0.00050" ++ " ETH") := by
  have hparse : parseEth "0.00050" = .ok 500000000000000 := by decide +kernel
  exact ⟨⟨by decide, parseEth_formatWeiAsEth.1 500000000000000 (by decide)⟩, hparse,
    parseEth_formatWeiAsEth.2.2 "0.00050" 500000000000000 hparse⟩

end MotorCove.Web
