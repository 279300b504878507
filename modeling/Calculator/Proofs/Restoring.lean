import Calculator.Proofs.Continuing
import Calculator.Proofs.Lexemes
import Calculator.Proofs.Shown

/-! Reading back what is shown. The text of a number is one numeral after its sign, and both readers
take it for the same number. This has the sign of the number shown, and as many of its digits as are
shown: it is rounded from a decimal fraction that is rounded from the number. -/
namespace Calculator

open Number

namespace Number

def greatest : ℚ := (2 ^ 53 - 1 : ℕ) * 2 ^ 971

theorem floatGrid_pred_finiteCount : floatGrid (finiteCount - 1) = greatest := by
  rw [show finiteCount - 1 = 2045 * 2 ^ 52 + (2 ^ 53 - 1) from rfl,
    floatGrid_eq (Nat.sub_le _ _) (.inr (by norm_num)), greatest, ← zpow_natCast]
  rfl

/-- Seven digits of the greatest number, which is rounded down to them. -/
theorem greatest_bounds :
    1797693 * 10 ^ 302 ≤ greatest ∧ 2 * greatest < (2 * 1797693 + 1) * 10 ^ 302 := by
  have low : 1797693 * 10 ^ 302 ≤ (2 ^ 53 - 1) * 2 ^ 971 := by decide +kernel
  have high : 2 * ((2 ^ 53 - 1) * 2 ^ 971) < (2 * 1797693 + 1) * 10 ^ 302 := by decide +kernel
  have lowCast : ((1797693 * 10 ^ 302 : ℕ) : ℚ) ≤ ((2 ^ 53 - 1) * 2 ^ 971 : ℕ) := Nat.cast_le.2 low
  have highCast : ((2 * ((2 ^ 53 - 1) * 2 ^ 971) : ℕ) : ℚ) < ((2 * 1797693 + 1) * 10 ^ 302 : ℕ) :=
    Nat.cast_lt.2 high
  rw [Nat.cast_mul, Nat.cast_mul, Nat.cast_pow, Nat.cast_pow, Nat.cast_ofNat, Nat.cast_ofNat,
    Nat.cast_ofNat] at lowCast
  rw [Nat.cast_mul, Nat.cast_mul, Nat.cast_mul, Nat.cast_pow, Nat.cast_pow, Nat.cast_ofNat,
    Nat.cast_ofNat, Nat.cast_add, Nat.cast_mul, Nat.cast_ofNat, Nat.cast_ofNat, Nat.cast_one]
    at highCast
  exact ⟨lowCast, highCast⟩

/-- Decimal fractions up to the greatest number are not rounded to infinity. -/
theorem RoundsTo.lt_finiteCount {t : ℚ} {m : ℕ} (h : RoundsTo floatGrid t m) (le : t ≤ greatest) :
    m < finiteCount := by
  rw [← floatGrid_pred_finiteCount] at le
  have := h.le_of_le strictMono_floatGrid le
  have : 0 < finiteCount := by decide
  omega

theorem le_greatest {x : Float} (finite : x.isFinite) : |exact x| ≤ greatest := by
  obtain ⟨n, lt, -, size⟩ := exists_abs finite
  rw [size, ← floatGrid_pred_finiteCount]
  exact strictMono_floatGrid.monotone (Nat.le_sub_one_of_lt lt)

end Number

namespace Display

variable {lib : Elementary} {x : Float} {t : ℚ}

/-- `m` is the exponent of the first digit of `q`, as a logarithm with a small error gives it. -/
def IsMagnitude (m : ℤ) (q : ℚ) : Prop :=
  10 ^ m * (1 - 2 / 10 ^ 13) ≤ q ∧ q < 10 ^ (m + 1) * (1 + 2 / 10 ^ 13)

theorem Shows.abs_sub_le_outer (h : Shows lib x t) (outer : IsOuter |exact x|) :
    |t - (|exact x|)| ≤ |exact x| / (2 * 10 ^ 6) := by
  cases h with
  | zero zero => simp [zero]
  | inner isInner => exact absurd outer isInner
  | @outer m e ne isOuter low high rounds =>
    have inverse : (10 : ℚ) ^ (6 - e) = (10 ^ (e - 6))⁻¹ := by
      rw [← zpow_neg, neg_sub]
    rw [inverse, ← div_eq_mul_inv] at rounds
    calc |m * 10 ^ (e - 6) - (|exact x|)| ≤ 10 ^ (e - 6) / 2 :=
          rounds.abs_mul_sub_le (by positivity) (abs_nonneg _)
      _ = 10 ^ e / (2 * 10 ^ 6) := by
        rw [zpow_sub₀ (by norm_num)]
        norm_num
        ring
      _ ≤ |exact x| / (2 * 10 ^ 6) := by gcongr

/-- An integer is shown as it is. -/
theorem Shows.eq_of_integral (h : Shows lib x t) (inner : ¬IsOuter |exact x|) {i : ℕ}
    (integral : |exact x| = i) : t = |exact x| := by
  cases h with
  | zero zero => simp [zero]
  | outer ne outer => exact absurd outer inner
  | @inner m _ rounds =>
    have places : decimals lib x = 0 := if_pos ((Binary.isInteger_iff _).2 ⟨i, integral⟩)
    rw [places, pow_zero, mul_one, integral] at rounds
    rw [places, pow_zero, div_one, integral,
      rounds.unique strictMono_natCast (.self strictMono_natCast i)]

theorem Shows.abs_sub_le_inner (h : Shows lib x t) (inner : ¬IsOuter |exact x|) :
    |t - (|exact x|)| ≤ (10 ^ decimals lib x)⁻¹ / 2 := by
  cases h with
  | zero zero =>
    rw [zero, abs_zero, sub_zero, abs_zero]
    positivity
  | outer ne outer => exact absurd outer inner
  | @inner m _ rounds =>
    rw [← div_inv_eq_mul] at rounds
    rw [div_eq_mul_inv]
    exact rounds.abs_mul_sub_le (by positivity) (abs_nonneg _)

/-- Twelve digits are shown where the logarithm is right, and the integers before. -/
theorem Shows.abs_sub_le_relative (h : Shows lib x t) (inner : ¬IsOuter |exact x|)
    (log : IsMagnitude (magnitude lib x) |exact x|) :
    |t - (|exact x|)| ≤ |exact x| * (6 / 10 ^ 12) := by
  by_cases integral : (Binary.ofFloat x).isInteger
  · obtain ⟨i, integral⟩ := (Binary.isInteger_iff _).1 integral
    rw [h.eq_of_integral inner integral, sub_self, abs_zero]
    positivity
  have decimals_eq : decimals lib x = places lib x := if_neg integral
  have near := h.abs_sub_le_inner inner
  have unit : ((10 : ℚ) ^ places lib x)⁻¹ ≤ 10 ^ (magnitude lib x - 11) := by
    rw [places, ← zpow_natCast, ← zpow_neg]
    exact zpow_le_zpow_right₀ (by norm_num) (by omega)
  have low := log.1
  have shift : (10 : ℚ) ^ magnitude lib x = 10 ^ (magnitude lib x - 11) * 10 ^ 11 := by
    rw [zpow_sub₀ (by norm_num)]
    norm_num
  rw [shift] at low
  rw [decimals_eq] at near
  have pos : (0 : ℚ) < 10 ^ (magnitude lib x - 11) := by positivity
  generalize (10 : ℚ) ^ (magnitude lib x - 11) = u at *
  linarith

theorem add_one_le_greatest : (10 ^ 15 + 1 : ℚ) ≤ greatest := by
  calc (10 ^ 15 + 1 : ℚ) ≤ 1797693 * 10 ^ 15 := by norm_num
    _ ≤ 1797693 * 10 ^ 302 := by gcongr <;> norm_num
    _ ≤ greatest := greatest_bounds.1

/-- Below the exponent of the greatest number even a carry stays small. -/
theorem mul_zpow_le_greatest {m : ℕ} {e : ℤ} (carry : m ≤ 10 ^ 7) (small : e < 308) :
    (m * 10 ^ (e - 6) : ℚ) ≤ greatest := by
  calc (m * 10 ^ (e - 6) : ℚ) ≤ (10 ^ 7 : ℕ) * 10 ^ ((302 : ℤ) - 1) :=
        mul_le_mul (Nat.cast_le.2 carry) (zpow_le_zpow_right₀ (by norm_num) (by omega))
          (by positivity) (by positivity)
    _ = 10 ^ 6 * 10 ^ 302 := by
      rw [zpow_sub_one₀ (by norm_num), zpow_ofNat]
      generalize (10 : ℚ) ^ 302 = u
      norm_num
      ring
    _ ≤ 1797693 * 10 ^ 302 := by gcongr; norm_num
    _ ≤ greatest := greatest_bounds.1

/-- Seven digits of no finite number are greater than those of the greatest one. -/
theorem mantissa_le_of_le_greatest {q : ℚ} {m : ℕ} (le : q ≤ greatest)
    (rounds : RoundsTo (fun n => (n : ℚ)) (q * 10 ^ ((6 : ℤ) - 308)) m) : m ≤ 1797693 := by
  have inverse : (10 : ℚ) ^ ((6 : ℤ) - 308) = (10 ^ 302)⁻¹ :=
    (zpow_neg 10 302).trans (congrArg _ (zpow_ofNat 10 302))
  by_contra! greater
  obtain ⟨k, rfl⟩ : ∃ k, m = k + 1 := ⟨m - 1, by omega⟩
  have middle := rounds.below_le k rfl
  rw [inverse, ← div_eq_mul_inv, le_div_iff₀ (by positivity)] at middle
  have : (1797693 : ℚ) ≤ k := by exact_mod_cast Nat.le_of_lt_succ greater
  have upper := greatest_bounds.2
  have pos : (0 : ℚ) < 10 ^ 302 := by positivity
  push_cast at middle
  generalize (10 : ℚ) ^ 302 = u at *
  nlinarith only [this, pos, middle, le, upper]

theorem exponent_le_of_le_greatest {e : ℤ} (le : (10 : ℚ) ^ e ≤ greatest) : e ≤ 308 := by
  by_contra! large
  have power : (10 : ℚ) ^ (309 : ℤ) ≤ greatest :=
    (zpow_le_zpow_right₀ (by norm_num) (by omega)).trans le
  have shift : (10 : ℚ) ^ (309 : ℤ) = 10 ^ 7 * 10 ^ 302 :=
    (zpow_ofNat 10 309).trans (pow_add 10 7 302)
  rw [shift] at power
  have upper := greatest_bounds.2
  have pos : (0 : ℚ) < 10 ^ 302 := by positivity
  generalize (10 : ℚ) ^ 302 = u at *
  linarith only [power, upper, pos]

/-- What is shown of a finite number is not too large for one. -/
theorem Shows.le_greatest (h : Shows lib x t) (finite : x.isFinite) : t ≤ greatest := by
  have le := Number.le_greatest finite
  cases h with
  | zero zero =>
    rw [← floatGrid_pred_finiteCount]
    exact floatGrid_nonneg _
  | @inner m isInner rounds =>
    have near := (abs_le.1 ((Shows.inner isInner rounds).abs_sub_le_inner isInner)).2
    have unit : ((10 : ℚ) ^ decimals lib x)⁻¹ ≤ 1 :=
      inv_le_one_of_one_le₀ (one_le_pow₀ (by norm_num))
    have small : |exact x| < 10 ^ 15 := not_le.1 (mt Or.inr isInner)
    have := add_one_le_greatest
    linarith
  | @outer m e ne isOuter low high rounds =>
    rcases (exponent_le_of_le_greatest (low.trans le)).lt_or_eq with small | rfl
    · exact mul_zpow_le_greatest (mantissa_le high rounds) small
    · calc (m * 10 ^ ((308 : ℤ) - 6) : ℚ) = m * 10 ^ 302 := congrArg _ (zpow_ofNat 10 302)
        _ ≤ 1797693 * 10 ^ 302 := by
          gcongr
          exact_mod_cast mantissa_le_of_le_greatest le rounds
        _ ≤ greatest := greatest_bounds.1

/-- `w` is what remains of `x` when it is shown and read back. -/
structure Restores (x w : Float) : Prop where
  isFinite : w.isFinite
  zero : exact w = 0 → exact x = 0
  positive : 0 < exact x → 0 < exact w
  negative : exact x < 0 → exact w < 0
  integral : ∀ i : ℤ, exact x = i → |exact x| < 10 ^ 15 → Alike w x
  inner : ¬IsOuter |exact x| → |exact w - exact x| ≤ |exact x| / 10 ^ 11
  outer : IsOuter |exact x| → |exact w - exact x| ≤ |exact x| / 10 ^ 6

/-- A number that is rounded from what is shown is off by the error of what is shown at most, twice
over. -/
theorem Shows.abs_floatGrid_sub_le_outer {n m : ℕ} (h : Shows lib x t)
    (size : |exact x| = floatGrid n) (rounds : RoundsTo floatGrid t m)
    (outer : IsOuter |exact x|) : |floatGrid m - (|exact x|)| ≤ |exact x| / 10 ^ 6 := by
  have near := h.abs_sub_le_outer outer
  have nearest := rounds.abs_sub_le strictMono_floatGrid n
  rw [← size, abs_sub_comm |exact x|] at nearest
  have triangle := abs_sub_le (floatGrid m) t |exact x|
  linarith

theorem smallest_normal : floatGrid (2 ^ 52) ≤ 1 / 10 ^ 11 := by
  have normal := floatGrid_eq (k := 0) (m := 2 ^ 52) (by norm_num) (.inr le_rfl)
  rw [zero_mul, zero_add] at normal
  rw [normal, Nat.cast_pow, Nat.cast_ofNat, ← zpow_natCast, ← zpow_add₀ two_ne_zero]
  calc (2 : ℚ) ^ ((52 : ℕ) + (((0 : ℕ) : ℤ) - 1074)) ≤ 2 ^ (-40 : ℤ) :=
        zpow_le_zpow_right₀ one_le_two (by norm_num)
    _ ≤ 1 / 10 ^ 11 := by norm_num

theorem Shows.abs_floatGrid_sub_le_inner {m : ℕ} (h : Shows lib x t)
    (rounds : RoundsTo floatGrid t m) (inner : ¬IsOuter |exact x|)
    (log : IsMagnitude (magnitude lib x) |exact x|) :
    |floatGrid m - (|exact x|)| ≤ |exact x| / 10 ^ 11 := by
  have near := h.abs_sub_le_relative inner log
  have low : 1 / 10 ^ 10 ≤ |exact x| := not_lt.1 (mt Or.inl inner)
  have normal : 2 ^ 52 ≤ m := by
    refine rounds.le_of_ge strictMono_floatGrid (smallest_normal.trans ?_)
    have := (abs_le.1 near).1
    linarith
  have ulp := rounds.abs_sub_le_ulp normal
  rw [abs_le] at near ulp ⊢
  constructor <;> linarith

/-- The number that is read back for `m`, the number rounded from what is shown. -/
def restored (x : Float) (m : ℕ) : Float := signedFloat (decide (exact x < 0)) (nthFloat m)

theorem isFinite_restored (x : Float) {m : ℕ} (lt : m < finiteCount) : (restored x m).isFinite := by
  rw [restored, isFinite_signedFloat]
  exact (isFinite_nthFloat lt.le).2 lt

theorem exact_restored (x : Float) {m : ℕ} (lt : m < finiteCount) :
    exact (restored x m) = (if exact x < 0 then -1 else 1) * floatGrid m := by
  rw [restored, exact_signedFloat lt]
  simp only [decide_eq_true_eq]

theorem exact_eq_mul_abs (x : Float) : exact x = (if exact x < 0 then -1 else 1) * |exact x| := by
  split
  · rw [abs_of_neg ‹_›, neg_one_mul, neg_neg]
  · rw [abs_of_nonneg (not_lt.1 ‹_›), one_mul]

/-- What is read back has the sign of the number, so that only the size is off. -/
theorem abs_exact_restored_sub (x : Float) {m : ℕ} (lt : m < finiteCount) :
    |exact (restored x m) - exact x| = |floatGrid m - (|exact x|)| := by
  have difference : exact (restored x m) - exact x =
      (if exact x < 0 then -1 else 1) * (floatGrid m - (|exact x|)) := by
    rw [mul_sub, ← exact_eq_mul_abs, exact_restored x lt]
  rw [difference, abs_mul]
  split <;> simp

theorem Shows.restored_eq {m : ℕ} (h : Shows lib x t) (finite : x.isFinite)
    (rounds : RoundsTo floatGrid t m) (ne : exact x ≠ 0) {i : ℤ} (integral : exact x = i)
    (small : |exact x| < 10 ^ 15) : restored x m = x := by
  obtain ⟨n, -, eq, size⟩ := exists_abs finite
  have whole : |exact x| = i.natAbs := by
    rw [integral, Nat.cast_natAbs, Int.cast_abs]
  have one : 1 ≤ |exact x| := by
    have : i.natAbs ≠ 0 := fun none => ne (abs_eq_zero.1 (by rw [whole, none, Nat.cast_zero]))
    rw [whole]
    exact_mod_cast Nat.one_le_iff_ne_zero.2 this
  have inner : ¬IsOuter |exact x| := by
    rintro (tiny | large) <;> linarith
  rw [h.eq_of_integral inner whole, size] at rounds
  rw [restored, rounds.unique strictMono_floatGrid (.self strictMono_floatGrid n), ← negative_eq ne,
    ← eq]

theorem Shows.restores {m : ℕ} (h : Shows lib x t) (finite : x.isFinite)
    (log : ¬IsOuter |exact x| → IsMagnitude (magnitude lib x) |exact x|)
    (rounds : RoundsTo floatGrid t m) : Restores x (restored x m) := by
  have lt := rounds.lt_finiteCount (h.le_greatest finite)
  have value := exact_restored x lt
  have error := abs_exact_restored_sub x lt
  obtain ⟨n, -, -, size⟩ := exists_abs finite
  have inner : ¬IsOuter |exact x| → |floatGrid m - (|exact x|)| ≤ |exact x| / 10 ^ 11 :=
    fun inner => h.abs_floatGrid_sub_le_inner rounds inner (log inner)
  have outer := h.abs_floatGrid_sub_le_outer size rounds
  have near : |floatGrid m - (|exact x|)| ≤ |exact x| / 10 ^ 6 := by
    by_cases isOuter : IsOuter |exact x|
    · exact outer isOuter
    · have := inner isOuter
      have := abs_nonneg (exact x)
      linarith
  have pos : exact x ≠ 0 → 0 < floatGrid m := by
    intro ne
    have := abs_pos.2 ne
    have := (abs_le.1 near).1
    linarith
  refine ⟨isFinite_restored x lt, ?_, ?_, ?_, ?_, error ▸ inner, error ▸ outer⟩
  · intro zero
    by_contra ne
    rw [value] at zero
    have := pos ne
    split at zero <;> linarith
  · intro positive
    rw [value, if_neg (not_lt.2 positive.le), one_mul]
    exact pos positive.ne'
  · intro negative
    rw [value, if_pos negative, neg_one_mul, neg_neg_iff_pos]
    exact pos negative.ne
  · intro i integral small
    by_cases zero : exact x = 0
    · have none : floatGrid m = 0 := by
        rwa [zero, abs_zero, zero_div, sub_zero, abs_nonpos_iff] at near
      refine .inr ⟨(beq_zero_iff_exact (isFinite_restored x lt)).2 ?_,
        (beq_zero_iff_exact finite).2 zero⟩
      rw [value, none, mul_zero]
    · rw [h.restored_eq finite rounds zero integral small]
      exact .refl x

end Display

section Reading

open Numeral Token Session

variable {cs : List Char} {negative : Bool}

theorem isExpressionCharacter_of_isDigit {c : Char} (h : c.isDigit) : isExpressionCharacter c := by
  simp [isExpressionCharacter, Char.isAlphanum, h]

/-- The characters of a numeral can be entered. -/
theorem Number.Numeral.Formed.isExpressionCharacter (h : Formed cs) :
    ∀ c ∈ cs, isExpressionCharacter c := by
  obtain ⟨mantissa, exponent, isMantissa, isExponent, rfl⟩ := h
  intro c mem
  rcases List.mem_append.1 mem with mem | mem
  · cases isMantissa with
    | whole nonempty all => exact isExpressionCharacter_of_isDigit (all c mem)
    | point nonempty wholeDigits fractionDigits =>
      rcases List.mem_append.1 mem with mem | mem
      · exact isExpressionCharacter_of_isDigit (wholeDigits c mem)
      · rcases List.mem_cons.1 mem with rfl | mem
        · decide
        · exact isExpressionCharacter_of_isDigit (fractionDigits c mem)
  · cases isExponent with
    | absent => cases mem
    | @present mark sign digits isMark isSign nonempty all =>
      rcases List.mem_append.1 mem with mem | mem
      · rcases List.mem_cons.1 mem with rfl | mem
        · rcases isExponentMark_iff.1 isMark with rfl | rfl <;> decide
        · obtain rfl | ⟨d, isSign, rfl⟩ := isSign
          · cases mem
          · obtain rfl := List.mem_singleton.1 mem
            rcases isSign_iff.1 isSign with rfl | rfl <;> decide
      · exact isExpressionCharacter_of_isDigit (all c mem)

theorem isExpressionCharacter_of_isNumeral (h : IsNumeral cs) :
    ∀ c ∈ withSign negative cs, isExpressionCharacter c := by
  have numeral := (isNumeral_iff_formed.1 h).isExpressionCharacter
  cases negative with
  | false => exact numeral
  | true =>
    intro c mem
    rcases List.mem_cons.1 mem with rfl | mem
    · decide
    · exact numeral c mem

theorem trim_eq_self (h : ∀ c ∈ cs, Text.isBlank c = false) : Text.trim cs = cs := by
  have free : ∀ cs : List Char, (∀ c ∈ cs, Text.isBlank c = false) →
      cs.dropWhile Text.isBlank = cs := by
    intro cs h
    cases cs with
    | nil => rfl
    | cons c cs => rw [List.dropWhile_cons_of_neg (by simp [h c (List.mem_cons_self ..)])]
  rw [Text.trim, free cs h, free cs.reverse fun c mem => h c (List.mem_reverse.1 mem),
    List.reverse_reverse]

theorem isBlank_of_isExpressionCharacter {c : Char} (h : isExpressionCharacter c) :
    Text.isBlank c = false := by
  simp only [isExpressionCharacter, Bool.or_eq_true] at h
  rcases h with alphanum | other
  · exact Text.isBlank_of_isAlphanum alphanum
  · have all : "+-*/^().".toList.all fun c => !Text.isBlank c := by decide
    simpa using List.all_eq_true.1 all c (List.contains_iff_mem.1 other)

theorem scan_signed (h : IsNumeral cs) :
    scan (String.ofList (withSign negative cs)) =
      .ok ((signed negative (numberOf cs)).tokens ++ [.stop]) := by
  have scans := scans_display h (String.toList_ofList (l := withSign negative cs))
  exact scans 0

theorem value_signed (lib : Elementary) (unit : AngleUnit) (negative : Bool) (x : Float) :
    (signed negative x).tree.value lib unit = (finite .literal x).map (signedFloat negative) := by
  cases negative with
  | false =>
    change (Expr.number x).value lib unit = (finite .literal x).map id
    rw [Expr.value_number]
    cases finite .literal x <;> rfl
  | true =>
    change (Expr.negate (.number x)).value lib unit = (finite .literal x).map (- ·)
    rw [Expr.value_negate, Expr.value_number]

theorem evaluate_eq_of_scans_signed (lib : Elementary) (unit : AngleUnit) {s : String} {x : Float}
    (scans : Scans s.toList (Grammar.Sum.product (.signed (signed negative x))).tokens) :
    Calculation.evaluate lib unit s = (((finite .literal x).map (signedFloat negative)).bind
      (finite .result)).mapError .evaluation := by
  rw [Calculation.evaluate_of_derivation scans, Expr.evaluate_eq, ← value_signed lib unit]
  rfl

theorem evaluate_of_scans_signed (lib : Elementary) (unit : AngleUnit) {s : String} {x : Float}
    (scans : Scans s.toList (Grammar.Sum.product (.signed (signed negative x))).tokens)
    (isFinite : x.isFinite) :
    Calculation.evaluate lib unit s = .ok (signedFloat negative x) := by
  have isFinite' := (isFinite_signedFloat negative x).trans isFinite
  rw [evaluate_eq_of_scans_signed lib unit scans, finite_eq_ok isFinite]
  exact congrArg (Except.mapError _) (finite_eq_ok isFinite')

theorem evaluate_signed (lib : Elementary) (unit : AngleUnit) (h : IsNumeral cs)
    (finite : (numberOf cs).isFinite) :
    Calculation.evaluate lib unit (String.ofList (withSign negative cs)) =
      .ok (signedFloat negative (numberOf cs)) :=
  evaluate_of_scans_signed lib unit (scans_display h String.toList_ofList) finite

/-- The display is a numeral after its sign, with white space before and after. -/
theorem number?_of_trim {s : Session} (h : IsNumeral cs) (finite : (numberOf cs).isFinite)
    (display : Text.trim s.display.toList = withSign negative cs) :
    s.number? = some (signedFloat negative (numberOf cs)) := by
  rw [number?, display, read?_withSign h.1]
  unfold numberOf at *
  split at finite
  · rename_i n read
    rw [read, Option.map_some, Option.filter_some, if_pos]
    · rfl
    · exact (isFinite_signedFloat negative n.value).trans finite
  · exact absurd finite (by decide +kernel)

theorem number?_signed {s : Session} (h : IsNumeral cs) (finite : (numberOf cs).isFinite)
    (display : s.display = String.ofList (withSign negative cs)) :
    s.number? = some (signedFloat negative (numberOf cs)) := by
  refine number?_of_trim h finite ?_
  rw [display, String.toList_ofList]
  exact trim_eq_self fun c mem =>
    isBlank_of_isExpressionCharacter (isExpressionCharacter_of_isNumeral h c mem)

/-- What is shown of a finite number is a numeral, after a minus if the number is negative, and both
readers take it for a number that is near: for the number itself if that is a small integer, else up
to twelve digits, or seven where it is shown with an exponent. -/
theorem exists_reading (lib : Elementary) {x : Float} (finite : x.isFinite)
    (log : ¬Display.IsOuter |exact x| →
      Display.IsMagnitude (Display.magnitude lib x) |exact x|) :
    ∃ y w, scan (shown lib x) =
        .ok ((if exact x < 0 then [.operator .subtract] else []) ++ [.number y, .stop]) ∧
      (∀ unit, Calculation.evaluate lib unit (shown lib x) = .ok w) ∧
      (∀ s : Session, s.display = shown lib x → s.number? = some w) ∧
      Display.Restores x w := by
  obtain ⟨cs, numeral, text, isNumeral, read, shows⟩ := Display.exists_shows lib finite
  obtain ⟨m, rounds, value⟩ := numeral.exists_value
  have lt := rounds.lt_finiteCount (shows.le_greatest finite)
  have number : numberOf cs = nthFloat m := by
    rw [numberOf, read]
    exact value.trans (by rw [min_eq_left lt.le])
  have isFinite : (numberOf cs).isFinite := by
    rw [number]
    exact (isFinite_nthFloat lt.le).2 lt
  have restores := shows.restores finite log rounds
  rw [Display.restored, ← number] at restores
  refine ⟨numberOf cs, _, ?_, fun unit => ?_, fun s display => ?_, restores⟩
  · rw [shown, text, scan_signed isNumeral]
    by_cases negative : exact x < 0
    · simp [negative, signed, Grammar.Signed.tokens, Grammar.Primary.tokens]
    · simp [negative, signed, Grammar.Signed.tokens, Grammar.Primary.tokens]
  · rw [shown, text]
    exact evaluate_signed lib unit isNumeral isFinite
  · rw [shown, text] at display
    exact number?_signed isNumeral isFinite display

theorem exists_reading_tenth :
    let lib : Elementary := { Elementary.native with log10 := fun _ => -1.0 }
    ∃ y w, scan (shown lib (-0.1)) =
        .ok ((if exact (-0.1) < 0 then [.operator .subtract] else []) ++ [.number y, .stop]) ∧
      (∀ unit, Calculation.evaluate lib unit (shown lib (-0.1)) = .ok w) ∧
      (∀ s : Session, s.display = shown lib (-0.1) → s.number? = some w) ∧
      Display.Restores (-0.1) w := by
  intro lib
  refine exists_reading lib (by decide +kernel) fun _ => ?_
  have first : Display.magnitude lib (-0.1) = -1 := by decide +kernel
  have parts : Binary.ofFloat (-0.1) = ⟨true, 7205759403792794, -56⟩ := by decide +kernel
  rw [first, exact, parts, Display.IsMagnitude, Binary.value]
  norm_num

end Reading

end Calculator
