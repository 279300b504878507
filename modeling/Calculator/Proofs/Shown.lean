import Calculator.Display
import Calculator.Proofs.Decimals

/-! What is shown of a number, by its exact value: which of the forms of a text it has, and which
decimal fraction that is. -/
namespace Calculator.Number

theorem Decimal.rational_eq_zero_iff {d : Decimal} : d.rational = 0 ↔ d.units = 0 := by
  rw [rational, div_eq_zero_iff, Nat.cast_eq_zero, or_iff_left (by positivity)]

/-- Rounding to a number of places is rounding to an integer in units of the last place. -/
theorem Decimal.roundsTo_roundTo (places : ℕ) (d : Decimal) :
    RoundsTo (fun n => (n : ℚ)) (d.rational * 10 ^ places) (d.roundTo places).units := by
  have rounds := roundsTo_roundDiv (d.units * 10 ^ places)
    (Nat.pow_pos (n := d.places) (a := 10) (by decide))
  have scaled : ((d.units * 10 ^ places : ℕ) : ℚ) / (10 ^ d.places : ℕ) =
      d.rational * 10 ^ places := by
    rw [rational]
    push_cast
    ring
  rw [scaled] at rounds
  exact rounds

theorem RoundsTo.abs_sub_le_half {q : ℚ} {n : ℕ} (nonneg : 0 ≤ q)
    (h : RoundsTo (fun n => (n : ℚ)) q n) : |n - q| ≤ 1 / 2 := by
  have above := h.le_above
  push_cast at above
  rcases Nat.eq_zero_or_pos n with rfl | pos
  · push_cast at above ⊢
    exact abs_le.2 ⟨by linarith, by linarith⟩
  · obtain ⟨k, rfl⟩ : ∃ k, n = k + 1 := ⟨n - 1, by omega⟩
    have below := h.below_le k rfl
    push_cast at below above ⊢
    exact abs_le.2 ⟨by linarith, by linarith⟩

/-- A number that is rounded to a multiple of `u` is off by half of it at most. -/
theorem RoundsTo.abs_mul_sub_le {q u : ℚ} {n : ℕ} (pos : 0 < u) (nonneg : 0 ≤ q)
    (h : RoundsTo (fun n => (n : ℚ)) (q / u) n) : |n * u - q| ≤ u / 2 := by
  have near := h.abs_sub_le_half (div_nonneg nonneg pos.le)
  have scaled : n * u - q = (n - q / u) * u := by
    rw [sub_mul, div_mul_cancel₀ q pos.ne']
  calc |n * u - q| = |n - q / u| * u := by rw [scaled, abs_mul, abs_of_pos pos]
    _ ≤ 1 / 2 * u := mul_le_mul_of_nonneg_right near pos.le
    _ = u / 2 := one_div_mul_eq_div 2 u

namespace Binary

theorem abs_value (b : Binary) : |b.value| = b.numerator / b.denominator := by
  rw [← Decimal.rational_ofBinary, Decimal.rational, Decimal.ofBinary, numerator, denominator]
  simp only [Nat.pow_eq]
  push_cast
  rw [show (10 : ℚ) = 2 * 5 by norm_num, mul_pow]
  field_simp

theorem isInteger_iff (b : Binary) : b.isInteger ↔ ∃ i : ℕ, |b.value| = i := by
  have pos : (0 : ℚ) < b.denominator := Nat.cast_pos.2 b.denominator_pos
  rw [isInteger, beq_iff_eq, ← Nat.dvd_iff_mod_eq_zero, abs_value]
  refine exists_congr fun i => ?_
  rw [div_eq_iff pos.ne', mul_comm]
  exact_mod_cast Iff.rfl

theorem value_nonpos {b : Binary} (h : b.negative = true) : b.value ≤ 0 := by
  have size : (0 : ℚ) ≤ b.mantissa * 2 ^ b.exponent := by positivity
  rw [value, h, if_pos rfl, neg_one_mul]
  exact neg_nonpos_of_nonneg size

theorem value_nonneg {b : Binary} (h : b.negative = false) : 0 ≤ b.value := by
  rw [value, h, if_neg Bool.false_ne_true, one_mul]
  positivity

theorem negative_iff {b : Binary} (h : b.value ≠ 0) : b.negative ↔ b.value < 0 := by
  cases sign : b.negative with
  | true => exact iff_of_true rfl (lt_of_le_of_ne (value_nonpos sign) h)
  | false => exact iff_of_false Bool.false_ne_true (not_lt.2 (value_nonneg sign))

end Binary

end Calculator.Number

namespace Calculator.Display

open Number

variable {x : Float}

/-- The absolute value of a number as a decimal fraction. -/
def size (x : Float) : Decimal := .ofBinary (.ofFloat x)

theorem rational_size (x : Float) : (size x).rational = |exact x| := Decimal.rational_ofBinary _

theorem units_size_eq_zero_iff : (size x).units = 0 ↔ exact x = 0 := by
  rw [← Decimal.rational_eq_zero_iff, rational_size, abs_eq_zero]

theorem negative_eq (ne : exact x ≠ 0) : (Binary.ofFloat x).negative = decide (exact x < 0) :=
  Bool.eq_iff_iff.2 ((Binary.negative_iff ne).trans decide_eq_true_iff.symm)

/-- The absolute values that are shown with an exponent. -/
def IsOuter (q : ℚ) : Prop := q < 1 / 10 ^ 10 ∨ 10 ^ 15 ≤ q

theorem isOuter_iff : isLarge (size x) || isSmall (size x) ↔ IsOuter |exact x| := by
  rw [Bool.or_eq_true, or_comm, IsOuter, ← rational_size, isLarge, isSmall, decide_eq_true_eq,
    decide_eq_true_eq, Decimal.rational, div_lt_div_iff₀ (by positivity) (by positivity), one_mul,
    le_div_iff₀ (by positivity), Nat.pow_eq, ← pow_add]
  exact_mod_cast Iff.rfl

/-- The decimals that a number without exponent is rounded to. -/
def decimals (lib : Elementary) (x : Float) : ℕ :=
  if (Binary.ofFloat x).isInteger then 0 else places lib x

/-- The text shows `t` for the absolute value of a number. -/
inductive Shows (lib : Elementary) (x : Float) : ℚ → Prop
  | zero (h : exact x = 0) : Shows lib x 0
  | outer {m : ℕ} {e : ℤ} (ne : exact x ≠ 0) (isOuter : IsOuter |exact x|)
    (low : 10 ^ e ≤ |exact x|) (high : |exact x| < 10 ^ (e + 1))
    (rounds : RoundsTo (fun n => (n : ℚ)) (|exact x| * 10 ^ (6 - e)) m) :
    Shows lib x (m * 10 ^ (e - 6))
  | inner {m : ℕ} (isInner : ¬IsOuter |exact x|)
    (rounds : RoundsTo (fun n => (n : ℚ)) (|exact x| * 10 ^ decimals lib x) m) :
    Shows lib x (m / 10 ^ decimals lib x)

theorem text_of_exact_eq_zero (lib : Elementary) (finite : x.isFinite) (zero : exact x = 0) :
    text lib x = ['0'] := by
  have units := units_size_eq_zero_iff.2 zero
  rw [size] at units
  simp [text, finite, units]

/-- The text of a number in its two forms, after a minus if the number is negative. -/
theorem text_of_exact_ne_zero (lib : Elementary) (finite : x.isFinite) (ne : exact x ≠ 0) :
    text lib x = withSign (decide (exact x < 0))
      (if isLarge (size x) || isSmall (size x) then scientificDigits 6 (size x)
        else ((size x).roundTo (decimals lib x)).shortText) := by
  have units := mt units_size_eq_zero_iff.1 ne
  rw [size] at units
  rw [apply_ite (withSign _)]
  simp only [text, finite, Bool.not_true, Bool.false_eq_true, if_false, units, negative_eq ne, size,
    decimals, scientific, write, isNaN_of_isFinite finite, isInf_of_isFinite finite]
  rfl

/-- A number is shown as a numeral after a minus if it is negative. -/
theorem exists_shows (lib : Elementary) (finite : x.isFinite) :
    ∃ cs n, text lib x = withSign (decide (exact x < 0)) cs ∧ Numeral.IsNumeral cs ∧
      Numeral.read? cs = some n ∧ Shows lib x n.rational := by
  by_cases zero : exact x = 0
  · refine ⟨['0'], ⟨0, 0⟩, ?_, ⟨rfl, rfl⟩, rfl, ?_⟩
    · rw [text_of_exact_eq_zero lib finite zero]
      simp [zero, withSign]
    · rw [Numeral.rational, Nat.cast_zero, zero_mul]
      exact .zero zero
  rw [text_of_exact_ne_zero lib finite zero]
  by_cases outer : IsOuter |exact x|
  · rw [if_pos (isOuter_iff.2 outer)]
    obtain ⟨n, m, e, read, low, high, rounds, value⟩ :=
      exists_read?_scientificDigits 6 (Nat.pos_of_ne_zero (mt units_size_eq_zero_iff.1 zero))
    refine ⟨_, n, rfl, isNumeral_scientificDigits 6 _, read, ?_⟩
    rw [value]
    rw [rational_size] at low high rounds
    exact .outer zero outer low high rounds
  · rw [if_neg (mt isOuter_iff.1 outer)]
    obtain ⟨n, read, value⟩ := ((size x).roundTo (decimals lib x)).exists_read?_shortText
    refine ⟨_, n, rfl, isNumeral_shortText _, read, ?_⟩
    rw [value]
    refine .inner outer ?_
    have rounds := (size x).roundsTo_roundTo (decimals lib x)
    rwa [rational_size] at rounds

theorem length_toDigits_le {n k : ℕ} (pos : 0 < k) (lt : n < 10 ^ k) :
    (Nat.toDigits 10 n).length ≤ k :=
  (Nat.length_toDigits_le_iff (by decide) pos).2 lt

theorem length_withSign_le (negative : Bool) (cs : List Char) :
    (withSign negative cs).length ≤ cs.length + 1 := by
  cases negative <;> simp [withSign]

theorem length_integerText_le {n : ℤ} {k : ℕ} (pos : 0 < k) (lt : n.natAbs < 10 ^ k) :
    (integerText n).length ≤ k + 1 :=
  (length_withSign_le _ _).trans (Nat.add_le_add_right (length_toDigits_le pos lt) 1)

theorem length_withPoint_le (digits : List Char) :
    (withPoint digits).length ≤ digits.length + 1 := by
  cases digits <;> simp [withPoint]

theorem length_dropZeros_le (digits : List Char) : (dropZeros digits).length ≤ digits.length := by
  obtain ⟨zeros, eq⟩ := exists_dropZeros digits
  have := congrArg List.length eq
  rw [List.length_append] at this
  omega

theorem length_whole_le {d : Decimal} {k : ℕ} (pos : 0 < k)
    (lt : d.units < 10 ^ k * 10 ^ d.places) :
    d.whole.length ≤ k :=
  length_toDigits_le pos ((Nat.div_lt_iff_lt_mul (Nat.pow_pos (by decide))).2 lt)

theorem length_fraction (d : Decimal) : d.fraction.length = d.places := length_lowDigits _ _

/-- The exponents of finite numbers have three digits at most. -/
theorem exponent_bounds (finite : x.isFinite) (ne : exact x ≠ 0) {e : ℤ}
    (low : 10 ^ e ≤ |exact x|) (high : |exact x| < 10 ^ (e + 1)) : -402 < e ∧ e < 400 := by
  obtain ⟨n, lt, -, size⟩ := exists_abs finite
  have pos := abs_pos.2 ne
  rw [size] at low high pos
  constructor
  · have one : 1 ≤ n := by
      by_contra! zero
      rw [Nat.lt_one_iff.1 zero, floatGrid_zero] at pos
      exact lt_irrefl 0 pos
    have least : (10 : ℚ) ^ (-400 : ℤ) ≤ floatGrid n := by
      calc (10 : ℚ) ^ (-400 : ℤ) = (10 ^ 400)⁻¹ :=
            (zpow_neg 10 400).trans (congrArg _ (zpow_natCast 10 400))
        _ ≤ (2 ^ 1074)⁻¹ := inv_anti₀ (by positivity) (two_pow_le_ten_pow (by decide))
        _ = floatGrid 1 := floatGrid_one.symm
        _ ≤ floatGrid n := strictMono_floatGrid.monotone one
    have := (zpow_lt_zpow_iff_right₀ (by norm_num)).1 (least.trans_lt high)
    omega
  · have most : floatGrid n < 10 ^ (400 : ℤ) := by
      calc floatGrid n < floatGrid finiteCount := strictMono_floatGrid lt
        _ = 2 ^ 1024 := floatGrid_finiteCount
        _ ≤ 10 ^ 400 := two_pow_le_ten_pow (by decide)
        _ = 10 ^ (400 : ℤ) := (zpow_natCast 10 400).symm
    exact (zpow_lt_zpow_iff_right₀ (by norm_num)).1 (low.trans_lt most)

theorem length_scientificDigits_le (finite : x.isFinite) (ne : exact x ≠ 0) :
    (scientificDigits 6 (size x)).length ≤ 13 := by
  obtain ⟨m, e, low, high, rounds, parts⟩ :=
    exists_mantissaAndExponent 6 (Nat.pos_of_ne_zero (mt units_size_eq_zero_iff.1 ne))
  rw [rational_size] at low high rounds
  obtain ⟨above, below⟩ := exponent_bounds finite ne low high
  have carry : m ≤ 10 ^ 7 := mantissa_le high rounds
  obtain ⟨⟨mantissa, exponent⟩, eq⟩ : ∃ p, mantissaAndExponent 6 (size x) = p := ⟨_, rfl⟩
  have bounds : mantissa < 10 ^ 7 ∧ exponent.natAbs < 10 ^ 3 := by
    rw [eq] at parts
    split at parts <;> obtain ⟨rfl, rfl⟩ := Prod.mk.inj parts <;> omega
  have whole : (⟨mantissa, 6⟩ : Decimal).whole.length ≤ 1 :=
    length_whole_le (by decide) (by rw [← pow_add]; exact bounds.1)
  have point := length_withPoint_le (⟨mantissa, 6⟩ : Decimal).fraction
  rw [length_fraction] at point
  have power := length_integerText_le (by decide) bounds.2
  rw [scientificDigits, eq]
  simp only [Decimal.text, List.length_append, List.length_cons]
  dsimp only at point
  omega

/-- No text of a finite number is long, if the logarithm is right but for one. -/
theorem length_text_le (lib : Elementary) (finite : x.isFinite)
    (log : ¬IsOuter |exact x| → -11 ≤ magnitude lib x) : (text lib x).length ≤ 40 := by
  by_cases zero : exact x = 0
  · rw [text_of_exact_eq_zero lib finite zero]
    decide
  rw [text_of_exact_ne_zero lib finite zero]
  refine (length_withSign_le _ _).trans ?_
  by_cases outer : IsOuter |exact x|
  · rw [if_pos (isOuter_iff.2 outer)]
    have := length_scientificDigits_le finite zero
    omega
  · rw [if_neg (mt isOuter_iff.1 outer)]
    have some : decimals lib x ≤ 22 := by
      have := log outer
      rw [decimals, places]
      split <;> omega
    have rounds := (size x).roundsTo_roundTo (decimals lib x)
    rw [rational_size] at rounds
    have small : |exact x| ≤ 10 ^ 15 := (not_le.1 (mt Or.inr outer)).le
    have units : ((size x).roundTo (decimals lib x)).units ≤ 10 ^ 15 * 10 ^ decimals lib x := by
      refine rounds.le_of_le strictMono_natCast ?_
      rw [Nat.cast_mul, Nat.cast_pow, Nat.cast_pow, Nat.cast_ofNat]
      gcongr
    have whole : ((size x).roundTo (decimals lib x)).whole.length ≤ 16 := by
      refine length_whole_le (by decide) (units.trans_lt ?_)
      exact Nat.mul_lt_mul_of_pos_right (by norm_num) (Nat.pow_pos (by decide))
    have point := length_withPoint_le (dropZeros ((size x).roundTo (decimals lib x)).fraction)
    have short := length_dropZeros_le ((size x).roundTo (decimals lib x)).fraction
    rw [length_fraction, Decimal.roundTo_places] at short
    rw [Decimal.shortText, List.length_append]
    omega

end Calculator.Display
