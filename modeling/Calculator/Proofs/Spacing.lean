import Calculator.Proofs.Decimals

/-! The distance of floating-point numbers. The first of them are multiples of the smallest one, and
no two are nearer to each other, which is coarser than the digits of numbers of this size. -/
namespace Calculator.Number

theorem floatGrid_one_eq_zpow : floatGrid 1 = 2 ^ (((0 : ℕ) : ℤ) - 1074) := by
  have first := floatGrid_eq (k := 0) (m := 1) (by norm_num) (.inl rfl)
  rwa [zero_mul, zero_add, Nat.cast_one, one_mul] at first

/-- The first numbers are multiples of the smallest one. -/
theorem floatGrid_eq_mul {n : ℕ} (le : n ≤ 2 ^ 53) : floatGrid n = n * floatGrid 1 := by
  have value := floatGrid_eq (k := 0) (m := n) le (.inl rfl)
  rwa [zero_mul, zero_add, ← floatGrid_one_eq_zpow] at value

/-- No two numbers are nearer to each other than the smallest one to zero. -/
theorem floatGrid_one_le_sub {i j : ℕ} (lt : i < j) : floatGrid 1 ≤ floatGrid j - floatGrid i := by
  have next : floatGrid (i + 1) ≤ floatGrid j := strictMono_floatGrid.monotone lt
  obtain ⟨k, m, rfl, less, normal⟩ := exists_binade i
  have unit : (2 : ℚ) ^ (((0 : ℕ) : ℤ) - 1074) ≤ 2 ^ ((k : ℤ) - 1074) :=
    zpow_le_zpow_right₀ one_le_two (by omega)
  rw [floatGrid_succ less normal] at next
  rw [floatGrid_one_eq_zpow]
  linarith

/-- How far below a number the one is that it is rounded to. -/
theorem RoundsTo.sub_le {q : ℚ} {k : ℕ} (h : RoundsTo floatGrid q k) :
    q - floatGrid k ≤ floatGrid 1 / 2 ∨ q - floatGrid k ≤ floatGrid k / 2 ^ 53 := by
  rcases Nat.lt_or_ge k (2 ^ 52) with subnormal | normal
  · have above := h.le_above
    rw [floatGrid_eq_mul (n := k) (by omega), floatGrid_eq_mul (n := k + 1) (by omega),
      Nat.cast_succ] at above
    rw [floatGrid_eq_mul (n := k) (by omega)]
    left
    linarith
  · have := (abs_le.1 (h.abs_sub_le_ulp normal)).1
    right
    linarith

theorem ten_zpow_neg (n : ℕ) : (10 : ℚ) ^ (-(n : ℤ)) = (10 ^ n)⁻¹ :=
  (zpow_neg 10 _).trans (congrArg _ (zpow_natCast 10 n))

theorem floatGrid_one_bounds :
    (10 : ℚ) ^ (-324 : ℤ) < floatGrid 1 ∧ floatGrid 1 ≤ 10 ^ (-323 : ℤ) := by
  have low : 10 ^ 323 ≤ 2 ^ 1074 := by decide +kernel
  have high : 2 ^ 1074 < 10 ^ 324 := by decide +kernel
  have lowCast : (10 : ℚ) ^ 323 ≤ 2 ^ 1074 := by exact_mod_cast low
  have highCast : (2 : ℚ) ^ 1074 < 10 ^ 324 := by exact_mod_cast high
  rw [floatGrid_one]
  exact ⟨(ten_zpow_neg 324).trans_lt (inv_strictAnti₀ (by positivity) highCast),
    (inv_anti₀ (by positivity) lowCast).trans_eq (ten_zpow_neg 323).symm⟩

/-- This power of ten is a little more than `2024022.5` of the smallest numbers. -/
theorem ten_zpow_bounds_of_smallest : 2 * 2024022 + 1 < 2 * 10 ^ (-317 : ℤ) / floatGrid 1 ∧
    10 ^ (-317 : ℤ) / floatGrid 1 ≤ 2024023 := by
  have low : (2 * 2024022 + 1) * 10 ^ 317 < 2 * 2 ^ 1074 := by decide +kernel
  have high : 2 ^ 1074 ≤ 2024023 * 10 ^ 317 := by decide +kernel
  have lowCast : ((2 * 2024022 + 1) * 10 ^ 317 : ℚ) < 2 * 2 ^ 1074 := by exact_mod_cast low
  have highCast : (2 ^ 1074 : ℚ) ≤ 2024023 * 10 ^ 317 := by exact_mod_cast high
  have power : (10 : ℚ) ^ (-317 : ℤ) = (10 ^ 317)⁻¹ := ten_zpow_neg 317
  have pos : (0 : ℚ) < 10 ^ 317 := by positivity
  rw [power, floatGrid_one, div_inv_eq_mul, div_inv_eq_mul]
  generalize (10 : ℚ) ^ 317 = u at *
  generalize (2 : ℚ) ^ 1074 = v at *
  rw [mul_assoc, inv_mul_eq_div, ← mul_div_assoc, lt_div_iff₀ pos, div_le_iff₀ pos]
  exact ⟨lowCast, highCast⟩

theorem le_floatGrid_of_roundsTo {k : ℕ} (rounds : RoundsTo floatGrid (10 ^ (-317 : ℤ)) k) :
    (10 : ℚ) ^ (-317 : ℤ) ≤ floatGrid k := by
  obtain ⟨low, high⟩ := ten_zpow_bounds_of_smallest
  have pos : 0 < floatGrid 1 := by
    rw [floatGrid_one]
    positivity
  rw [lt_div_iff₀ pos] at low
  rw [div_le_iff₀ pos] at high
  have up : 2024023 ≤ k := by
    by_contra! less
    have above := rounds.le_above
    have here : floatGrid k ≤ floatGrid 2024022 :=
      strictMono_floatGrid.monotone (Nat.le_of_lt_succ less)
    have next : floatGrid (k + 1) ≤ floatGrid 2024023 := strictMono_floatGrid.monotone less
    rw [floatGrid_eq_mul (n := 2024022) (by norm_num)] at here
    rw [floatGrid_eq_mul (n := 2024023) (by norm_num)] at next
    push_cast at here next
    linarith
  calc (10 : ℚ) ^ (-317 : ℤ) ≤ 2024023 * floatGrid 1 := high
    _ = floatGrid 2024023 := (floatGrid_eq_mul (by norm_num)).symm
    _ ≤ floatGrid k := strictMono_floatGrid.monotone up

end Calculator.Number
