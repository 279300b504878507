import Calculator.Proofs.Decimals
import Calculator.Number.Text

/-! The shortest digits of a floating-point number are rounded to the number. The interval that the
search stays in is that of `RoundsTo floatGrid`, in quarters of the last place. -/
namespace Calculator.Number

/-- The parts of the number with the mantissa `m` at the `k`-th distance between neighbours. -/
theorem ofFloat_nthFloat {k m n : ℕ} (number : n = k * 2 ^ 52 + m) (lt : m < 2 ^ 53)
    (normal : k = 0 ∨ 2 ^ 52 ≤ m) (finite : n < finiteCount) :
    Binary.ofFloat (nthFloat n) = ⟨false, m, k - 1074⟩ := by
  rw [ofFloat_eq, toBits_nthFloat finite.le]
  rw [finiteCount] at finite
  have sign : decide (2 ^ 63 ≤ n) = false := decide_eq_false (by omega)
  have mantissa : (if n % 2 ^ 63 / 2 ^ 52 = 0 then n % 2 ^ 52 else 2 ^ 52 + n % 2 ^ 52) = m := by
    split <;> omega
  have exponent : ((max (n % 2 ^ 63 / 2 ^ 52) 1 : ℕ) : ℤ) - 1075 = k - 1074 := by omega
  rw [sign, mantissa, exponent]

/-- How far the number before is away, in distances to the number after. -/
def gapBelow (k m : ℕ) : ℚ := if m = 2 ^ 52 ∧ 0 < k then 1 / 2 else 1

theorem floatGrid_pred {k m j : ℕ} (number : j + 1 = k * 2 ^ 52 + m) (lt : m < 2 ^ 53)
    (normal : k = 0 ∨ 2 ^ 52 ≤ m) :
    floatGrid j = (m - gapBelow k m) * 2 ^ ((k : ℤ) - 1074) := by
  by_cases first : m = 2 ^ 52 ∧ 0 < k
  · obtain ⟨rfl, pos⟩ := first
    have before : j = (k - 1) * 2 ^ 52 + (2 ^ 53 - 1) := by omega
    have exponent : ((k - 1 : ℕ) : ℤ) - 1074 = (k : ℤ) - 1074 - 1 := by omega
    rw [before, floatGrid_eq (by omega) (.inr (by omega)), exponent, zpow_sub_one₀ two_ne_zero,
      gapBelow, if_pos ⟨rfl, pos⟩]
    push_cast [Nat.cast_sub]
    ring
  · obtain ⟨i, rfl⟩ : ∃ i, m = i + 1 := ⟨m - 1, by omega⟩
    have before : j = k * 2 ^ 52 + i := by omega
    rw [before, floatGrid_eq (by omega) (by omega), gapBelow, if_neg first]
    push_cast
    ring

/-- What is rounded to a number, in distances to the number after. -/
theorem roundsTo_of_between {k m n : ℕ} {q : ℚ} (number : n = k * 2 ^ 52 + m) (lt : m < 2 ^ 53)
    (normal : k = 0 ∨ 2 ^ 52 ≤ m)
    (above : q ≤ (m + 1 / 2) * 2 ^ ((k : ℤ) - 1074))
    (even_of_above : q = (m + 1 / 2) * 2 ^ ((k : ℤ) - 1074) → Even m)
    (below : (m - gapBelow k m / 2) * 2 ^ ((k : ℤ) - 1074) ≤ q)
    (even_of_below : q = (m - gapBelow k m / 2) * 2 ^ ((k : ℤ) - 1074) → Even m) :
    RoundsTo floatGrid q n := by
  have parity : Even m → Even n := by
    simp only [Nat.even_iff]
    omega
  have here : floatGrid n = m * 2 ^ ((k : ℤ) - 1074) := number ▸ floatGrid_eq lt.le normal
  have middle : (floatGrid n + floatGrid (n + 1)) / 2 = (m + 1 / 2) * 2 ^ ((k : ℤ) - 1074) := by
    have next := floatGrid_succ lt normal
    rw [← number] at next
    rw [next, here]
    ring
  have middleBelow : ∀ j, n = j + 1 →
      (floatGrid j + floatGrid n) / 2 = (m - gapBelow k m / 2) * 2 ^ ((k : ℤ) - 1074) := by
    intro j eq
    rw [here, floatGrid_pred (eq ▸ number) lt normal]
    ring
  constructor
  · rw [middle]
    exact above
  · rw [middle]
    exact fun eq => parity (even_of_above eq)
  · intro j eq
    rw [middleBelow j eq]
    exact below
  · intro j eq
    rw [middleBelow j eq]
    exact fun same => parity (even_of_below same)

theorem Neighbourhood.le_of_contains {s : Neighbourhood} {n : ℕ} (h : s.contains n) :
    s.low ≤ n ∧ n ≤ s.high ∧ (n = s.low ∨ n = s.high → s.closed) := by
  unfold contains at h
  split at h
  · rename_i closed
    simp only [Bool.and_eq_true, decide_eq_true_eq] at h
    exact ⟨h.1, h.2, fun _ => closed⟩
  · simp only [Bool.and_eq_true, decide_eq_true_eq] at h
    omega

/-- A distance to the number after, in decimal units. -/
def unitStep (e : ℤ) : ℕ := 2 ^ e.toNat * 5 ^ (-e).toNat

theorem unitStep_pos (e : ℤ) : 0 < unitStep e :=
  Nat.mul_pos (Nat.two_pow_pos _) (Nat.pow_pos (by decide))

theorem div_ten_pow_eq (p : ℕ) (e : ℤ) :
    (p : ℚ) / 10 ^ (-e).toNat = p / unitStep e * 2 ^ e := by
  rw [unitStep, zpow_eq_toNat two_ne_zero, show (10 : ℚ) = 2 * 5 by norm_num, mul_pow]
  push_cast
  field_simp

/-- How far the interval around a number reaches down, in quarters of a decimal unit. -/
def reachBelow (k m step : ℕ) : ℕ := if m = 2 ^ 52 ∧ 0 < k then step else 2 * step

theorem gapBelow_half_mul (k m step : ℕ) :
    gapBelow k m / 2 * step = (reachBelow k m step / 4 : ℚ) := by
  rw [gapBelow, reachBelow]
  split
  · ring
  · push_cast
    ring

theorem neighbourhood_eq (k m : ℕ) : (⟨false, m, k - 1074⟩ : Binary).neighbourhood =
    { low := 4 * (m * unitStep (k - 1074)) - reachBelow k m (unitStep (k - 1074))
      high := 4 * (m * unitStep (k - 1074)) + 2 * unitStep (k - 1074)
      closed := m % 2 = 0 } := by
  have power : (m = Nat.pow 2 52 ∧ -1074 < (k : ℤ) - 1074) ↔ (m = 2 ^ 52 ∧ 0 < k) := by
    rw [Nat.pow_eq]
    omega
  have centre : 4 * (Decimal.ofBinary ⟨false, m, (k : ℤ) - 1074⟩).units =
      4 * (m * unitStep (k - 1074)) := by
    rw [unitStep, ← Nat.mul_assoc m]
    rfl
  have unit : Nat.pow 2 ((k : ℤ) - 1074).toNat * Nat.pow 5 (-((k : ℤ) - 1074)).toNat =
      unitStep (k - 1074) := rfl
  simp only [Binary.neighbourhood, centre, unit, power, reachBelow]

/-- A point of the interval around a number is rounded to it. -/
theorem roundsTo_of_contains {k m n p : ℕ} (number : n = k * 2 ^ 52 + m) (lt : m < 2 ^ 53)
    (normal : k = 0 ∨ 2 ^ 52 ≤ m)
    (h : (⟨false, m, k - 1074⟩ : Binary).neighbourhood.contains (4 * p)) :
    RoundsTo floatGrid (p / 10 ^ (-((k : ℤ) - 1074)).toNat) n := by
  rw [neighbourhood_eq] at h
  obtain ⟨low, high, closed⟩ := Neighbourhood.le_of_contains h
  simp only [decide_eq_true_eq, ← Nat.even_iff] at low high closed
  rw [div_ten_pow_eq]
  have pos : (0 : ℚ) < unitStep (k - 1074) := Nat.cast_pos.2 (unitStep_pos _)
  have unit_pos : (0 : ℚ) < 2 ^ ((k : ℤ) - 1074) := by positivity
  generalize unitStep (k - 1074) = step at *
  have reach := gapBelow_half_mul k m step
  have scaled : ∀ a : ℚ, (4 * p : ℚ) = 4 * (a * step) ↔ p / step * 2 ^ ((k : ℤ) - 1074) =
      a * 2 ^ ((k : ℤ) - 1074) := by
    intro a
    rw [mul_right_inj' (by norm_num), mul_left_inj' unit_pos.ne', div_eq_iff pos.ne']
  refine roundsTo_of_between number lt normal ?above ?evenAbove ?below ?evenBelow
  case above =>
    refine mul_le_mul_of_nonneg_right ((div_le_iff₀ pos).2 ?_) unit_pos.le
    have : (4 * p : ℚ) ≤ 4 * (m * step) + 2 * step := by exact_mod_cast high
    linarith
  case evenAbove =>
    rw [← scaled]
    intro eq
    have : (4 * p : ℚ) = 4 * (m * step) + 2 * step := by linarith
    exact closed (.inr (by exact_mod_cast this))
  case below =>
    refine mul_le_mul_of_nonneg_right ((le_div_iff₀ pos).2 ?_) unit_pos.le
    have : (4 * (m * step) : ℚ) ≤ 4 * p + reachBelow k m step := by
      exact_mod_cast Nat.sub_le_iff_le_add.1 low
    rw [sub_mul, reach]
    linarith
  case evenBelow =>
    rw [← scaled]
    intro eq
    rw [sub_mul, reach] at eq
    have : (4 * p + reachBelow k m step : ℚ) = 4 * (m * step) := by linarith
    have sum : 4 * p + reachBelow k m step = 4 * (m * step) := by exact_mod_cast this
    exact closed (.inl (Nat.eq_sub_of_add_eq sum))

theorem roundsTo_shortest {n : ℕ} (finite : n < finiteCount) :
    RoundsTo floatGrid (Binary.ofFloat (nthFloat n)).shortest.rational n := by
  obtain ⟨k, m, number, lt, normal⟩ := exists_binade n
  rw [ofFloat_nthFloat number lt normal finite]
  rcases coarsestPoint_eq_or_contains (⟨false, m, (k : ℤ) - 1074⟩ : Binary).neighbourhood
      (Decimal.ofBinary ⟨false, m, (k : ℤ) - 1074⟩).units
      (Nat.toDigits 10 (Decimal.ofBinary ⟨false, m, (k : ℤ) - 1074⟩).units).length
    with same | inside
  · have exact : (⟨false, m, (k : ℤ) - 1074⟩ : Binary).shortest =
        Decimal.ofBinary ⟨false, m, k - 1074⟩ := by
      rw [Binary.shortest, same]
    have value : |(⟨false, m, (k : ℤ) - 1074⟩ : Binary).value| = floatGrid n := by
      rw [← ofFloat_nthFloat number lt normal finite, ← Number.exact, exact_nthFloat finite.le,
        abs_of_nonneg (floatGrid_nonneg n)]
    rw [exact, Decimal.rational_ofBinary, value]
    exact .self strictMono_floatGrid n
  · exact roundsTo_of_contains number lt normal inside

theorem exists_read?_shortest {n : ℕ} (finite : n < finiteCount) :
    ∃ numeral, Numeral.read? (Binary.ofFloat (nthFloat n)).shortest.shortText = some numeral ∧
      numeral.value = nthFloat n := by
  obtain ⟨numeral, read, value⟩ := (Binary.ofFloat (nthFloat n)).shortest.exists_read?_shortText
  obtain ⟨m, rounds, eq⟩ := numeral.exists_value
  rw [value] at rounds
  obtain rfl := rounds.unique strictMono_floatGrid (roundsTo_shortest finite)
  exact ⟨numeral, read, by rw [eq, min_eq_left finite.le]⟩

theorem plain_nthFloat {n : ℕ} (finite : n < finiteCount) :
    plain (nthFloat n) = (Binary.ofFloat (nthFloat n)).shortest.shortText := by
  have isFinite := (isFinite_nthFloat finite.le).2 finite
  obtain ⟨k, m, number, lt, normal⟩ := exists_binade n
  have sign : (Binary.ofFloat (nthFloat n)).negative = false := by
    rw [ofFloat_nthFloat number lt normal finite]
  simp only [plain, write, isNaN_of_isFinite isFinite, isInf_of_isFinite isFinite, sign, withSign,
    Bool.false_eq_true, if_false]

/-- A number is written as a numeral that stands for it. -/
theorem isNumeral_plain {n : ℕ} (finite : n < finiteCount) :
    Numeral.IsNumeral (plain (nthFloat n)) := by
  rw [plain_nthFloat finite]
  exact isNumeral_shortText _

theorem numberOf_plain {n : ℕ} (finite : n < finiteCount) :
    Token.numberOf (plain (nthFloat n)) = nthFloat n := by
  obtain ⟨numeral, read, value⟩ := exists_read?_shortest finite
  rw [plain_nthFloat finite, Token.numberOf, read]
  exact value

end Calculator.Number
