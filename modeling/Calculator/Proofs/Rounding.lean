import Mathlib
import Calculator.Number.Binary

/-! Rounding to a grid. The points of a grid are counted from zero, and a rational is rounded to the
nearest one, half way between two to the one that is counted with an even number. Integers are a
grid (`roundsTo_roundDiv`), and so are the floating-point numbers that are not negative
(`roundsTo_nearestBits`). -/
namespace Calculator.Number

/-- The `n`-th point of the grid is what `q` is rounded to. -/
structure RoundsTo (grid : ℕ → ℚ) (q : ℚ) (n : ℕ) : Prop where
  le_above : q ≤ (grid n + grid (n + 1)) / 2
  even_of_above : q = (grid n + grid (n + 1)) / 2 → Even n
  below_le : ∀ k, n = k + 1 → (grid k + grid n) / 2 ≤ q
  even_of_below : ∀ k, n = k + 1 → q = (grid k + grid n) / 2 → Even n

namespace RoundsTo

variable {grid : ℕ → ℚ} {q q' : ℚ} {n n' : ℕ}

theorem mono (increasing : StrictMono grid) (h : RoundsTo grid q n) (h' : RoundsTo grid q' n')
    (le : q ≤ q') : n ≤ n' := by
  by_contra lt
  obtain ⟨k, rfl⟩ : ∃ k, n = k + 1 := ⟨n - 1, by omega⟩
  have low := h.below_le k rfl
  have high := h'.le_above
  rcases Nat.lt_or_ge n' k with less | ge
  · have first := increasing less
    have second := increasing (Nat.succ_lt_succ less)
    simp only [Nat.succ_eq_add_one] at second
    linarith
  · -- Half way between two neighbours only one of the two is even.
    obtain rfl : n' = k := by omega
    have even := h.even_of_below n' rfl (by linarith)
    have even' := h'.even_of_above (by linarith)
    exact (Nat.even_add_one.1 even) even'

theorem unique (increasing : StrictMono grid) (h : RoundsTo grid q n) (h' : RoundsTo grid q n') :
    n = n' :=
  Nat.le_antisymm (h.mono increasing h' le_rfl) (h'.mono increasing h le_rfl)

theorem self (increasing : StrictMono grid) (n : ℕ) : RoundsTo grid (grid n) n := by
  have above : grid n < grid (n + 1) := increasing (Nat.lt_succ_self n)
  have below : ∀ k, n = k + 1 → grid k < grid n := by
    rintro k rfl
    exact increasing (Nat.lt_succ_self k)
  refine ⟨by linarith, fun eq => by linarith, fun k eq => ?_, fun k eq same => ?_⟩
  · have := below k eq
    linarith
  · have := below k eq
    linarith

theorem le_of_le (increasing : StrictMono grid) (h : RoundsTo grid q n) (le : q ≤ grid n') :
    n ≤ n' :=
  h.mono increasing (.self increasing n') le

theorem le_of_ge (increasing : StrictMono grid) (h : RoundsTo grid q n) (le : grid n' ≤ q) :
    n' ≤ n :=
  (self increasing n').mono increasing h le

theorem abs_sub_le (increasing : StrictMono grid) (h : RoundsTo grid q n) (m : ℕ) :
    |grid n - q| ≤ |grid m - q| := by
  rcases lt_trichotomy m n with lt | rfl | gt
  · obtain ⟨k, rfl⟩ : ∃ k, n = k + 1 := ⟨n - 1, by omega⟩
    have low := h.below_le k rfl
    have before : grid m ≤ grid k := increasing.monotone (Nat.le_of_lt_succ lt)
    rw [abs_sub_comm (grid m)]
    refine le_trans ?_ (le_abs_self _)
    refine abs_le.2 ⟨?_, by linarith⟩
    have := increasing (Nat.lt_succ_self k)
    linarith
  · exact le_rfl
  · have high := h.le_above
    have after : grid (n + 1) ≤ grid m := increasing.monotone gt
    refine le_trans ?_ (le_abs_self _)
    have := increasing (Nat.lt_succ_self n)
    simp only [Nat.succ_eq_add_one] at this
    exact abs_le.2 ⟨by linarith, by linarith⟩

/-- Where another point is as near, the even one is rounded to. -/
theorem even_of_abs_sub_eq (increasing : StrictMono grid) (h : RoundsTo grid q n) {m : ℕ}
    (other : m ≠ n) (same : |grid m - q| = |grid n - q|) : Even n := by
  have middle : q = (grid m + grid n) / 2 := by
    rcases abs_eq_abs.1 same with eq | eq
    · exact absurd (increasing.injective (sub_left_inj.1 eq)) other
    · linarith
  rcases lt_or_gt_of_ne other with lt | gt
  · obtain ⟨k, rfl⟩ : ∃ k, n = k + 1 := ⟨n - 1, by omega⟩
    have low := h.below_le k rfl
    have before : grid m ≤ grid k := increasing.monotone (Nat.le_of_lt_succ lt)
    exact h.even_of_below k rfl (by linarith)
  · have high := h.le_above
    have after : grid (n + 1) ≤ grid m := increasing.monotone gt
    exact h.even_of_above (by linarith)

/-- Another unit does not change what is rounded to. -/
theorem scale {unit : ℚ} (pos : 0 < unit) (h : RoundsTo grid q n) :
    RoundsTo (fun n => grid n * unit) (q * unit) n := by
  have middle : ∀ a b, (a * unit + b * unit) / 2 = (a + b) / 2 * unit := fun a b => by ring
  constructor
  · rw [middle]
    exact mul_le_mul_of_nonneg_right h.le_above pos.le
  · rw [middle]
    exact fun eq => h.even_of_above (mul_right_cancel₀ pos.ne' eq)
  · intro k eq
    rw [middle]
    exact mul_le_mul_of_nonneg_right (h.below_le k eq) pos.le
  · intro k eq
    rw [middle]
    exact fun same => h.even_of_below k eq (mul_right_cancel₀ pos.ne' same)

/-- A grid may be exchanged for one with the same neighbours. A neighbour that is not the same does
not matter on the other side of the point. -/
theorem transfer {grid' : ℕ → ℚ} (increasing : StrictMono grid') (h : RoundsTo grid q n)
    (parity : Even n' ↔ Even n) (here : grid' n' = grid n)
    (next : grid' (n' + 1) = grid (n + 1) ∨ q < grid' n')
    (before : ∀ k', n' = k' + 1 → (∃ k, n = k + 1 ∧ grid' k' = grid k) ∨ grid' n' ≤ q) :
    RoundsTo grid' q n' := by
  have above : grid' n' < grid' (n' + 1) := increasing (Nat.lt_succ_self n')
  constructor
  · rcases next with next | less
    · rw [here, next]
      exact h.le_above
    · linarith
  · intro eq
    rcases next with next | less
    · rw [here, next] at eq
      exact parity.2 (h.even_of_above eq)
    · linarith
  · rintro k' rfl
    rcases before k' rfl with ⟨k, number, before⟩ | ge
    · rw [here, before]
      exact h.below_le k number
    · have := increasing (Nat.lt_succ_self k')
      linarith
  · rintro k' rfl same
    rcases before k' rfl with ⟨k, number, before⟩ | ge
    · rw [here, before] at same
      exact parity.2 (h.even_of_below k number same)
    · have := increasing (Nat.lt_succ_self k')
      linarith

end RoundsTo

theorem strictMono_natCast : StrictMono fun n : ℕ => (n : ℚ) := Nat.strictMono_cast

/-- A quotient is rounded by half the divisor at most, and by half of it only to an even number. -/
theorem roundDiv_bounds (num : ℕ) {den : ℕ} (pos : 0 < den) :
    2 * num ≤ 2 * (roundDiv num den * den) + den ∧ 2 * (roundDiv num den * den) ≤ 2 * num + den ∧
      (2 * num = 2 * (roundDiv num den * den) + den → Even (roundDiv num den)) ∧
      (2 * (roundDiv num den * den) = 2 * num + den → Even (roundDiv num den)) := by
  have whole := Nat.div_add_mod' num den
  have less := Nat.mod_lt num pos
  simp only [roundDiv, Nat.even_iff]
  generalize num / den = k, num % den = r at whole less
  split
  · omega
  · split
    · rw [Nat.add_mul]
      omega
    · rcases Nat.mod_two_eq_zero_or_one k with even | odd
      · rw [even, Nat.add_zero]
        omega
      · rw [odd, Nat.add_mul]
        omega

theorem roundsTo_roundDiv (num : ℕ) {den : ℕ} (pos : 0 < den) :
    RoundsTo (fun n => (n : ℚ)) (num / den) (roundDiv num den) := by
  obtain ⟨above, below, evenAbove, evenBelow⟩ := roundDiv_bounds num pos
  have posCast : (0 : ℚ) < den := Nat.cast_pos.2 pos
  generalize roundDiv num den = n at *
  constructor
  · rw [div_le_div_iff₀ posCast two_pos]
    push_cast
    have : (2 * num : ℚ) ≤ 2 * (n * den) + den := by exact_mod_cast above
    linarith
  · rw [div_eq_div_iff posCast.ne' two_ne_zero]
    intro eq
    push_cast at eq
    refine evenAbove ?_
    have : (2 * num : ℚ) = 2 * (n * den) + den := by linarith
    exact_mod_cast this
  · rintro k rfl
    rw [div_le_div_iff₀ two_pos posCast]
    push_cast
    have : (2 * ((k + 1 : ℕ) * den) : ℚ) ≤ 2 * num + den := by exact_mod_cast below
    push_cast at this
    linarith
  · rintro k rfl
    rw [div_eq_div_iff posCast.ne' two_ne_zero]
    intro eq
    push_cast at eq
    refine evenBelow ?_
    have : (2 * ((k + 1 : ℕ) * den) : ℚ) = 2 * num + den := by push_cast; linarith
    exact_mod_cast this

/-- The `n`-th floating-point number, counted from zero. The first `2 ^ 53` of them are multiples of
the smallest one, and from there on the distance doubles with every `2 ^ 52` numbers. -/
def floatGrid (n : ℕ) : ℚ :=
  (n - (n / 2 ^ 52 - 1) * 2 ^ 52 : ℕ) * 2 ^ (((n / 2 ^ 52 - 1 : ℕ) : ℤ) - 1074)

/-- The mantissa `m` of the `k`-th distance between neighbours. -/
theorem floatGrid_eq {k m : ℕ} (le : m ≤ 2 ^ 53) (normal : k = 0 ∨ 2 ^ 52 ≤ m) :
    floatGrid (k * 2 ^ 52 + m) = m * 2 ^ ((k : ℤ) - 1074) := by
  rcases Nat.lt_or_eq_of_le le with lt | rfl
  · have place : (k * 2 ^ 52 + m) / 2 ^ 52 - 1 = k := by omega
    rw [floatGrid, place, Nat.add_sub_cancel_left]
  · -- The last mantissa is the first one of the next distance.
    have place : (k * 2 ^ 52 + 2 ^ 53) / 2 ^ 52 - 1 = k + 1 := by omega
    have rest : k * 2 ^ 52 + 2 ^ 53 - (k + 1) * 2 ^ 52 = 2 ^ 52 := by omega
    have exponent : ((k + 1 : ℕ) : ℤ) - 1074 = ((k : ℤ) - 1074) + 1 := by push_cast; ring
    rw [floatGrid, place, rest, exponent, zpow_add_one₀ two_ne_zero]
    push_cast
    ring

theorem exists_binade (n : ℕ) :
    ∃ k m, n = k * 2 ^ 52 + m ∧ m < 2 ^ 53 ∧ (k = 0 ∨ 2 ^ 52 ≤ m) := by
  refine ⟨n / 2 ^ 52 - 1, n - (n / 2 ^ 52 - 1) * 2 ^ 52, ?_, ?_, ?_⟩ <;> omega

theorem floatGrid_succ {k m : ℕ} (lt : m < 2 ^ 53) (normal : k = 0 ∨ 2 ^ 52 ≤ m) :
    floatGrid (k * 2 ^ 52 + m + 1) = floatGrid (k * 2 ^ 52 + m) + 2 ^ ((k : ℤ) - 1074) := by
  rw [Nat.add_assoc, floatGrid_eq lt (normal.imp_right Nat.le_succ_of_le),
    floatGrid_eq lt.le normal]
  push_cast
  ring

/-- Normal numbers have fifty-three places. -/
theorem floatGrid_gap_le (n : ℕ) :
    (2 ^ 52 ≤ n + 1 → (floatGrid (n + 1) - floatGrid n) * 2 ^ 52 ≤ floatGrid (n + 1)) ∧
      (2 ^ 52 ≤ n → (floatGrid (n + 1) - floatGrid n) * 2 ^ 52 ≤ floatGrid n) := by
  obtain ⟨k, m, number, lt, normal⟩ := exists_binade n
  have here : floatGrid n = m * 2 ^ ((k : ℤ) - 1074) := number ▸ floatGrid_eq lt.le normal
  have next : floatGrid (n + 1) = floatGrid n + 2 ^ ((k : ℤ) - 1074) :=
    number ▸ floatGrid_succ lt normal
  rw [next, add_sub_cancel_left, here, ← add_one_mul, mul_comm]
  constructor
  · intro large
    refine mul_le_mul_of_nonneg_right ?_ (by positivity)
    have : 2 ^ 52 ≤ m + 1 := by omega
    exact_mod_cast this
  · intro large
    refine mul_le_mul_of_nonneg_right ?_ (by positivity)
    have : 2 ^ 52 ≤ m := by omega
    exact_mod_cast this

theorem strictMono_floatGrid : StrictMono floatGrid := by
  refine strictMono_nat_of_lt_succ fun n => ?_
  obtain ⟨k, m, rfl, lt, normal⟩ := exists_binade n
  rw [floatGrid_succ lt normal]
  have : (0 : ℚ) < 2 ^ ((k : ℤ) - 1074) := by positivity
  linarith

@[simp] theorem floatGrid_zero : floatGrid 0 = 0 := by simp [floatGrid]

theorem floatGrid_nonneg (n : ℕ) : 0 ≤ floatGrid n := by
  rw [← floatGrid_zero]
  exact strictMono_floatGrid.monotone (Nat.zero_le n)

/-- A normal number is as near as half of its last place. -/
theorem RoundsTo.abs_sub_le_ulp {q : ℚ} {n : ℕ} (normal : 2 ^ 52 ≤ n)
    (h : RoundsTo floatGrid q n) : |floatGrid n - q| ≤ floatGrid n / 2 ^ 53 := by
  obtain ⟨k, rfl⟩ : ∃ k, n = k + 1 := ⟨n - 1, by omega⟩
  have below := h.below_le k rfl
  have above := h.le_above
  have gapBelow := (floatGrid_gap_le k).1 normal
  have gapAbove := (floatGrid_gap_le (k + 1)).2 normal
  exact abs_le.2 ⟨by linarith, by linarith⟩

theorem zpow_eq_toNat {a : ℚ} (h : a ≠ 0) (i : ℤ) : a ^ i = a ^ i.toNat / a ^ (-i).toNat := by
  rw [eq_div_iff (pow_ne_zero _ h), ← zpow_natCast, ← zpow_natCast, ← zpow_add₀ h]
  congr 1
  omega

theorem binaryExponent_bounds {num den : ℕ} (num_pos : 0 < num) (den_pos : 0 < den) :
    (2 : ℚ) ^ binaryExponent num den ≤ num / den ∧
      (num / den : ℚ) < 2 ^ (binaryExponent num den + 1) := by
  have denCast : (0 : ℚ) < den := Nat.cast_pos.2 den_pos
  have numLow : (2 : ℚ) ^ (num.log2 : ℤ) ≤ num := by
    exact_mod_cast Nat.log2_self_le num_pos.ne'
  have numHigh : (num : ℚ) < 2 ^ ((num.log2 : ℤ) + 1) := by
    exact_mod_cast Nat.lt_log2_self (n := num)
  have denLow : (2 : ℚ) ^ (den.log2 : ℤ) ≤ den := by
    exact_mod_cast Nat.log2_self_le den_pos.ne'
  have denHigh : (den : ℚ) < 2 ^ ((den.log2 : ℤ) + 1) := by
    exact_mod_cast Nat.lt_log2_self (n := den)
  have low : (2 : ℚ) ^ ((num.log2 : ℤ) - den.log2 - 1) ≤ num / den := by
    rw [sub_sub, zpow_sub₀ two_ne_zero]
    exact div_le_div₀ (Nat.cast_nonneg num) numLow denCast denHigh.le
  have high : (num / den : ℚ) < 2 ^ ((num.log2 : ℤ) - den.log2 + 1) := by
    rw [sub_add_eq_add_sub, zpow_sub₀ two_ne_zero]
    exact div_lt_div₀ numHigh denLow (by positivity) (by positivity)
  have exact_iff : ∀ e : ℤ, den * 2 ^ e.toNat ≤ num * 2 ^ (-e).toNat ↔
      (2 : ℚ) ^ e ≤ num / den := by
    intro e
    rw [zpow_eq_toNat two_ne_zero, div_le_div_iff₀ (by positivity) denCast, mul_comm den]
    exact_mod_cast Iff.rfl
  simp only [binaryExponent, Nat.pow_eq, exact_iff]
  split
  · rename_i le
    exact ⟨le, high⟩
  · rename_i gt
    rw [sub_add_cancel]
    exact ⟨low, not_le.1 gt⟩

/-- Between powers of two, where the distance does not change, floating-point numbers are rounded to
like integers. -/
theorem RoundsTo.binade {k m : ℕ} {q : ℚ}
    (h : RoundsTo (fun n => (n : ℚ)) (q / 2 ^ ((k : ℤ) - 1074)) m)
    (upper : q < (2 ^ 53 : ℕ) * 2 ^ ((k : ℤ) - 1074))
    (lower : k = 0 ∨ (2 ^ 52 : ℕ) * 2 ^ ((k : ℤ) - 1074) ≤ q) :
    RoundsTo floatGrid q (k * 2 ^ 52 + m) := by
  have unit_pos : (0 : ℚ) < 2 ^ ((k : ℤ) - 1074) := by positivity
  have le : m ≤ 2 ^ 53 := h.le_of_le strictMono_natCast ((div_lt_iff₀ unit_pos).2 upper).le
  have normal : k = 0 ∨ 2 ^ 52 ≤ m := lower.imp_right fun lower =>
    h.le_of_ge strictMono_natCast ((le_div_iff₀ unit_pos).2 lower)
  have units := h.scale unit_pos
  rw [div_mul_cancel₀ _ unit_pos.ne'] at units
  obtain ⟨n, number⟩ : ∃ n, n = k * 2 ^ 52 + m := ⟨_, rfl⟩
  have parity : Even n ↔ Even m := by
    simp only [Nat.even_iff]
    omega
  have here : floatGrid n = m * 2 ^ ((k : ℤ) - 1074) := number ▸ floatGrid_eq le normal
  rw [← number]
  refine units.transfer strictMono_floatGrid parity here ?next ?before
  case next =>
    rcases Nat.lt_or_eq_of_le le with lt | last
    · left
      rw [number, Nat.add_assoc, floatGrid_eq (Nat.succ_le_of_lt lt) (by omega)]
    · right
      rw [here, last]
      exact upper
  case before =>
    intro i eq
    by_cases first : k = 0 ∨ 2 ^ 52 < m
    · left
      refine ⟨m - 1, by omega, ?_⟩
      rw [← floatGrid_eq (by omega) (first.imp_right Nat.le_sub_one_of_lt)]
      congr 1
      omega
    · right
      have only : m = 2 ^ 52 := by omega
      rw [here, only]
      exact lower.resolve_left (by omega)

/-- The bit patterns of the numbers that are not negative count them. -/
theorem roundsTo_nearestBits (num : ℕ) {den : ℕ} (pos : 0 < den) :
    RoundsTo floatGrid (num / den) (nearestBits num den) := by
  rcases Nat.eq_zero_or_pos num with rfl | num_pos
  · simpa using RoundsTo.self strictMono_floatGrid 0
  obtain ⟨low, high⟩ := binaryExponent_bounds num_pos pos
  obtain ⟨k, place⟩ : ∃ k : ℕ, lastPlace num den = k - 1074 :=
    ⟨(lastPlace num den + 1074).toNat, by rw [lastPlace]; omega⟩
  have scaled : ((num * 2 ^ (-((k : ℤ) - 1074)).toNat : ℕ) : ℚ) /
      (den * 2 ^ ((k : ℤ) - 1074).toNat : ℕ) = num / den / 2 ^ ((k : ℤ) - 1074) := by
    rw [zpow_eq_toNat two_ne_zero]
    push_cast
    field_simp
  have rounds := roundsTo_roundDiv (num * 2 ^ (-((k : ℤ) - 1074)).toNat)
    (Nat.mul_pos pos (Nat.two_pow_pos ((k : ℤ) - 1074).toNat))
  rw [scaled] at rounds
  simp only [nearestBits, num_pos.ne', if_false, place, Nat.pow_eq]
  rw [sub_add_cancel, Int.toNat_natCast]
  -- Fifty-three places are enough, and all are used unless the last is that of the smallest number.
  refine rounds.binade (high.trans_le ?_) ?_
  · rw [Nat.cast_pow, Nat.cast_ofNat, ← zpow_natCast, ← zpow_add₀ two_ne_zero]
    exact zpow_le_zpow_right₀ one_le_two (by rw [lastPlace] at place; push_cast; omega)
  · rcases Nat.eq_zero_or_pos k with zero | normal
    · exact .inl zero
    · refine .inr (le_trans ?_ low)
      rw [Nat.cast_pow, Nat.cast_ofNat, ← zpow_natCast, ← zpow_add₀ two_ne_zero]
      exact zpow_le_zpow_right₀ one_le_two (by rw [lastPlace] at place; push_cast; omega)

end Calculator.Number
