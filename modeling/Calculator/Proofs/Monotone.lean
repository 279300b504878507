import Calculator.Proofs.Exactness
import Calculator.Proofs.Repeating

/-! The order of what is shown. Floating-point numbers have the order of their exact values, and no
rounding turns it around: neither to the digits that are shown, though two numbers next to each
other may be shown in different forms and with different numbers of digits, nor to the number that
is read back. -/
namespace Calculator

open Number

namespace Number

namespace RoundsDigits

variable {unit unit' : ℤ → ℤ} {m n : ℤ} {q r s t : ℚ}

/-- Numbers with a power of ten between them are rounded to each side of it, to whatever digits. -/
theorem le_of_zpow_between (lt : ∀ m, unit m < m) (lt' : ∀ m, unit' m < m)
    (h : RoundsDigits unit m q t) (h' : RoundsDigits unit' n r s) {b : ℤ} (less : q < 10 ^ b)
    (le : 10 ^ b ≤ r) : t ≤ s :=
  (h.le_zpow lt less).trans (h'.zpow_le lt' le)

theorem mono (lt : ∀ m, unit m < m) (h : RoundsDigits unit m q t) (h' : RoundsDigits unit n r s)
    (le : q ≤ r) : t ≤ s := by
  rcases (h.exponent.mono h'.exponent le).lt_or_eq with less | rfl
  · have below : q < 10 ^ n :=
      h.exponent.lt.trans_le (zpow_le_zpow_right₀ (by norm_num) less)
    exact h.le_of_zpow_between lt lt h' below h'.exponent.le
  · obtain ⟨i, rounds, rfl⟩ := h.exists_rounds
    obtain ⟨j, rounds', rfl⟩ := h'.exists_rounds
    have pos : (0 : ℚ) < 10 ^ unit m := by positivity
    have count : i ≤ j :=
      rounds.mono strictMono_natCast rounds' (div_le_div_of_nonneg_right le pos.le)
    exact mul_le_mul_of_nonneg_right (Nat.cast_le.2 count) pos.le

end RoundsDigits

end Number

namespace Display

variable {lib : Elementary} {x y : Float} {s t : ℚ}

theorem Shows.nonneg (h : Shows lib x t) : 0 ≤ t := by
  cases h with
  | zero => exact le_rfl
  | outer | inner => positivity

/-- Numbers that are shown in different forms have a power of ten between them. -/
theorem exists_zpow_between {q r : ℚ} (le : q ≤ r) (form : ¬(IsOuter q ↔ IsOuter r)) :
    ∃ b : ℤ, q < 10 ^ b ∧ 10 ^ b ≤ r := by
  rcases lt_or_ge q (1 / 10 ^ 10) with small | notSmall
  · have notSmall' : ¬r < 1 / 10 ^ 10 := fun small' =>
      form (iff_of_true (.inl small) (.inl small'))
    rw [← ten_zpow_neg_ten] at small notSmall'
    exact ⟨-10, small, not_lt.1 notSmall'⟩
  · have notSmall' := not_lt.2 (notSmall.trans le)
    rw [IsOuter, IsOuter, or_iff_right (not_lt.2 notSmall), or_iff_right notSmall',
      ← zpow_ofNat] at form
    have less : q < 10 ^ (15 : ℤ) := by
      by_contra! large
      exact form (iff_of_true large (large.trans le))
    have large' : 10 ^ (15 : ℤ) ≤ r := by
      by_contra! less'
      exact form (iff_of_false (not_le.2 less) (not_le.2 less'))
    exact ⟨15, less, large'⟩

/-- A smaller number is not shown as a greater one, in whatever forms and with whatever digits the
two are shown. -/
theorem Shows.mono (accurate : lib.LogsAccurate) (finite : x.isFinite) (finite' : y.isFinite)
    (h : Shows lib x t) (h' : Shows lib y s) (le : |exact x| ≤ |exact y|) : t ≤ s := by
  by_cases zero : exact x = 0
  · rw [h.eq_zero zero]
    exact h'.nonneg
  have pos : 0 < |exact x| := abs_pos.2 zero
  have ne : exact y ≠ 0 := abs_pos.1 (pos.trans_le le)
  obtain ⟨m, digits⟩ := h.exists_roundsDigits zero (accurate x finite)
  obtain ⟨n, digits'⟩ := h'.exists_roundsDigits ne (accurate y finite')
  by_cases form : IsOuter |exact x| ↔ IsOuter |exact y|
  · have unit : lastUnit |exact x| = lastUnit |exact y| := by
      rw [lastUnit, lastUnit, if_congr form rfl rfl]
    rw [unit] at digits
    exact digits.mono (lastUnit_lt _) digits' le
  · obtain ⟨b, less, ge⟩ := exists_zpow_between le form
    exact digits.le_of_zpow_between (lastUnit_lt _) (lastUnit_lt _) digits' less ge

theorem exact_restored_mono (accurate : lib.LogsAccurate) (finite : x.isFinite)
    (finite' : y.isFinite) (h : Shows lib x t) (h' : Shows lib y s) {k l : ℕ}
    (rounds : RoundsTo floatGrid t k) (rounds' : RoundsTo floatGrid s l) (le : exact x ≤ exact y) :
    exact (restored x k) ≤ exact (restored y l) := by
  rw [exact_restored x (rounds.lt_finiteCount (h.le_greatest finite)),
    exact_restored y (rounds'.lt_finiteCount (h'.le_greatest finite'))]
  have nonneg := floatGrid_nonneg k
  have nonneg' := floatGrid_nonneg l
  rcases lt_or_ge (exact y) 0 with negative' | notNegative'
  · -- Below zero the sizes have the opposite order.
    have negative := le.trans_lt negative'
    have size : |exact y| ≤ |exact x| := by
      rw [abs_of_neg negative, abs_of_neg negative']
      exact neg_le_neg le
    have shown := h'.mono accurate finite' finite h size
    have grid := strictMono_floatGrid.monotone (rounds'.mono strictMono_floatGrid rounds shown)
    rw [if_pos negative, if_pos negative']
    linarith
  rw [if_neg (not_lt.2 notNegative')]
  split
  · linarith
  · rename_i notNegative
    have size : |exact x| ≤ |exact y| := by
      rwa [abs_of_nonneg (not_lt.1 notNegative), abs_of_nonneg notNegative']
    have shown := h.mono accurate finite finite' h' size
    have grid := strictMono_floatGrid.monotone (rounds.mono strictMono_floatGrid rounds' shown)
    linarith

end Display

namespace Session

open Display

variable {lib : Elementary} {x y : Float}

/-- What is shown of a number is read back as a number that is not greater than the one read back
for a greater number. -/
theorem shown_mono (accurate : lib.LogsAccurate) (finite : x.isFinite) (finite' : y.isFinite)
    (le : x ≤ y) :
    ∃ v w, (∀ unit, Calculation.evaluate lib unit (shown lib x) = .ok v) ∧
      (∀ unit, Calculation.evaluate lib unit (shown lib y) = .ok w) ∧ v ≤ w := by
  obtain ⟨t, k, shows, rounds, value⟩ := exists_evaluate_shown lib finite
  obtain ⟨s, l, shows', rounds', value'⟩ := exists_evaluate_shown lib finite'
  refine ⟨restored x k, restored y l, value, value', ?_⟩
  have isFinite := isFinite_restored x (rounds.lt_finiteCount (shows.le_greatest finite))
  have isFinite' := isFinite_restored y (rounds'.lt_finiteCount (shows'.le_greatest finite'))
  rw [le_iff_exact_le finite finite'] at le
  rw [le_iff_exact_le isFinite isFinite']
  exact exact_restored_mono accurate finite finite' shows shows' rounds rounds' le

/-- The number at the limit has an exponent, the one next to it is rounded to all its digits. -/
theorem shown_mono_limit :
    let x : Float := -1e15
    let y : Float := -999999999999999.9
    Elementary.decimal.LogsAccurate ∧ x.isFinite ∧ y.isFinite ∧ x ≤ y ∧
      shown .decimal x = "-1.000000e15" ∧ shown .decimal y = "-1000000000000000" ∧
      ∃ v w, (∀ unit, Calculation.evaluate .decimal unit (shown .decimal x) = .ok v) ∧
        (∀ unit, Calculation.evaluate .decimal unit (shown .decimal y) = .ok w) ∧ v ≤ w := by
  intro x y
  have finite : x.isFinite := by decide +kernel
  have finite' : y.isFinite := by decide +kernel
  have le : x ≤ y := by decide +kernel
  exact ⟨logsAccurate_decimal, finite, finite', le, by decide +kernel, by decide +kernel,
    shown_mono logsAccurate_decimal finite finite' le⟩

end Session

end Calculator
