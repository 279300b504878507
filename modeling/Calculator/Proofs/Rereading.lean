import Calculator.Proofs.Canonical
import Calculator.Proofs.Spacing

/-! Showing what is read back. A text that is read back and shown again is the same text, although
its number is another one: this is rounded to the same digits. Only at the two limits between the
forms of a text the form can change, and then it stays. -/
namespace Calculator

open Number

namespace Display

variable {lib : Elementary} {x w : Float} {m n : ℤ} {q t : ℚ}

/-- The exponent of the last digit that is shown of a number with exponent, by that of its first
digit. -/
def outerUnit (m : ℤ) : ℤ := m - 6

instance (q : ℚ) : Decidable (IsOuter q) := inferInstanceAs (Decidable (_ ∨ _))

/-- The exponent of the last digit that is shown of a number of this size. -/
def lastUnit (q : ℚ) : ℤ → ℤ := if IsOuter q then outerUnit else innerUnit

theorem lastUnit_lt (q : ℚ) (m : ℤ) : lastUnit q m < m := by
  rw [lastUnit]
  split
  · exact sub_lt_self m (by decide)
  · exact innerUnit_lt m

theorem monotone_lastUnit (q : ℚ) : Monotone (lastUnit q) := by
  rw [lastUnit]
  split
  · exact fun m n le => sub_le_sub_right le 6
  · exact monotone_innerUnit

/-- A number other than zero is shown rounded to its digits. -/
theorem Shows.exists_roundsDigits (h : Shows lib x t) (ne : exact x ≠ 0)
    (log : ¬IsOuter |exact x| → IsMagnitude (magnitude lib x) |exact x|) :
    ∃ m, RoundsDigits (lastUnit |exact x|) m |exact x| t := by
  by_cases outer : IsOuter |exact x|
  · rw [lastUnit, if_pos outer]
    cases h with
    | zero zero => exact absurd zero ne
    | inner inner => exact absurd outer inner
    | @outer k e _ _ low high rounds =>
      refine ⟨e, ⟨low, high⟩, k, ?_, rfl⟩
      rwa [outerUnit, div_eq_mul_inv, ← zpow_neg, neg_sub]
  · rw [lastUnit, if_neg outer]
    obtain ⟨m, exponent⟩ := exists_hasExponent (abs_pos.2 ne)
    exact ⟨m, h.roundsDigits_inner outer (log outer) exponent⟩

theorem exists_mantissa {d : Decimal} (h : RoundsDigits outerUnit m d.rational t) :
    ∃ k e, mantissaAndExponent 6 d = (k, e) ∧ HasExponent t e ∧ t = k * 10 ^ (e - 6) := by
  have pos : 0 < d.units := by
    refine Nat.pos_of_ne_zero fun none => ?_
    have := h.exponent.pos
    rw [Decimal.rational_eq_zero_iff.2 none] at this
    exact lt_irrefl 0 this
  obtain ⟨k, e, low, high, rounds, parts⟩ := exists_mantissaAndExponent 6 pos
  obtain rfl := h.exponent.unique ⟨low, high⟩
  have value : t = k * 10 ^ (m - 6) := by
    rw [← neg_sub, zpow_neg, ← div_eq_mul_inv] at rounds
    exact h.unique ⟨h.exponent, k, rounds, rfl⟩
  obtain ⟨least, most⟩ := h.bounds fun m => sub_lt_self m (by decide)
  have carry : (10 : ℚ) ^ (m + 1) = (10 ^ 7 : ℕ) * 10 ^ (m - 6) := by
    rw [ten_zpow_eq_sub_mul (m + 1) 7, mul_comm, Nat.cast_pow, Nat.cast_ofNat]
    congr 2
    omega
  rw [parts]
  split
  · rename_i carried
    rw [carried, ← carry] at value
    rw [value]
    refine ⟨_, _, rfl, ⟨le_rfl, zpow_lt_zpow_right₀ (by norm_num) (lt_add_one _)⟩, ?_⟩
    rw [ten_zpow_eq_sub_mul (m + 1) 6, mul_comm, Nat.cast_pow, Nat.cast_ofNat]
    rfl
  · rename_i kept
    refine ⟨_, _, rfl, ⟨least, lt_of_le_of_ne most fun same => kept ?_⟩, value⟩
    rw [same, carry] at value
    exact_mod_cast (mul_right_cancel₀ (by positivity) value).symm

/-- Numbers that are rounded to the same are written with the same digits. -/
theorem scientificDigits_congr {d d' : Decimal} (h : RoundsDigits outerUnit m d.rational t)
    (h' : RoundsDigits outerUnit n d'.rational t) :
    scientificDigits 6 d = scientificDigits 6 d' := by
  obtain ⟨k, e, parts, exponent, value⟩ := exists_mantissa h
  obtain ⟨k', e', parts', exponent', value'⟩ := exists_mantissa h'
  obtain rfl := exponent.unique exponent'
  have pos : (0 : ℚ) < 10 ^ (e - 6) := by positivity
  have same : k = k' := by
    rw [value] at value'
    exact_mod_cast mul_right_cancel₀ pos.ne' value'
  rw [scientificDigits, scientificDigits, parts, parts', same]

/-- The text of a number depends on its sign, its form and what it is rounded to. -/
theorem text_congr (lib : Elementary) (finite : x.isFinite) (finite' : w.isFinite)
    (log : ¬IsOuter |exact x| → IsMagnitude (magnitude lib x) |exact x|)
    (log' : ¬IsOuter |exact w| → IsMagnitude (magnitude lib w) |exact w|)
    (sign : exact w < 0 ↔ exact x < 0) (form : IsOuter |exact w| ↔ IsOuter |exact x|)
    (h : RoundsDigits (lastUnit |exact x|) m |exact x| t)
    (h' : RoundsDigits (lastUnit |exact x|) n |exact w| t) : text lib w = text lib x := by
  have ne : exact x ≠ 0 := abs_pos.1 h.exponent.pos
  have ne' : exact w ≠ 0 := abs_pos.1 h'.exponent.pos
  by_cases outer : IsOuter |exact x|
  · rw [lastUnit, if_pos outer] at h h'
    rw [text_of_exact_ne_zero lib finite ne, text_of_exact_ne_zero lib finite' ne',
      if_pos (isOuter_iff.2 outer), if_pos (isOuter_iff.2 (form.2 outer))]
    rw [← rational_size] at h h'
    simp only [sign, scientificDigits_congr h' h]
  · have inner' := mt form.1 outer
    rw [lastUnit, if_neg outer] at h h'
    obtain ⟨s, whole, fraction, shows, canonical, text⟩ := exists_isCanonical lib finite outer
    obtain ⟨s', whole', fraction', shows', canonical', text'⟩ :=
      exists_isCanonical lib finite' inner'
    obtain rfl := (shows.roundsDigits_inner outer (log outer) h.exponent).unique h
    obtain rfl := (shows'.roundsDigits_inner inner' (log' inner') h'.exponent).unique h'
    obtain ⟨rfl, rfl⟩ := canonical.unique canonical'
    rw [text, text']
    simp only [sign]

theorem ten_zpow_neg_ten : (10 : ℚ) ^ (-10 : ℤ) = 1 / 10 ^ 10 :=
  (ten_zpow_neg 10).trans (one_div _).symm

theorem exponent_bounds_of_inner (inner : ¬IsOuter q) (h : HasExponent q m) :
    -11 < m ∧ m < 15 := by
  obtain ⟨low, high⟩ := not_or.1 inner
  constructor
  · have power : (10 : ℚ) ^ (-10 : ℤ) < 10 ^ (m + 1) := by
      refine lt_of_le_of_lt ?_ h.lt
      rw [ten_zpow_neg_ten]
      exact not_lt.1 low
    have := (zpow_lt_zpow_iff_right₀ (by norm_num)).1 power
    omega
  · have power : (10 : ℚ) ^ m < 10 ^ (15 : ℤ) := by
      refine h.le.trans_lt ?_
      rw [zpow_ofNat]
      exact not_le.1 high
    exact (zpow_lt_zpow_iff_right₀ (by norm_num)).1 power

theorem le_lastUnit (h : HasExponent q m) : m - 15 ≤ lastUnit q (m - 1) := by
  rw [lastUnit]
  split
  · rw [outerUnit]
    omega
  · have := exponent_bounds_of_inner ‹_› h
    rw [innerUnit]
    omega

/-- Where the smallest number is coarser than the digits, no number is shown as a power of ten that
is rounded down to another number. -/
theorem lt_exponent_of_below {i k : ℕ} (h : RoundsDigits outerUnit m (floatGrid i) t)
    (rounds : RoundsTo floatGrid t k) (power : t = 10 ^ m) (less : floatGrid k < 10 ^ m) :
    -317 < m := by
  have lt : k < i := by
    by_contra! le
    have := strictMono_floatGrid.monotone le
    have := h.exponent.le
    linarith
  have apart := floatGrid_one_le_sub lt
  have near := h.abs_sub_le
  have nearest := (rounds.abs_sub_le strictMono_floatGrid i).trans near
  rw [abs_le] at near nearest
  have gap : floatGrid 1 ≤ 10 ^ outerUnit m := by linarith
  have large : -324 < outerUnit m :=
    (zpow_lt_zpow_iff_right₀ (by norm_num)).1 (floatGrid_one_bounds.1.trans_le gap)
  rw [outerUnit] at large
  by_contra! le
  obtain rfl : m = -317 := by omega
  rw [power] at rounds
  exact absurd less (not_lt.2 (le_floatGrid_of_roundsTo rounds))

/-- A number that is rounded down from a power of ten is near enough to be shown as this power,
though it has a smaller last digit. -/
theorem sub_le_half_unit {i k : ℕ} (h : RoundsDigits (lastUnit (floatGrid i)) m (floatGrid i) t)
    (rounds : RoundsTo floatGrid t k) (power : t = 10 ^ m) (less : floatGrid k < 10 ^ m) :
    10 ^ m - floatGrid k ≤ 10 ^ lastUnit (floatGrid i) (m - 1) / 2 := by
  have digits := le_lastUnit h.exponent
  have gap := rounds.sub_le
  rw [power] at gap
  rcases gap with smallest | relative
  · have least : -323 ≤ lastUnit (floatGrid i) (m - 1) := by
      by_cases outer : IsOuter (floatGrid i)
      · rw [lastUnit, if_pos outer] at h ⊢
        have := lt_exponent_of_below h rounds power less
        rw [outerUnit]
        omega
      · have := exponent_bounds_of_inner outer h.exponent
        omega
    have unit : (10 : ℚ) ^ (-323 : ℤ) ≤ 10 ^ lastUnit (floatGrid i) (m - 1) :=
      zpow_le_zpow_right₀ (by norm_num) least
    have := floatGrid_one_bounds.2
    linarith
  · have unit : (10 : ℚ) ^ (m - 15) ≤ 10 ^ lastUnit (floatGrid i) (m - 1) :=
      zpow_le_zpow_right₀ (by norm_num) digits
    have pos : (0 : ℚ) < 10 ^ (m - 15) := by positivity
    have shift : (10 : ℚ) ^ m = 10 ^ (m - 15) * 10 ^ 15 := ten_zpow_eq_sub_mul m 15
    linarith

/-- What is shown of a number is shown again of the number that it is read back as, up to the form
of the text. -/
theorem exists_roundsDigits_floatGrid {i k : ℕ}
    (h : RoundsDigits (lastUnit (floatGrid i)) m (floatGrid i) t)
    (rounds : RoundsTo floatGrid t k) :
    ∃ n, RoundsDigits (lastUnit (floatGrid i)) n (floatGrid k) t :=
  h.stable (monotone_lastUnit _) (lastUnit_lt _) (rounds.abs_sub_le strictMono_floatGrid i)
    fun power less => sub_le_half_unit h rounds power less

/-- A number below a limit is read back as the limit. -/
def CrossesAt (limit x w : Float) : Prop := |exact x| < exact limit ∧ |exact w| = exact limit

/-- Reading back crosses one of the two limits between the forms of a text. -/
def Crosses (x w : Float) : Prop := CrossesAt 1e15 x w ∨ CrossesAt 1e-10 x w

theorem exact_large : exact 1e15 = 10 ^ 15 := by
  have parts : Binary.ofFloat 1e15 = ⟨false, 8000000000000000, -3⟩ := by decide +kernel
  rw [exact, parts, Binary.value]
  norm_num

theorem exact_tiny : exact 1e-10 = 7737125245533627 * 2 ^ (-86 : ℤ) := by
  have parts : Binary.ofFloat 1e-10 = ⟨false, 7737125245533627, -86⟩ := by decide +kernel
  rw [exact, parts, Binary.value]
  norm_num

theorem le_exact_tiny : 1 / 10 ^ 10 ≤ exact 1e-10 := by
  rw [exact_tiny]
  norm_num

theorem exact_tiny_lt : exact 1e-10 < 1 := by
  rw [exact_tiny]
  norm_num

theorem Crosses.pos (h : Crosses x w) : 0 < |exact w| := by
  rcases h with ⟨-, reached⟩ | ⟨-, reached⟩
  · rw [reached, exact_large]
    norm_num
  · rw [reached, exact_tiny]
    norm_num

theorem exists_floatGrid_eq_large : ∃ k, floatGrid k = 10 ^ 15 :=
  ⟨_, (ofFloat_of_toBits_lt (by decide +kernel)).2.symm.trans exact_large⟩

theorem floatGrid_tiny : floatGrid (988 * 2 ^ 52 + 7737125245533627) = exact 1e-10 := by
  rw [floatGrid_eq (by norm_num) (.inr (by norm_num)), exact_tiny]
  norm_num

theorem roundsTo_tiny : RoundsTo floatGrid (1 / 10 ^ 10) (988 * 2 ^ 52 + 7737125245533627) := by
  have bits : nearestBits 1 (10 ^ 10) = 988 * 2 ^ 52 + 7737125245533627 := by decide +kernel
  have nearest := roundsTo_nearestBits 1 (Nat.pow_pos (n := 10) (a := 10) (by decide))
  rw [bits] at nearest
  exact_mod_cast nearest

/-- No number lies between the power of ten and the limit that is rounded from it. -/
theorem lt_exact_tiny_iff (k : ℕ) : floatGrid k < exact 1e-10 ↔ floatGrid k < 1 / 10 ^ 10 := by
  refine ⟨fun lt => ?_, fun lt => lt.trans_le le_exact_tiny⟩
  rw [← floatGrid_tiny, strictMono_floatGrid.lt_iff_lt] at lt
  calc floatGrid k ≤ floatGrid (988 * 2 ^ 52 + 7737125245533626) :=
        strictMono_floatGrid.monotone (Nat.le_of_lt_succ lt)
    _ = 7737125245533626 * 2 ^ (-86 : ℤ) := by
      rw [floatGrid_eq (by norm_num) (.inr (by norm_num))]
      norm_num
    _ < 1 / 10 ^ 10 := by norm_num

section Limits

variable {k : ℕ} (h : RoundsDigits (lastUnit q) m q t) (rounds : RoundsTo floatGrid t k)

include h rounds

/-- What is read back does not change sides at a limit, but it may reach it. -/
theorem floatGrid_le_tiny (small : q < 1 / 10 ^ 10) : floatGrid k ≤ exact 1e-10 := by
  rw [← ten_zpow_neg_ten] at small
  have shown := h.le_zpow (lastUnit_lt q) small
  rw [ten_zpow_neg_ten] at shown
  rw [← floatGrid_tiny]
  exact strictMono_floatGrid.monotone (rounds.mono strictMono_floatGrid roundsTo_tiny shown)

theorem tiny_le_floatGrid (ge : 1 / 10 ^ 10 ≤ q) : exact 1e-10 ≤ floatGrid k := by
  rw [← ten_zpow_neg_ten] at ge
  have shown := h.zpow_le (lastUnit_lt q) ge
  rw [ten_zpow_neg_ten] at shown
  rw [← floatGrid_tiny]
  exact strictMono_floatGrid.monotone (roundsTo_tiny.mono strictMono_floatGrid rounds shown)

theorem floatGrid_le_large (less : q < 10 ^ 15) : floatGrid k ≤ 10 ^ 15 := by
  obtain ⟨j, large⟩ := exists_floatGrid_eq_large
  rw [← zpow_ofNat] at less
  have shown := h.le_zpow (lastUnit_lt q) less
  rw [zpow_ofNat, ← large] at shown
  rw [← large]
  exact strictMono_floatGrid.monotone (rounds.le_of_le strictMono_floatGrid shown)

theorem large_le_floatGrid (ge : 10 ^ 15 ≤ q) : 10 ^ 15 ≤ floatGrid k := by
  obtain ⟨j, large⟩ := exists_floatGrid_eq_large
  rw [← zpow_ofNat] at ge
  have shown := h.zpow_le (lastUnit_lt q) ge
  rw [zpow_ofNat, ← large] at shown
  rw [← large]
  exact strictMono_floatGrid.monotone (rounds.le_of_ge strictMono_floatGrid shown)

end Limits

/-- The form of the text stays unless a limit is crossed. -/
theorem isOuter_iff_isOuter_iff {i k : ℕ} (size : |exact x| = floatGrid i)
    (size' : |exact w| = floatGrid k) (h : RoundsDigits (lastUnit |exact x|) m |exact x| t)
    (rounds : RoundsTo floatGrid t k) :
    (IsOuter |exact w| ↔ IsOuter |exact x|) ↔ ¬Crosses x w := by
  have tiny := lt_exact_tiny_iff k
  have tiny' := lt_exact_tiny_iff i
  rw [← size'] at tiny
  rw [← size] at tiny'
  have below : exact 1e-10 < 10 ^ 15 := exact_tiny_lt.trans (by norm_num)
  rw [Crosses, CrossesAt, CrossesAt, exact_large]
  rcases lt_or_ge |exact x| (1 / 10 ^ 10) with small | notSmall
  · have back := floatGrid_le_tiny h rounds small
    rw [← size'] at back
    have notLarge : |exact w| < 10 ^ 15 := back.trans_lt below
    have outer : IsOuter |exact x| := .inl small
    rw [iff_true_right outer, IsOuter, or_iff_left (not_le.2 notLarge), ← tiny,
      or_iff_right fun both => notLarge.ne both.2, and_iff_right (tiny'.2 small),
      lt_iff_le_and_ne, and_iff_right back]
  have notBelow : ¬|exact x| < exact 1e-10 := mt tiny'.1 (not_lt.2 notSmall)
  rw [or_iff_left fun both => notBelow both.1]
  rcases lt_or_ge |exact x| (10 ^ 15) with less | ge
  · have back := floatGrid_le_large h rounds less
    have back' := tiny_le_floatGrid h rounds notSmall
    rw [← size'] at back back'
    have inner : ¬IsOuter |exact x| := not_or.2 ⟨not_lt.2 notSmall, not_le.2 less⟩
    rw [iff_false_right inner, and_iff_right less, IsOuter, ← tiny, or_iff_right (not_lt.2 back'),
      back.ge_iff_eq]
  · have back := large_le_floatGrid h rounds ge
    rw [← size'] at back
    exact iff_of_true (iff_of_true (.inr back) (.inr ge)) fun both => not_lt.2 ge both.1

theorem mem_withSign_iff {negative : Bool} {cs : List Char} {c : Char} (h : c ≠ '-') :
    c ∈ withSign negative cs ↔ c ∈ cs := by
  cases negative <;> simp [withSign, h]

/-- Only the numbers outside the limits are shown with an exponent. -/
theorem mem_text_iff (lib : Elementary) (finite : x.isFinite) (ne : exact x ≠ 0) :
    'e' ∈ text lib x ↔ IsOuter |exact x| := by
  by_cases outer : IsOuter |exact x|
  · rw [text_of_exact_ne_zero lib finite ne, if_pos (isOuter_iff.2 outer),
      mem_withSign_iff (by decide)]
    exact iff_of_true (List.mem_append_right _ (List.mem_cons_self ..)) outer
  · obtain ⟨s, whole, fraction, -, canonical, text⟩ := exists_isCanonical lib finite outer
    rw [text, mem_withSign_iff (by decide)]
    refine iff_of_false (fun mem => ?_) outer
    rcases canonical.isDigit_or_point mem with digit | point
    · cases digit
    · exact absurd point (by decide)

end Display

/-- The logarithm to base ten has an error that is small enough for the exponents of first digits.
-/
def Elementary.LogsAccurate (lib : Elementary) : Prop :=
  ∀ x : Float, x.isFinite → ¬Display.IsOuter |exact x| →
    Display.IsMagnitude (Display.magnitude lib x) |exact x|

namespace Display

variable {lib : Elementary} {x w : Float} {m n : ℤ} {q t : ℚ}

theorem Shows.eq_zero (h : Shows lib x t) (zero : exact x = 0) : t = 0 := by
  cases h with
  | zero => rfl
  | outer ne => exact absurd zero ne
  | inner inner => exact absurd zero (ne_zero_of_inner inner)

/-- What is read back has the size of the rounded number and the sign of the number shown. -/
theorem abs_exact_restored (x : Float) {k : ℕ} (lt : k < finiteCount) :
    |exact (restored x k)| = floatGrid k := by
  rw [exact_restored x lt, abs_mul, abs_of_nonneg (floatGrid_nonneg k)]
  split <;> simp

theorem exact_restored_neg_iff (x : Float) {k : ℕ} (lt : k < finiteCount) (pos : 0 < floatGrid k) :
    exact (restored x k) < 0 ↔ exact x < 0 := by
  rw [exact_restored x lt]
  split
  · exact iff_of_true (by linarith) ‹_›
  · exact iff_of_false (by linarith) ‹_›

/-- A text is read back and shown as the same text unless a limit is crossed. -/
theorem text_restored_iff (accurate : lib.LogsAccurate) (finite : x.isFinite) {k : ℕ}
    (shows : Shows lib x t) (rounds : RoundsTo floatGrid t k) :
    text lib (restored x k) = text lib x ↔ ¬Crosses x (restored x k) := by
  have lt := rounds.lt_finiteCount (shows.le_greatest finite)
  have finite' := isFinite_restored x lt
  have size' := abs_exact_restored x lt
  by_cases zero : exact x = 0
  · have none : k = 0 := by
      rw [shows.eq_zero zero, ← floatGrid_zero] at rounds
      exact rounds.unique strictMono_floatGrid (.self strictMono_floatGrid 0)
    have zero' : exact (restored x k) = 0 := by
      rw [← abs_eq_zero, size', none, floatGrid_zero]
    rw [text_of_exact_eq_zero lib finite zero, text_of_exact_eq_zero lib finite' zero']
    exact iff_of_true rfl fun crosses => crosses.pos.ne' (abs_eq_zero.2 zero')
  obtain ⟨i, -, -, size⟩ := exists_abs finite
  obtain ⟨m, digits⟩ := shows.exists_roundsDigits zero (accurate x finite)
  obtain ⟨n, digits'⟩ : ∃ n, RoundsDigits (lastUnit |exact x|) n (floatGrid k) t := by
    rw [size] at digits ⊢
    exact exists_roundsDigits_floatGrid digits rounds
  have pos := digits'.exponent.pos
  have ne : exact (restored x k) ≠ 0 := by
    rw [← abs_pos, size']
    exact pos
  rw [← isOuter_iff_isOuter_iff size size' digits rounds]
  constructor
  · intro same
    rw [← mem_text_iff lib finite zero, ← mem_text_iff lib finite' ne, same]
  · intro form
    rw [← size'] at digits'
    exact text_congr lib finite finite' (accurate x finite) (accurate _ finite')
      (exact_restored_neg_iff x lt pos) form digits digits'

/-- A limit that was reached is not crossed again. -/
theorem not_crosses_of_crosses {v : Float} (crosses : Crosses x w) (restores : Restores w v) :
    ¬Crosses w v := by
  have below := exact_tiny_lt
  rintro (⟨less, reached⟩ | ⟨less, -⟩)
  · rcases crosses with ⟨-, large⟩ | ⟨-, tiny⟩
    · exact less.ne large
    · -- The smaller limit is far from the greater one.
      have inner : ¬IsOuter |exact w| := by
        rw [tiny, IsOuter, not_or, not_lt, not_le]
        exact ⟨le_exact_tiny, below.trans (by norm_num)⟩
      have near := (abs_sub_abs_le_abs_sub (exact v) (exact w)).trans (restores.inner inner)
      rw [reached, tiny, exact_large] at near
      linarith
  · rcases crosses with ⟨-, large⟩ | ⟨-, tiny⟩
    · rw [large, exact_large] at less
      linarith
    · exact less.ne tiny

end Display

end Calculator
