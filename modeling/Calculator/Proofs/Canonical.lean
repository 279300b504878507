import Calculator.Proofs.Restoring
import Calculator.Proofs.Significant

/-! Canonical numerals. A number that is shown without exponent is shown as the canonical numeral
of its value, rounded to twelve significant digits. The decimals follow from a logarithm that may be
one off beside a power of ten; there both numbers of decimals give the power itself. -/
namespace Calculator.Number

/-- The numeral of `q` that has no exponent, no leading zero but a single one in front of the point,
and no zero at the end of its decimals. -/
structure IsCanonical (q : ℚ) (whole fraction : List Char) : Prop where
  whole_ne_nil : whole ≠ []
  whole_digits : ∀ c ∈ whole, c.isDigit
  leading : whole.head? = some '0' → whole = ['0']
  fraction_digits : ∀ c ∈ fraction, c.isDigit
  final : fraction.getLast? ≠ some '0'
  value : Nat.ofDigitChars 10 whole 0 + Nat.ofDigitChars 10 fraction 0 / 10 ^ fraction.length = q

section Digits

variable {c : Char} {cs : List Char} {n : ℕ}

theorem digitChar_of_isDigit (h : c.isDigit) :
    c.toNat - '0'.toNat < 10 ∧ Nat.digitChar (c.toNat - '0'.toNat) = c := by
  have bounds : 48 ≤ c.toNat ∧ c.toNat ≤ 57 := Char.isDigit_iff_toNat.1 h
  have lt : c.toNat - '0'.toNat < 10 := by
    change c.toNat - 48 < 10
    omega
  refine ⟨lt, Char.toNat_inj.1 ?_⟩
  rw [Nat.toNat_digitChar_of_lt_ten lt]
  change 48 + (c.toNat - 48) = c.toNat
  omega

/-- Digits after those of a positive number go on with them. -/
theorem toDigits_append (pos : 0 < n) (digits : ∀ c ∈ cs, c.isDigit) :
    Nat.toDigits 10 n ++ cs = Nat.toDigits 10 (Nat.ofDigitChars 10 cs n) := by
  induction cs generalizing n with
  | nil => rw [List.append_nil, Nat.ofDigitChars_nil]
  | cons c cs ih =>
    obtain ⟨lt, char⟩ := digitChar_of_isDigit (digits c (List.mem_cons_self ..))
    have more := Nat.toDigits_append_toDigits (by decide) pos lt
    rw [Nat.toDigits_of_lt_base lt, char] at more
    rw [Nat.ofDigitChars_cons, ← ih (by omega) fun d mem => digits d (.tail _ mem), ← more,
      List.append_assoc, List.singleton_append]

/-- Digits without a leading zero are those of their value. -/
theorem toDigits_ofDigitChars (nonempty : cs ≠ []) (digits : ∀ c ∈ cs, c.isDigit)
    (leading : cs.head? = some '0' → cs = ['0']) :
    Nat.toDigits 10 (Nat.ofDigitChars 10 cs 0) = cs := by
  cases cs with
  | nil => exact absurd rfl nonempty
  | cons c cs =>
    by_cases zero : c = '0'
    · rw [leading (congrArg some zero)]
      rfl
    obtain ⟨lt, char⟩ := digitChar_of_isDigit (digits c (List.mem_cons_self ..))
    have pos : 0 < c.toNat - '0'.toNat := by
      by_contra none
      rw [Nat.eq_zero_of_not_pos none] at char
      exact zero char.symm
    rw [Nat.ofDigitChars_cons, mul_zero, zero_add,
      ← toDigits_append pos fun d mem => digits d (.tail _ mem), Nat.toDigits_of_lt_base lt, char,
      List.singleton_append]

theorem head?_toDigits (h : (Nat.toDigits 10 n).head? = some '0') :
    Nat.toDigits 10 n = ['0'] := by
  induction n using Nat.strongRecOn with
  | _ n ih =>
    rcases Nat.lt_or_ge n 10 with lt | ge
    · rw [Nat.toDigits_of_lt_base lt] at h ⊢
      rw [Option.some.inj h]
    · -- The first digit is that of a tenth of the number, which is not zero.
      rw [Nat.toDigits_of_base_le (by decide) ge,
        List.head?_append_of_ne_nil _ Nat.toDigits_ne_nil] at h
      have zero := congrArg (Nat.ofDigitChars 10 · 0) (ih (n / 10) (by omega) h)
      simp only [Nat.ofDigitChars_ten_toDigits] at zero
      change n / 10 = 0 at zero
      omega

theorem lowDigits_ofDigitChars (digits : ∀ c ∈ cs, c.isDigit) :
    lowDigits cs.length (Nat.ofDigitChars 10 cs 0) = cs := by
  induction cs using List.reverseRecOn with
  | nil => rfl
  | append_singleton cs c ih =>
    obtain ⟨lt, char⟩ := digitChar_of_isDigit (digits c (by simp))
    rw [List.length_append, List.length_singleton, lowDigits, Nat.ofDigitChars_append,
      Nat.ofDigitChars_cons, Nat.ofDigitChars_nil, Nat.mul_add_mod, Nat.mod_eq_of_lt lt, char,
      Nat.mul_add_div (by decide), Nat.div_eq_of_lt lt, Nat.add_zero,
      ih fun d mem => digits d (List.mem_append_left _ mem)]

theorem ofDigitChars_lt (digits : ∀ c ∈ cs, c.isDigit) :
    Nat.ofDigitChars 10 cs 0 < 10 ^ cs.length := by
  rw [← lowDigits_ofDigitChars digits, ofDigitChars_lowDigits, length_lowDigits, mul_zero, zero_add]
  exact Nat.mod_lt _ (Nat.pow_pos (by decide))

theorem lowDigits_mul (width n j : ℕ) :
    lowDigits (width + j) (n * 10 ^ j) = lowDigits width n ++ List.replicate j '0' := by
  induction j with
  | zero => simp
  | succ j ih =>
    rw [← Nat.add_assoc, lowDigits, pow_succ, ← mul_assoc, Nat.mul_div_cancel _ (by decide), ih,
      Nat.mul_mod_left, List.append_assoc, List.replicate_succ']
    rfl

theorem getLast?_dropZeros (digits : List Char) : (dropZeros digits).getLast? ≠ some '0' := by
  rw [dropZeros, List.getLast?_reverse]
  intro zero
  have := List.head?_dropWhile_not (· == '0') digits.reverse
  rw [zero] at this
  cases this

end Digits

namespace IsCanonical

variable {q : ℚ} {whole fraction whole' fraction' : List Char}

theorem whole_eq (h : IsCanonical q whole fraction) : whole = Nat.toDigits 10 ⌊q⌋₊ := by
  have lt : (Nat.ofDigitChars 10 fraction 0 : ℚ) < 10 ^ fraction.length := by
    exact_mod_cast ofDigitChars_lt h.fraction_digits
  have floor : ⌊q⌋₊ = Nat.ofDigitChars 10 whole 0 := by
    rw [← h.value, Nat.floor_eq_iff (by positivity)]
    constructor
    · exact le_add_of_nonneg_right (by positivity)
    · rw [add_lt_add_iff_left, div_lt_one (by positivity)]
      exact lt
  rw [floor, toDigits_ofDigitChars h.whole_ne_nil h.whole_digits h.leading]

/-- The fewer decimals of two numerals of a number are followed by zeros in the other one. -/
theorem fraction_eq_append (h : IsCanonical q whole fraction)
    (h' : IsCanonical q whole fraction') {j : ℕ}
    (longer : fraction'.length = fraction.length + j) :
    fraction' = fraction ++ List.replicate j '0' := by
  have same := h.value.trans h'.value.symm
  rw [add_right_inj, div_eq_div_iff (by positivity) (by positivity), longer, pow_add,
    mul_comm _ (_ * _), mul_comm _ (10 ^ fraction.length), mul_assoc,
    mul_right_inj' (by positivity), mul_comm] at same
  have digits : Nat.ofDigitChars 10 fraction' 0 = Nat.ofDigitChars 10 fraction 0 * 10 ^ j := by
    exact_mod_cast same.symm
  rw [← lowDigits_ofDigitChars h'.fraction_digits, digits, longer, lowDigits_mul,
    lowDigits_ofDigitChars h.fraction_digits]

theorem fraction_eq_of_le (h : IsCanonical q whole fraction) (h' : IsCanonical q whole fraction')
    (le : fraction.length ≤ fraction'.length) : fraction = fraction' := by
  obtain ⟨j, longer⟩ := Nat.exists_eq_add_of_le le
  have zeros := h.fraction_eq_append h' longer
  cases j with
  | zero => rw [zeros, List.replicate_zero, List.append_nil]
  | succ j =>
    refine absurd ?_ h'.final
    rw [zeros, List.replicate_succ', ← List.append_assoc, List.getLast?_concat]

theorem unique (h : IsCanonical q whole fraction) (h' : IsCanonical q whole' fraction') :
    whole = whole' ∧ fraction = fraction' := by
  obtain rfl : whole = whole' := h.whole_eq.trans h'.whole_eq.symm
  refine ⟨rfl, ?_⟩
  rcases Nat.le_total fraction.length fraction'.length with le | le
  · exact h.fraction_eq_of_le h' le
  · exact (h'.fraction_eq_of_le h le).symm

theorem isDigit_or_point (h : IsCanonical q whole fraction) {c : Char}
    (mem : c ∈ whole ++ withPoint fraction) : c.isDigit ∨ c = '.' := by
  rcases List.mem_append.1 mem with mem | mem
  · exact .inl (h.whole_digits c mem)
  · cases fraction with
    | nil => cases mem
    | cons d ds =>
      rcases List.mem_cons.1 mem with rfl | mem
      · exact .inr rfl
      · exact .inl (h.fraction_digits c mem)

end IsCanonical

/-- A decimal fraction is written canonically when final zeros are left out. -/
theorem Decimal.isCanonical (d : Decimal) :
    IsCanonical d.rational d.whole (dropZeros d.fraction) := by
  obtain ⟨zeros, written⟩ := exists_dropZeros d.fraction
  refine ⟨d.whole_ne_nil, fun c mem => isDigit_of_mem_toDigits mem, head?_toDigits,
    fun c mem => ?_, getLast?_dropZeros _, ?_⟩
  · have : c ∈ d.fraction := by
      rw [written]
      exact List.mem_append_left _ mem
    exact isDigit_of_mem_lowDigits this
  · have places : d.places = (dropZeros d.fraction).length + zeros := by
      have := congrArg List.length written
      rwa [Display.length_fraction, List.length_append, List.length_replicate] at this
    have units := d.ofDigitChars_digits
    rw [written, ← List.append_assoc, Nat.ofDigitChars_append, Nat.ofDigitChars_replicate_zero,
      Nat.ofDigitChars_append, Nat.ofDigitChars_eq_ofDigitChars_zero] at units
    rw [rational, ← units, places, pow_add]
    push_cast
    field_simp

end Calculator.Number

namespace Calculator.Display

open Number

variable {lib : Elementary} {x : Float} {m n : ℤ} {q t : ℚ}

/-- The exponent of the last digit that is shown of a number without exponent, by that of its first
digit: the twelfth digit, or the ones. -/
def innerUnit (m : ℤ) : ℤ := min (m - 11) 0

theorem innerUnit_lt (m : ℤ) : innerUnit m < m := by
  rw [innerUnit]
  omega

theorem monotone_innerUnit : Monotone innerUnit := by
  intro m n le
  rw [innerUnit, innerUnit]
  omega

theorem ten_zpow_innerUnit (m : ℤ) : (10 : ℚ) ^ innerUnit m = (10 ^ (11 - m).toNat)⁻¹ := by
  rw [← zpow_natCast, ← zpow_neg, innerUnit]
  congr 1
  omega

/-- A logarithm with a small error is one off at most, and only beside a power of ten. -/
theorem IsMagnitude.near (log : IsMagnitude n q) (h : HasExponent q m) :
    n = m ∨ ∃ b, (n = b ∧ m = b - 1 ∨ n = b - 1 ∧ m = b) ∧
      |q - 10 ^ b| ≤ 10 ^ b * (2 / 10 ^ 13) := by
  have next : ∀ i : ℤ, (10 : ℚ) ^ (i + 1) = 10 ^ i * 10 := zpow_add_one₀ (by norm_num)
  have above : n ≤ m + 1 := by
    refine Int.lt_add_one_iff.1 ((zpow_lt_zpow_iff_right₀ (by norm_num : (1 : ℚ) < 10)).1 ?_)
    have pos : (0 : ℚ) < 10 ^ n := by positivity
    have := log.1.trans_lt h.lt
    rw [next (m + 1)]
    linarith
  have below : m ≤ n + 1 := by
    refine Int.lt_add_one_iff.1 ((zpow_lt_zpow_iff_right₀ (by norm_num : (1 : ℚ) < 10)).1 ?_)
    have pos : (0 : ℚ) < 10 ^ (n + 1) := by positivity
    have := h.le.trans_lt log.2
    rw [next (n + 1)]
    linarith
  rcases lt_trichotomy n m with less | same | more
  · obtain rfl : n = m - 1 := by omega
    have le := h.le
    have lt := log.2
    rw [sub_add_cancel] at lt
    refine .inr ⟨m, .inr ⟨rfl, rfl⟩, ?_⟩
    rw [abs_of_nonneg (by linarith)]
    linarith
  · exact .inl same
  · obtain rfl : n = m + 1 := by omega
    have le := log.1
    have lt := h.lt
    refine .inr ⟨m + 1, .inl ⟨rfl, by omega⟩, ?_⟩
    rw [abs_sub_comm, abs_of_nonneg (by linarith)]
    linarith

/-- The twelfth digit is too coarse to tell such a number from the power of ten. -/
theorem lt_half_unit {a b : ℤ} (le : b - 12 ≤ a) : (10 ^ b * (2 / 10 ^ 13) : ℚ) < 10 ^ a / 2 := by
  have unit : (10 : ℚ) ^ (b - 12) ≤ 10 ^ a := zpow_le_zpow_right₀ (by norm_num) le
  have pos : (0 : ℚ) < 10 ^ (b - 12) := by positivity
  have shift : (10 : ℚ) ^ b = 10 ^ (b - 12) * 10 ^ 12 := ten_zpow_eq_sub_mul b 12
  rw [shift]
  linarith

theorem mul_ten_zpow_eq_of_near {a b : ℤ} {k : ℕ} (le : a ≤ b) (near : |q - 10 ^ b| < 10 ^ a / 2)
    (rounds : RoundsTo (fun n => (n : ℚ)) (q / 10 ^ a) k) : (k * 10 ^ a : ℚ) = 10 ^ b := by
  have pos : (0 : ℚ) < 10 ^ a := by positivity
  obtain ⟨j, -, power⟩ := exists_ten_zpow_eq le
  have power_rounds : RoundsTo (fun n => (n : ℚ)) (q / 10 ^ a) (10 ^ j) := by
    refine roundsTo_of_abs_sub_lt ?_
    rw [abs_div_sub pos, ← power, div_lt_iff₀ pos]
    linarith
  rw [power, rounds.unique strictMono_natCast power_rounds]

theorem roundsDigits_of_integral {i : ℕ} (exponent : HasExponent (i : ℚ) m) :
    RoundsDigits innerUnit m i i := by
  have pos : (0 : ℚ) < 10 ^ innerUnit m := by positivity
  obtain ⟨j, -, power⟩ := exists_ten_zpow_eq (min_le_right (m - 11) 0)
  rw [zpow_zero, ← innerUnit] at power
  have multiple : (i : ℚ) = (i * 10 ^ j : ℕ) * 10 ^ innerUnit m := by
    rw [Nat.cast_mul, mul_assoc, ← power, mul_one]
  refine ⟨exponent, i * 10 ^ j, ?_, multiple⟩
  rw [(div_eq_iff pos.ne').2 multiple]
  exact .self strictMono_natCast _

/-- What is shown without exponent is rounded to twelve digits, though not to less than an integer.
-/
theorem Shows.roundsDigits_inner (h : Shows lib x t) (inner : ¬IsOuter |exact x|)
    (log : IsMagnitude (magnitude lib x) |exact x|) (exponent : HasExponent |exact x| m) :
    RoundsDigits innerUnit m |exact x| t := by
  by_cases integral : (Binary.ofFloat x).isInteger
  · obtain ⟨i, integral⟩ := (Binary.isInteger_iff _).1 integral
    rw [h.eq_of_integral inner integral]
    rw [← exact] at integral
    rw [integral] at exponent ⊢
    exact roundsDigits_of_integral exponent
  cases h with
  | zero zero =>
    have := exponent.pos
    rw [zero, abs_zero] at this
    exact absurd this (lt_irrefl 0)
  | outer ne outer => exact absurd outer inner
  | @inner k _ rounds =>
    have unit : ((10 : ℚ) ^ decimals lib x)⁻¹ = 10 ^ innerUnit (magnitude lib x) := by
      rw [ten_zpow_innerUnit, decimals, if_neg integral, places]
    rw [← div_inv_eq_mul, unit] at rounds
    rw [div_eq_mul_inv, unit]
    by_cases same : innerUnit (magnitude lib x) = innerUnit m
    · rw [same] at rounds ⊢
      exact ⟨exponent, k, rounds, rfl⟩
    · -- Both numbers of decimals give the power of ten.
      obtain eq | ⟨b, off, near⟩ := log.near exponent
      · rw [eq] at same
        exact absurd rfl same
      have units : (b - 12 ≤ innerUnit (magnitude lib x) ∧ innerUnit (magnitude lib x) ≤ b) ∧
          b - 12 ≤ innerUnit m ∧ innerUnit m < b := by
        simp only [innerUnit] at *
        omega
      rw [mul_ten_zpow_eq_of_near units.1.2 (near.trans_lt (lt_half_unit units.1.1)) rounds]
      exact .of_power exponent units.2.2 (near.trans (lt_half_unit units.2.1).le)

theorem ne_zero_of_inner (inner : ¬IsOuter |exact x|) : exact x ≠ 0 := by
  intro zero
  rw [zero, abs_zero] at inner
  exact inner (.inl (by norm_num))

/-- A number without exponent is shown as the canonical numeral of what is shown of it. -/
theorem exists_isCanonical (lib : Elementary) (finite : x.isFinite) (inner : ¬IsOuter |exact x|) :
    ∃ t whole fraction, Shows lib x t ∧ IsCanonical t whole fraction ∧
      text lib x = withSign (decide (exact x < 0)) (whole ++ withPoint fraction) := by
  have ne := ne_zero_of_inner inner
  have rounds := (size x).roundsTo_roundTo (decimals lib x)
  rw [rational_size] at rounds
  refine ⟨_, _, _, .inner inner rounds, ((size x).roundTo (decimals lib x)).isCanonical, ?_⟩
  rw [text_of_exact_ne_zero lib finite ne, if_neg (mt isOuter_iff.1 inner)]
  rfl

/-- A finite number between the thresholds is shown as the canonical numeral of its exact value,
rounded to as many decimals as follow from the exponent of its first digit. Integers are not
rounded. The logarithm that the decimals are computed from may have a small error. -/
theorem text_of_inner (lib : Elementary) (finite : x.isFinite) (inner : ¬IsOuter |exact x|)
    (log : IsMagnitude (magnitude lib x) |exact x|) (exponent : HasExponent |exact x| m) :
    ∃ n whole fraction,
      RoundsTo (fun n => (n : ℚ)) (|exact x| * 10 ^ (11 - m).toNat) n ∧
        IsCanonical (n / 10 ^ (11 - m).toNat) whole fraction ∧
        text lib x = withSign (decide (exact x < 0)) (whole ++ withPoint fraction) ∧
        ∀ i : ℕ, |exact x| = i → whole = Nat.toDigits 10 i ∧ fraction = [] := by
  obtain ⟨t, whole, fraction, shows, canonical, text⟩ := exists_isCanonical lib finite inner
  obtain ⟨n, rounds, value⟩ := (shows.roundsDigits_inner inner log exponent).exists_rounds
  rw [ten_zpow_innerUnit, div_inv_eq_mul] at rounds
  rw [ten_zpow_innerUnit, ← div_eq_mul_inv] at value
  refine ⟨n, whole, fraction, rounds, value ▸ canonical, text, fun i integral => ?_⟩
  rw [shows.eq_of_integral inner integral, integral] at canonical
  have digits : IsCanonical (i : ℚ) (Nat.toDigits 10 i) [] := by
    have := (⟨i, 0⟩ : Decimal).isCanonical
    rwa [Decimal.rational, pow_zero, div_one, Decimal.whole, Nat.pow_eq, pow_zero,
      Nat.div_one] at this
  exact canonical.unique digits

/-- Just below a tenth the logarithm is rounded to that of a tenth. -/
theorem text_of_inner_below_tenth :
    let lib : Elementary := { Elementary.native with log10 := fun _ => -1.0 }
    let x : Float := -0.09999999999999999
    ∃ n whole fraction,
      RoundsTo (fun n => (n : ℚ)) (|exact x| * 10 ^ (11 - (-2 : ℤ)).toNat) n ∧
        IsCanonical (n / 10 ^ (11 - (-2 : ℤ)).toNat) whole fraction ∧
        text lib x = withSign (decide (exact x < 0)) (whole ++ withPoint fraction) ∧
        ∀ i : ℕ, |exact x| = i → whole = Nat.toDigits 10 i ∧ fraction = [] := by
  intro lib x
  have first : magnitude lib x = -1 := by decide +kernel
  have parts : Binary.ofFloat x = ⟨true, 7205759403792793, -56⟩ := by decide +kernel
  have value : |exact x| = 7205759403792793 / 2 ^ 56 := by
    rw [exact, parts, Binary.value]
    norm_num
  refine text_of_inner lib (by decide +kernel) ?_ ?_ ?_
  · rw [value, IsOuter]
    norm_num
  · rw [value, first, IsMagnitude]
    norm_num
  · rw [value]
    constructor <;> norm_num

end Calculator.Display
