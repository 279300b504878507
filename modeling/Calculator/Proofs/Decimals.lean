import Calculator.Proofs.Floats
import Calculator.Proofs.Lexemes

/-! The exact values of written numbers. A numeral stands for the floating-point number that its
exact value is rounded to (`Numeral.exists_value`). The grammar says which value a text denotes, and
the text is read as a numeral of this value (`Numeral.exists_read?`). A decimal fraction is written
so that its numeral has its value, whether or not final zeros are left out. -/
namespace Calculator.Number

def Numeral.rational (n : Numeral) : ℚ := n.digits * 10 ^ n.exponent

theorem toDigits_bounds {n : ℕ} (pos : 0 < n) :
    10 ^ ((Nat.toDigits 10 n).length - 1) ≤ n ∧ n < 10 ^ (Nat.toDigits 10 n).length := by
  refine ⟨?_, (Nat.length_toDigits_le_iff (by decide) Nat.length_toDigits_pos).1 le_rfl⟩
  by_contra! lt
  rcases Nat.eq_zero_or_pos ((Nat.toDigits 10 n).length - 1) with zero | long
  · rw [zero, pow_zero] at lt
    omega
  · have := (Nat.length_toDigits_le_iff (by decide) long).2 lt
    omega

/-- The number of digits in front of the point places the value between powers of ten. -/
theorem ten_zpow_bounds {n : ℕ} (pos : 0 < n) (e : ℤ) :
    (10 : ℚ) ^ ((Nat.toDigits 10 n).length + e - 1) ≤ n * 10 ^ e ∧
      (n * 10 ^ e : ℚ) < 10 ^ ((Nat.toDigits 10 n).length + e) := by
  obtain ⟨low, high⟩ := toDigits_bounds pos
  have some : 0 < (Nat.toDigits 10 n).length := Nat.length_toDigits_pos
  generalize (Nat.toDigits 10 n).length = len at *
  have lowCast : (10 : ℚ) ^ ((len : ℤ) - 1) ≤ n := by
    rw [show (len : ℤ) - 1 = (len - 1 : ℕ) by omega, zpow_natCast]
    exact_mod_cast low
  have highCast : (n : ℚ) < 10 ^ (len : ℤ) := by
    rw [zpow_natCast]
    exact_mod_cast high
  constructor
  · rw [add_sub_right_comm, zpow_add₀ (by norm_num)]
    exact mul_le_mul_of_nonneg_right lowCast (by positivity)
  · rw [zpow_add₀ (by norm_num)]
    exact mul_lt_mul_of_pos_right highCast (by positivity)

theorem two_pow_le_ten_pow {i j : ℕ} (le : i ≤ 3 * j) : (2 : ℚ) ^ i ≤ 10 ^ j := by
  calc (2 : ℚ) ^ i ≤ 2 ^ (3 * j) := pow_le_pow_right₀ one_le_two le
    _ = 8 ^ j := by rw [pow_mul]; norm_num
    _ ≤ 10 ^ j := pow_le_pow_left₀ (by norm_num) (by norm_num) j

theorem floatGrid_finiteCount : floatGrid finiteCount = 2 ^ 1024 := by
  rw [show finiteCount = 2046 * 2 ^ 52 + 2 ^ 52 from rfl, floatGrid_eq (by norm_num) (.inr le_rfl),
    Nat.cast_pow, Nat.cast_ofNat, ← zpow_natCast, ← zpow_add₀ two_ne_zero, ← zpow_natCast]
  norm_num

theorem floatGrid_one : floatGrid 1 = (2 ^ 1074)⁻¹ := by
  have := floatGrid_eq (k := 0) (m := 1) (by norm_num) (.inl rfl)
  rw [zero_mul, zero_add] at this
  rw [this, Nat.cast_one, one_mul, Nat.cast_zero, zero_sub, zpow_neg]
  norm_cast

/-- What is less than half the smallest number is rounded to zero. -/
theorem roundsTo_zero {q : ℚ} (lt : q < floatGrid 1 / 2) : RoundsTo floatGrid q 0 := by
  constructor
  · rw [floatGrid_zero, zero_add]
    exact lt.le
  · exact fun _ => Even.zero
  · exact fun k eq => absurd eq (Nat.zero_ne_add_one k)
  · exact fun k eq => absurd eq (Nat.zero_ne_add_one k)

theorem Numeral.roundsTo_nearestBits (n : Numeral) : RoundsTo floatGrid n.rational
    (nearestBits (n.digits * Nat.pow 10 n.exponent.toNat) (Nat.pow 10 (-n.exponent).toNat)) := by
  have quotient : n.rational = (n.digits * Nat.pow 10 n.exponent.toNat : ℕ) /
      (Nat.pow 10 (-n.exponent).toNat : ℕ) := by
    rw [rational, zpow_eq_toNat (by norm_num)]
    simp only [Nat.pow_eq]
    push_cast
    rw [mul_div_assoc]
  rw [quotient]
  exact Number.roundsTo_nearestBits _ (Nat.pow_pos (by decide))

/-- Where a power of ten is not computed, the number is less than half the smallest one, -/
theorem Numeral.rational_lt {n : Numeral} (pos : 0 < n.digits)
    (tiny : (Nat.toDigits 10 n.digits).length + n.exponent < -400) :
    n.rational < floatGrid 1 / 2 := by
  calc n.rational < 10 ^ ((Nat.toDigits 10 n.digits).length + n.exponent) :=
        (ten_zpow_bounds pos n.exponent).2
    _ ≤ 10 ^ (-400 : ℤ) := zpow_le_zpow_right₀ (by norm_num) tiny.le
    _ = (10 ^ 400)⁻¹ := (zpow_neg 10 400).trans (congrArg _ (zpow_natCast 10 400))
    _ ≤ (2 ^ 1075)⁻¹ := inv_anti₀ (by positivity) (two_pow_le_ten_pow (by decide))
    _ = floatGrid 1 / 2 := by rw [floatGrid_one, pow_succ, mul_inv]; rfl

/-- or not less than the first that is too large. -/
theorem Numeral.le_rational {n : Numeral} (pos : 0 < n.digits)
    (huge : 400 < (Nat.toDigits 10 n.digits).length + n.exponent) :
    floatGrid finiteCount ≤ n.rational := by
  calc floatGrid finiteCount = 2 ^ 1024 := floatGrid_finiteCount
    _ ≤ 10 ^ 400 := two_pow_le_ten_pow (by decide)
    _ = 10 ^ (400 : ℤ) := (zpow_natCast 10 400).symm
    _ ≤ 10 ^ ((Nat.toDigits 10 n.digits).length + n.exponent - 1) :=
      zpow_le_zpow_right₀ (by norm_num) (by omega)
    _ ≤ n.rational := (ten_zpow_bounds pos n.exponent).1

/-- The value of a numeral is its exact value, rounded; numbers from `2 ^ 1024` on are infinite. -/
theorem Numeral.exists_value (n : Numeral) :
    ∃ m, RoundsTo floatGrid n.rational m ∧ n.value = nthFloat (min m finiteCount) := by
  have rounds := n.roundsTo_nearestBits
  unfold value
  dsimp only
  rcases Nat.eq_zero_or_pos n.digits with zero | pos
  · refine ⟨0, roundsTo_zero ?_, by simp only [zero, true_or, if_true]; rfl⟩
    rw [rational, zero, floatGrid_one]
    norm_num
  split
  · rename_i tiny
    exact ⟨0, roundsTo_zero (rational_lt pos (tiny.resolve_left pos.ne')), rfl⟩
  · split
    · rename_i huge
      refine ⟨_, rounds, ?_⟩
      rw [min_eq_right (rounds.le_of_ge strictMono_floatGrid (le_rational pos huge)), infinity_eq]
    · exact ⟨_, rounds, nearest_eq _ _⟩

theorem ofDigitChars_lowDigits (width n init : ℕ) :
    Nat.ofDigitChars 10 (lowDigits width n) init = 10 ^ width * init + n % 10 ^ width := by
  induction width generalizing n with
  | zero => simp [lowDigits, Nat.mod_one]
  | succ width ih =>
    rw [lowDigits, Nat.ofDigitChars_append, ih,
      Nat.ofDigitChars_cons_digitChar_of_lt_ten (Nat.mod_lt n (by decide)), Nat.ofDigitChars_nil,
      pow_succ', Nat.mod_mul]
    ring

/-- The digits of a fraction, read without their point, are its units. -/
theorem Decimal.ofDigitChars_digits (d : Decimal) :
    Nat.ofDigitChars 10 (d.whole ++ d.fraction) 0 = d.units := by
  rw [Nat.ofDigitChars_append, whole, Nat.ofDigitChars_ten_toDigits, fraction,
    ofDigitChars_lowDigits, Nat.pow_eq, Nat.div_add_mod]

theorem exists_dropZeros (digits : List Char) :
    ∃ zeros, digits = dropZeros digits ++ List.replicate zeros '0' := by
  have whole := List.takeWhile_append_dropWhile (p := (· == '0')) (l := digits.reverse)
  have zeros : digits.reverse.takeWhile (· == '0') =
      List.replicate (digits.reverse.takeWhile (· == '0')).length '0' :=
    List.eq_replicate_of_mem fun c mem => by simpa using List.mem_takeWhile_imp mem
  refine ⟨(digits.reverse.takeWhile (· == '0')).length, ?_⟩
  rw [dropZeros, ← List.reverse_inj, List.reverse_append, List.reverse_reverse,
    List.reverse_replicate, ← zeros, whole]

theorem natural?_eq_some {digits : List Char} (nonempty : digits ≠ [])
    (all : ∀ c ∈ digits, c.isDigit) : natural? digits = some (Nat.ofDigitChars 10 digits 0) := by
  simp [natural?, nonempty, List.all_eq_true.2 all]

namespace Numeral

variable {cs whole fraction exponent sign digits : List Char} {mark : Char} {q : ℚ}

/-- The exact value of digits with a point among them. -/
def mantissaValue (cs : List Char) : ℚ :=
  Nat.ofDigitChars 10 (cs.filter Char.isDigit) 0 / 10 ^ (cs.dropWhile Char.isDigit).tail.length

/-- The value of the digits of an exponent, with their sign. -/
def exponentValue (cs : List Char) : ℤ :=
  (if '-' ∈ cs then -1 else 1) * Nat.ofDigitChars 10 (cs.filter Char.isDigit) 0

/-- The text is a numeral by the grammar, and its exact value is `q`. -/
def Denotes (cs : List Char) (q : ℚ) : Prop :=
  ∃ mantissa exponent, IsMantissa mantissa ∧ IsExponent exponent ∧ cs = mantissa ++ exponent ∧
    q = mantissaValue mantissa * 10 ^ exponentValue exponent

@[simp] theorem exponentValue_nil : exponentValue [] = 0 := rfl

theorem mantissaValue_whole (all : ∀ c ∈ whole, c.isDigit) :
    mantissaValue whole = Nat.ofDigitChars 10 whole 0 := by
  rw [mantissaValue, List.filter_eq_self.2 all, List.dropWhile_eq_nil_iff.2 all, List.tail_nil,
    List.length_nil, pow_zero, div_one]

theorem mantissaValue_point (wholeDigits : ∀ c ∈ whole, c.isDigit)
    (fractionDigits : ∀ c ∈ fraction, c.isDigit) : mantissaValue (whole ++ '.' :: fraction) =
      Nat.ofDigitChars 10 (whole ++ fraction) 0 / 10 ^ fraction.length := by
  have point : Avoids Char.isDigit ('.' :: fraction) := Avoids.cons_iff.2 rfl
  rw [mantissaValue, List.filter_append, List.filter_cons_of_neg (by decide),
    List.filter_eq_self.2 wholeDigits, List.filter_eq_self.2 fractionDigits,
    point.dropWhile_run wholeDigits, List.tail_cons]

/-- A fraction without digits is written without its point. -/
theorem mantissaValue_withPoint (wholeDigits : ∀ c ∈ whole, c.isDigit)
    (fractionDigits : ∀ c ∈ fraction, c.isDigit) : mantissaValue (whole ++ withPoint fraction) =
      Nat.ofDigitChars 10 (whole ++ fraction) 0 / 10 ^ fraction.length := by
  cases fraction with
  | nil => simp [withPoint, mantissaValue_whole wholeDigits]
  | cons c cs => exact mantissaValue_point wholeDigits fractionDigits

theorem isMantissa_withPoint (nonempty : whole ≠ []) (wholeDigits : ∀ c ∈ whole, c.isDigit)
    (fractionDigits : ∀ c ∈ fraction, c.isDigit) : IsMantissa (whole ++ withPoint fraction) := by
  cases fraction with
  | nil =>
    rw [withPoint, List.append_nil]
    exact .whole nonempty wholeDigits
  | cons c cs => exact .point (by simp) wholeDigits fractionDigits

theorem splitExponent_of_isExponent (h : IsExponent exponent) :
    splitExponent exponent = (exponent, []) := by
  cases h with
  | absent => rfl
  | present isMark isSign nonempty all => exact splitExponent_signed isMark isSign nonempty all

theorem exponentValue_signed (isMark : isExponentMark mark)
    (isSign : sign = [] ∨ ∃ c, isSign c ∧ sign = [c]) (all : ∀ c ∈ digits, c.isDigit) :
    exponentValue (mark :: sign ++ digits) =
      (if '-' ∈ sign then -1 else 1) * Nat.ofDigitChars 10 digits 0 := by
  have noMark : '-' ≠ mark := by
    rintro rfl
    cases isMark
  have noDigit : '-' ∉ digits := fun mem => absurd (all _ mem) (by decide)
  have noSign : ∀ c ∈ sign, ¬ c.isDigit := by
    rcases isSign with rfl | ⟨c, isSign, rfl⟩
    · simp
    · intro d mem digit
      rw [← List.mem_singleton.1 mem, isSign_of_isDigit digit] at isSign
      cases isSign
  have value : (mark :: sign ++ digits).filter Char.isDigit = digits := by
    rw [List.filter_append, List.filter_cons_of_neg (by simp [isDigit_of_isExponentMark isMark]),
      List.filter_eq_nil_iff.2 noSign, List.filter_eq_self.2 all, List.nil_append]
  rw [exponentValue, value]
  simp [noMark, noDigit]

theorem signed?_of_digits (isSign : sign = [] ∨ ∃ c, isSign c ∧ sign = [c])
    (nonempty : digits ≠ []) (all : ∀ c ∈ digits, c.isDigit) : signed? (sign ++ digits) =
      some ((if '-' ∈ sign then -1 else 1) * Nat.ofDigitChars 10 digits 0 : ℤ) := by
  have number := natural?_eq_some nonempty all
  rcases isSign with rfl | ⟨c, isSign, rfl⟩
  · cases digits with
    | nil => exact absurd rfl nonempty
    | cons d ds =>
      have first := isSign_of_isDigit (all d (List.mem_cons_self ..))
      rw [List.nil_append, signed?_of_not_isSign first, number]
      simp
  · rcases isSign_iff.1 isSign with rfl | rfl <;> simp [signed?, number]

theorem exponent?_of_isExponent (h : IsExponent exponent) :
    exponent? exponent = some (exponentValue exponent) := by
  cases h with
  | absent => rfl
  | present isMark isSign nonempty all =>
    rw [exponentValue_signed isMark isSign all, ← signed?_of_digits isSign nonempty all,
      List.cons_append, exponent?, if_pos isMark]

/-- What denotes a value by the grammar is read as a numeral of this value. -/
theorem exists_read? (h : Denotes cs q) : ∃ n, read? cs = some n ∧ n.rational = q := by
  obtain ⟨mantissa, exponent, isMantissa, isExponent, rfl, rfl⟩ := h
  have complete := splitExponent_of_isExponent isExponent
  have noDigit := avoids_of_splitExponent complete fun _ => isDigit_of_isExponentMark
  have noPoint := avoids_of_splitExponent complete fun _ => ne_point_of_isExponentMark
  have exponentRead := exponent?_of_isExponent isExponent
  generalize exponentValue exponent = e at *
  cases isMantissa with
  | whole nonempty all =>
    refine ⟨⟨Nat.ofDigitChars 10 mantissa 0, e⟩, ?_, ?_⟩
    · rw [read?, noDigit.takeWhile_run all, noDigit.dropWhile_run all, splitFraction_avoids noPoint]
      simp [nonempty, exponentRead]
    · rw [rational, mantissaValue_whole all]
  | @point whole fraction nonempty wholeDigits fractionDigits =>
    have point : Avoids Char.isDigit ('.' :: (fraction ++ exponent)) := Avoids.cons_iff.2 rfl
    have after : splitFraction ('.' :: (fraction ++ exponent)) = (fraction, exponent) := by
      rw [splitFraction, noDigit.takeWhile_run fractionDigits, noDigit.dropWhile_run fractionDigits]
    refine ⟨⟨Nat.ofDigitChars 10 (whole ++ fraction) 0, e - fraction.length⟩, ?_, ?_⟩
    · rw [read?, List.append_assoc, List.cons_append, point.takeWhile_run wholeDigits,
        point.dropWhile_run wholeDigits, after]
      simp [nonempty, exponentRead]
    · rw [rational, mantissaValue_point wholeDigits fractionDigits, zpow_sub₀ (by norm_num),
        zpow_natCast, mul_div_assoc', div_mul_eq_mul_div]

end Numeral

def Decimal.rational (d : Decimal) : ℚ := d.units / 10 ^ d.places

namespace Decimal

theorem whole_ne_nil (d : Decimal) : d.whole ≠ [] := Nat.toDigits_ne_nil

/-- A fraction is read back, with or without zeros at its end, and an exponent after it counts. -/
theorem exists_read? (d : Decimal) {fraction exponent : List Char} {zeros : ℕ}
    (written : d.fraction = fraction ++ List.replicate zeros '0')
    (isExponent : Numeral.IsExponent exponent) :
    ∃ n, Numeral.read? (d.whole ++ withPoint fraction ++ exponent) = some n ∧
      n.rational = d.rational * 10 ^ Numeral.exponentValue exponent := by
  have wholeDigits : ∀ c ∈ d.whole, c.isDigit := fun c mem => isDigit_of_mem_toDigits mem
  have digits : ∀ c ∈ fraction, c.isDigit := fun c mem =>
    isDigit_of_mem_lowDigits (written ▸ List.mem_append_left _ mem : c ∈ d.fraction)
  have units := d.ofDigitChars_digits
  rw [written, ← List.append_assoc, Nat.ofDigitChars_append, Nat.ofDigitChars_replicate_zero]
    at units
  have places : fraction.length + zeros = d.places := by
    have := congrArg List.length written
    simpa [Decimal.fraction] using this.symm
  have mantissa : Numeral.mantissaValue (d.whole ++ withPoint fraction) = d.rational := by
    rw [Numeral.mantissaValue_withPoint wholeDigits digits, rational, ← units, ← places, pow_add]
    push_cast
    field_simp
  have isMantissa := Numeral.isMantissa_withPoint d.whole_ne_nil wholeDigits digits
  exact Numeral.exists_read? ⟨_, _, isMantissa, isExponent, rfl, by rw [mantissa]⟩

theorem exists_read?_withPoint (d : Decimal) {fraction : List Char} {zeros : ℕ}
    (written : d.fraction = fraction ++ List.replicate zeros '0') :
    ∃ n, Numeral.read? (d.whole ++ withPoint fraction) = some n ∧ n.rational = d.rational := by
  have read := d.exists_read? written .absent
  rwa [List.append_nil, Numeral.exponentValue_nil, zpow_zero, mul_one] at read

theorem exists_read?_shortText (d : Decimal) :
    ∃ n, Numeral.read? d.shortText = some n ∧ n.rational = d.rational := by
  obtain ⟨zeros, written⟩ := exists_dropZeros d.fraction
  exact d.exists_read?_withPoint written

end Decimal

theorem isExponent_integerText (n : ℤ) : Numeral.IsExponent ('e' :: integerText n) := by
  have digits : ∀ c ∈ Nat.toDigits 10 n.natAbs, c.isDigit := fun c mem =>
    isDigit_of_mem_toDigits mem
  rw [integerText, withSign]
  split
  · exact @Numeral.IsExponent.present 'e' ['-'] _ rfl (.inr ⟨'-', rfl, rfl⟩) Nat.toDigits_ne_nil
      digits
  · exact @Numeral.IsExponent.present 'e' [] _ rfl (.inl rfl) Nat.toDigits_ne_nil digits

theorem exponentValue_integerText (n : ℤ) : Numeral.exponentValue ('e' :: integerText n) = n := by
  have digits : ∀ c ∈ Nat.toDigits 10 n.natAbs, c.isDigit := fun c mem =>
    isDigit_of_mem_toDigits mem
  rw [integerText, withSign]
  split
  · rename_i negative
    have value := @Numeral.exponentValue_signed ['-'] _ 'e' rfl (.inr ⟨'-', rfl, rfl⟩) digits
    refine value.trans ?_
    rw [if_pos (List.mem_singleton_self _), Nat.ofDigitChars_ten_toDigits]
    simp only [decide_eq_true_eq] at negative
    omega
  · rename_i positive
    have value := @Numeral.exponentValue_signed [] _ 'e' rfl (.inl rfl) digits
    refine value.trans ?_
    rw [if_neg List.not_mem_nil, Nat.ofDigitChars_ten_toDigits]
    simp only [decide_eq_true_eq, not_lt] at positive
    omega

theorem mantissa_le {q : ℚ} {e : ℤ} {places m : ℕ} (high : q < 10 ^ (e + 1))
    (rounds : RoundsTo (fun n => (n : ℚ)) (q * 10 ^ (places - e)) m) : m ≤ 10 ^ (places + 1) := by
  refine rounds.le_of_le strictMono_natCast ?_
  calc q * 10 ^ ((places : ℤ) - e) ≤ 10 ^ (e + 1) * 10 ^ ((places : ℤ) - e) := by gcongr
    _ = 10 ^ ((places + 1 : ℕ) : ℤ) := by
      rw [← zpow_add₀ (by norm_num)]
      congr 1
      push_cast
      ring
    _ = (10 ^ (places + 1) : ℕ) := by
      rw [zpow_natCast, Nat.cast_pow, Nat.cast_ofNat]

/-- A positive fraction lies between the powers of ten of its exponent, and its mantissa is rounded
to. A mantissa that is rounded up to a power of ten is written with the next exponent. -/
theorem exists_mantissaAndExponent (places : ℕ) {d : Decimal} (pos : 0 < d.units) :
    ∃ (m : ℕ) (e : ℤ), (10 : ℚ) ^ e ≤ d.rational ∧ d.rational < 10 ^ (e + 1) ∧
      RoundsTo (fun n => (n : ℚ)) (d.rational * 10 ^ (places - e)) m ∧
      mantissaAndExponent places d =
        if m = 10 ^ (places + 1) then (10 ^ places, e + 1) else (m, e) := by
  obtain ⟨low, high⟩ := ten_zpow_bounds pos (-d.places)
  have value : (d.units * 10 ^ (-(d.places : ℤ)) : ℚ) = d.rational := by
    rw [Decimal.rational, zpow_neg, zpow_natCast, div_eq_mul_inv]
  obtain ⟨e, exponent⟩ : ∃ e : ℤ, e = (Nat.toDigits 10 d.units).length - 1 - d.places := ⟨_, rfl⟩
  rw [value, show ((Nat.toDigits 10 d.units).length + -(d.places : ℤ)) = e + 1 by omega] at low high
  rw [add_sub_cancel_right] at low
  have rounds := roundsTo_roundDiv (d.units * 10 ^ (places - e).toNat)
    (Nat.mul_pos (Nat.pow_pos (n := d.places) (a := 10) (by decide))
      (Nat.pow_pos (n := (e - places).toNat) (a := 10) (by decide)))
  have scaled : ((d.units * 10 ^ (places - e).toNat : ℕ) : ℚ) /
      (10 ^ d.places * 10 ^ (e - places).toNat : ℕ) = d.rational * 10 ^ (places - e) := by
    rw [Decimal.rational, zpow_eq_toNat (by norm_num), neg_sub]
    push_cast
    field_simp
  rw [scaled] at rounds
  refine ⟨_, e, low, high, rounds, ?_⟩
  simp only [mantissaAndExponent, pos.ne', if_false, ← exponent]
  rfl

theorem exists_read?_scientificDigits (places : ℕ) {d : Decimal} (pos : 0 < d.units) :
    ∃ (n : Numeral) (m : ℕ) (e : ℤ), Numeral.read? (scientificDigits places d) = some n ∧
      (10 : ℚ) ^ e ≤ d.rational ∧ d.rational < 10 ^ (e + 1) ∧
      RoundsTo (fun n => (n : ℚ)) (d.rational * 10 ^ (places - e)) m ∧
      n.rational = m * 10 ^ (e - places) := by
  obtain ⟨m, e, low, high, rounds, parts⟩ := exists_mantissaAndExponent places pos
  obtain ⟨⟨mantissa, exponent⟩, eq⟩ : ∃ p, mantissaAndExponent places d = p := ⟨_, rfl⟩
  have written : (⟨mantissa, places⟩ : Decimal).fraction =
      (⟨mantissa, places⟩ : Decimal).fraction ++ List.replicate 0 '0' := (List.append_nil _).symm
  obtain ⟨n, read, value⟩ := Decimal.exists_read? _ written (isExponent_integerText exponent)
  rw [exponentValue_integerText] at value
  refine ⟨n, m, e, ?_, low, high, rounds, ?_⟩
  · rw [scientificDigits, eq]
    exact read
  · rw [value, Decimal.rational]
    rw [eq] at parts
    split at parts
    · rename_i carry
      obtain ⟨rfl, rfl⟩ := Prod.mk.inj parts
      rw [carry, zpow_sub₀ (by norm_num), zpow_add_one₀ (by norm_num), zpow_natCast]
      push_cast
      field_simp
      ring
    · obtain ⟨rfl, rfl⟩ := Prod.mk.inj parts
      rw [zpow_sub₀ (by norm_num), zpow_natCast]
      ring

/-- What starts like a numeral is no name. -/
theorem unsigned?_of_starts {cs : List Char} (h : Numeral.starts cs) :
    unsigned? cs = (Numeral.read? cs).map Numeral.value := by
  cases cs with
  | nil => cases h
  | cons c cs =>
    have small : c.toLower = c := by
      rcases Token.first_of_starts h with digit | rfl
      · have bounds : 48 ≤ c.toNat ∧ c.toNat ≤ 57 := Char.isDigit_iff_toNat.1 digit
        refine Char.toLower_eq_of_not_isUpper fun upper => ?_
        simp only [Char.isUpper, decide_eq_true_eq, ge_iff_le, UInt32.le_iff_toNat_le] at upper
        change 65 ≤ c.toNat ∧ _ at upper
        omega
      · decide
    have first : c ≠ 'i' ∧ c ≠ 'n' := by
      rcases Token.first_of_starts h with digit | rfl
      · constructor <;> rintro rfl <;> cases digit
      · decide
    simp [unsigned?, infinityNames, small, first]

theorem read?_withSign {cs : List Char} (h : Numeral.starts cs) (negative : Bool) :
    read? (withSign negative cs) =
      (Numeral.read? cs).map fun n => if negative then -n.value else n.value := by
  have magnitude := unsigned?_of_starts h
  cases negative with
  | true =>
    simp only [withSign, if_true, read?, magnitude, Option.map_map]
    rfl
  | false =>
    simp only [withSign, Bool.false_eq_true, if_false]
    unfold read?
    split
    · cases h
    · cases h
    · exact magnitude

/-- The exact value of a number, sign apart. -/
theorem Decimal.rational_ofBinary (b : Binary) : (ofBinary b).rational = |b.value| := by
  rw [Binary.value, abs_mul]
  have sign : |(if b.negative then -1 else 1 : ℚ)| = 1 := by cases b.negative <;> simp
  have positive : (0 : ℚ) ≤ b.mantissa * 2 ^ b.exponent := by positivity
  rw [sign, one_mul, abs_of_nonneg positive, rational, ofBinary, zpow_eq_toNat two_ne_zero]
  simp only [Nat.pow_eq]
  push_cast
  rw [show (10 : ℚ) = 2 * 5 by norm_num, mul_pow]
  field_simp

end Calculator.Number
