import Calculator.Proofs.Exactness
import Calculator.Proofs.Shown
import Calculator.Proofs.Texts
import Calculator.Proofs.Values
import Calculator.Session

/-! Integers in floating-point arithmetic. Every integer of at most fifty-three binary places is a
floating-point number, so sums and products below that are exact, and so are remainders; below
`10 ^ 15` an integer is shown digit by digit. A tree of integers is therefore shown as its exact
value. -/
namespace Calculator

open Number

namespace Number

theorem exists_floatGrid_eq {n : ℕ} (lt : n < 2 ^ 53) : ∃ k < finiteCount, floatGrid k = n := by
  rcases Nat.eq_zero_or_pos n with rfl | pos
  · exact ⟨0, by decide, by simp⟩
  have places : n.log2 < 53 := (Nat.log2_lt pos.ne').2 lt
  obtain ⟨j, sum⟩ : ∃ j, n.log2 + j = 52 := ⟨52 - n.log2, by omega⟩
  have low : 2 ^ 52 ≤ n * 2 ^ j := by
    rw [← sum, pow_add]
    exact Nat.mul_le_mul_right _ (Nat.log2_self_le pos.ne')
  have high : n * 2 ^ j < 2 ^ 53 := by
    rw [show 53 = n.log2 + 1 + j by omega, pow_add]
    exact Nat.mul_lt_mul_of_pos_right Nat.lt_log2_self (Nat.two_pow_pos j)
  refine ⟨(n.log2 + 1022) * 2 ^ 52 + n * 2 ^ j, ?_, ?_⟩
  · rw [finiteCount]
    omega
  · have exponent : (2 : ℚ) ^ j * 2 ^ (((n.log2 + 1022 : ℕ) : ℤ) - 1074) = 1 := by
      rw [← zpow_natCast, ← zpow_add₀ two_ne_zero,
        show (j : ℤ) + (((n.log2 + 1022 : ℕ) : ℤ) - 1074) = 0 by omega, zpow_zero]
    rw [floatGrid_eq high.le (.inr low), Nat.cast_mul, Nat.cast_pow, Nat.cast_ofNat, mul_assoc,
      exponent, mul_one]

/-- A finite number is exactly this integer. -/
structure IsInt (x : Float) (n : ℤ) : Prop where
  finite : x.isFinite
  value : exact x = n

theorem exists_isInt {n : ℤ} (lt : n.natAbs < 2 ^ 53) : ∃ x, IsInt x n := by
  obtain ⟨k, finite, value⟩ := exists_floatGrid_eq lt
  refine ⟨signedFloat (decide (n < 0)) (nthFloat k), ?_, ?_⟩
  · rw [isFinite_signedFloat]
    exact (isFinite_nthFloat finite.le).2 finite
  · rw [exact_signedFloat finite, value, Nat.cast_natAbs, Int.cast_abs]
    by_cases negative : n < 0
    · have : (n : ℚ) < 0 := Int.cast_lt_zero.2 negative
      simp [negative, abs_of_neg this]
    · have : (0 : ℚ) ≤ n := Int.cast_nonneg (not_lt.1 negative)
      simp [negative, abs_of_nonneg this]

namespace IsInt

variable {x y : Float} {a b : ℤ}

theorem neg (h : IsInt x a) : IsInt (-x) (-a) := by
  refine ⟨by rw [isFinite_neg]; exact h.finite, ?_⟩
  rw [exact_neg h.finite, h.value, Int.cast_neg]

theorem of_alike (h : IsInt y a) (alike : Alike x y) : IsInt x a :=
  ⟨alike.isFinite_eq.trans h.finite, (alike.exact_eq h.finite).trans h.value⟩

theorem add (hx : IsInt x a) (hy : IsInt y b) (lt : (a + b).natAbs < 2 ^ 53) :
    IsInt (x + y) (a + b) := by
  obtain ⟨z, hz⟩ := exists_isInt lt
  refine hz.of_alike (add_of_exact hx.finite hy.finite hz.finite ?_)
  rw [hz.value, hx.value, hy.value, Int.cast_add]

theorem sub (hx : IsInt x a) (hy : IsInt y b) (lt : (a - b).natAbs < 2 ^ 53) :
    IsInt (x - y) (a - b) := by
  obtain ⟨z, hz⟩ := exists_isInt lt
  refine hz.of_alike (sub_of_exact hx.finite hy.finite hz.finite ?_)
  rw [hz.value, hx.value, hy.value, Int.cast_sub]

theorem mul (hx : IsInt x a) (hy : IsInt y b) (lt : (a * b).natAbs < 2 ^ 53) :
    IsInt (x * y) (a * b) := by
  obtain ⟨z, hz⟩ := exists_isInt lt
  refine hz.of_alike (mul_of_exact hx.finite hy.finite hz.finite ?_)
  rw [hz.value, hx.value, hy.value, Int.cast_mul]

/-- An integer is rounded to itself. -/
theorem of_roundsTo {k m : ℕ} (rounds : RoundsTo floatGrid k m) (lt : k < 2 ^ 53) :
    IsInt (nthFloat (min m finiteCount)) k := by
  obtain ⟨i, finite, grid⟩ := exists_floatGrid_eq lt
  rw [← grid] at rounds
  obtain rfl := rounds.unique strictMono_floatGrid (.self strictMono_floatGrid i)
  rw [min_eq_left finite.le]
  refine ⟨(isFinite_nthFloat finite.le).2 finite, ?_⟩
  rw [exact_nthFloat finite.le, grid, Int.cast_natCast]

/-- A numeral whose exact value is an integer is read without rounding. -/
theorem numberOf {lexeme : List Char} {numeral : Numeral}
    (read : Numeral.read? lexeme = some numeral) (value : numeral.rational = a)
    (lt : a.natAbs < 2 ^ 53) : IsInt (Token.numberOf lexeme) a := by
  have nonneg : (0 : ℚ) ≤ a := by
    rw [← value, Numeral.rational]
    positivity
  have size : (a.natAbs : ℤ) = a := Int.natAbs_of_nonneg (Int.cast_nonneg_iff.1 nonneg)
  obtain ⟨m, rounds, eq⟩ := numeral.exists_value
  rw [value, ← size, Int.cast_natCast] at rounds
  have number := of_roundsTo rounds lt
  rw [size, ← eq] at number
  rwa [Token.numberOf, read]

theorem abs (h : IsInt x a) : IsInt x.abs |a| :=
  ⟨by rw [isFinite_abs]; exact h.finite, by rw [exact_abs h.finite, h.value, Int.cast_abs]⟩

theorem numerator (h : IsInt x a) :
    (Binary.ofFloat x).numerator = a.natAbs * (Binary.ofFloat x).denominator := by
  have pos : (0 : ℚ) < (Binary.ofFloat x).denominator :=
    Nat.cast_pos.2 (Binary.ofFloat x).denominator_pos
  have size := (Binary.ofFloat x).abs_value
  rw [← exact, h.value, eq_div_iff pos.ne', ← Int.cast_abs, Int.abs_eq_natAbs,
    Int.cast_natCast] at size
  exact_mod_cast size.symm

theorem nearest {num den k : ℕ} (pos : 0 < den) (multiple : num = k * den) (lt : k < 2 ^ 53) :
    IsInt (nearest num den) k := by
  have rounds := roundsTo_nearestBits num pos
  have positive : (0 : ℚ) < den := Nat.cast_pos.2 pos
  rw [multiple, Nat.cast_mul, mul_div_cancel_right₀ _ positive.ne', ← multiple] at rounds
  exact of_roundsTo rounds lt

theorem mantissa_ne_zero (h : IsInt x a) (ne : a ≠ 0) : (Binary.ofFloat x).mantissa ≠ 0 := by
  intro zero
  have value := h.value
  rw [exact, Binary.value, zero, Nat.cast_zero, zero_mul, mul_zero] at value
  exact ne (by exact_mod_cast value.symm)

/-- A remainder of integers is exact, however large the dividend is. -/
theorem remainder (hx : IsInt x a) (hy : IsInt y b) (pos : 0 < b) (lt : b.natAbs < 2 ^ 53) :
    IsInt (remainder x y) (a.tmod b) := by
  have left := (Binary.ofFloat x).denominator_pos
  have right := (Binary.ofFloat y).denominator_pos
  have less : a.natAbs % b.natAbs < b.natAbs := Nat.mod_lt _ (Int.natAbs_pos.2 pos.ne')
  have multiple : (Binary.ofFloat x).numerator * (Binary.ofFloat y).denominator %
      ((Binary.ofFloat y).numerator * (Binary.ofFloat x).denominator) = a.natAbs % b.natAbs *
        ((Binary.ofFloat x).denominator * (Binary.ofFloat y).denominator) := by
    rw [hx.numerator, hy.numerator, mul_assoc, mul_assoc, mul_comm (Binary.ofFloat y).denominator,
      Nat.mul_mod_mul_right]
  have size := IsInt.nearest (Nat.mul_pos left right) multiple (less.trans lt)
  have parts := Int.natAbs_tmod a b
  simp only [Number.remainder, hx.finite, isNaN_of_isFinite hy.finite, isInf_of_isFinite hy.finite,
    beq_eq_false_iff_ne.2 (hy.mantissa_ne_zero pos.ne'), Bool.not_true, Bool.or_self,
    Bool.false_eq_true, if_false]
  cases sign : (Binary.ofFloat x).negative with
  | true =>
    have nonpos : a ≤ 0 := by
      have := Binary.value_nonpos sign
      rw [← exact, hx.value] at this
      exact_mod_cast this
    have turned : a.tmod b = -(a.natAbs % b.natAbs : ℕ) := by
      have := Int.tmod_nonneg b (neg_nonneg.2 nonpos)
      rw [Int.neg_tmod] at this
      omega
    rw [turned]
    exact size.neg
  | false =>
    have nonneg : 0 ≤ a := by
      have := Binary.value_nonneg sign
      rw [← exact, hx.value] at this
      exact_mod_cast this
    have same : a.tmod b = (a.natAbs % b.natAbs : ℕ) := by
      have := Int.tmod_nonneg b nonneg
      omega
    rw [same]
    exact size

theorem euclideanRemainder (hx : IsInt x a) (hy : IsInt y b) (pos : 0 < b)
    (lt : b.natAbs < 2 ^ 53) : IsInt (euclideanRemainder x y) (a % b) := by
  have cut := hx.remainder hy pos lt
  have finite : (0.0 : Float).isFinite := by decide +kernel
  have zero : exact 0.0 = 0 := (beq_zero_iff_exact finite).1 (by decide +kernel)
  have sign : Number.remainder x y < 0.0 ↔ a.tmod b < 0 := by
    rw [lt_iff_exact_lt cut.finite finite, cut.value, zero, Int.cast_lt_zero]
  have less := Int.emod_lt_of_pos a pos
  have nonneg := Int.emod_nonneg a pos.ne'
  have step := @Int.emod_eq_tmod a b
  rw [Number.euclideanRemainder]
  simp only [sign]
  split
  · rename_i negative
    have moved : a % b = a.tmod b + |b| := by
      rw [abs_of_pos pos]
      split at step <;> omega
    rw [moved]
    exact cut.add hy.abs (by omega)
  · rename_i positive
    have same : a % b = a.tmod b := by split at step <;> omega
    rwa [same]

example : Number.euclideanRemainder (-450.0) 360.0 = 270.0 := by decide +kernel

end IsInt

theorem ofList_integerText (n : ℤ) : String.ofList (integerText n) = toString n := by
  cases n with
  | ofNat k => rfl
  | negSucc k =>
    rw [integerText, withSign, if_pos (by simp)]
    exact String.ofList_cons

/-- Below `10 ^ 15` the digits of an integer are shown, and no sign of zero. -/
theorem IsInt.text {x : Float} {n : ℤ} (lib : Elementary) (h : IsInt x n)
    (lt : n.natAbs < 10 ^ 15) : Display.text lib x = integerText n := by
  have size : |exact x| = (n.natAbs : ℕ) := by rw [h.value, Nat.cast_natAbs, Int.cast_abs]
  rcases eq_or_ne n 0 with rfl | ne
  · exact Display.text_of_exact_eq_zero lib h.finite (by rw [h.value, Int.cast_zero])
  have value : exact x ≠ 0 := by
    rw [h.value]
    exact Int.cast_ne_zero.2 ne
  have inner : ¬Display.IsOuter |exact x| := by
    rw [Display.IsOuter, size, not_or, not_lt, not_le]
    constructor
    · have : (1 : ℚ) ≤ n.natAbs := by exact_mod_cast Int.natAbs_pos.2 ne
      exact le_trans (by norm_num) this
    · exact_mod_cast lt
  have places : Display.decimals lib x = 0 := if_pos ((Binary.isInteger_iff _).2 ⟨_, size⟩)
  have units : ((Display.size x).roundTo 0).units = n.natAbs := by
    have rounds := (Display.size x).roundsTo_roundTo 0
    rw [Display.rational_size, size, pow_zero, mul_one] at rounds
    exact rounds.unique strictMono_natCast (.self strictMono_natCast _)
  rw [Display.text_of_exact_ne_zero lib h.finite value, if_neg (mt Display.isOuter_iff.1 inner),
    places, Decimal.shortText_of_places_eq_zero _ rfl, Decimal.whole, units, h.value, integerText]
  simp [Int.cast_lt_zero]

end Number

/-- What integers in a tree stay below. -/
def integerLimit : ℕ := 10 ^ 15

/-- The tree is made of numerals of integers, minuses, sums, differences and products. Its exact
value is this integer, and the exact value of every part is below the limit. The integers are those
that the numerals stand for before any rounding. -/
inductive Expr.Computes : Expr → ℤ → Prop
  | numeral {lexeme : List Char} {numeral : Numeral} {n : ℤ}
    (read : Numeral.read? lexeme = some numeral) (value : numeral.rational = n)
    (lt : n.natAbs < integerLimit) : Computes (.number (Token.numberOf lexeme)) n
  | negate {e : Expr} {n : ℤ} (operand : Computes e n) : Computes (.negate e) (-n)
  | add {left right : Expr} {a b : ℤ} (hl : Computes left a) (hr : Computes right b)
    (lt : (a + b).natAbs < integerLimit) : Computes (.binary .add left right) (a + b)
  | subtract {left right : Expr} {a b : ℤ} (hl : Computes left a) (hr : Computes right b)
    (lt : (a - b).natAbs < integerLimit) : Computes (.binary .subtract left right) (a - b)
  | multiply {left right : Expr} {a b : ℤ} (hl : Computes left a) (hr : Computes right b)
    (lt : (a * b).natAbs < integerLimit) : Computes (.binary .multiply left right) (a * b)

theorem lt_two_pow_of_lt_integerLimit {n : ℕ} (lt : n < integerLimit) : n < 2 ^ 53 :=
  lt.trans (by decide)

namespace Expr

variable {lib : Elementary} {unit : AngleUnit} {e : Expr} {n : ℤ}

theorem Computes.lt (h : e.Computes n) : n.natAbs < integerLimit := by
  induction h with
  | numeral _ _ lt => exact lt
  | negate _ ih => rwa [Int.natAbs_neg]
  | add _ _ lt | subtract _ _ lt | multiply _ _ lt => exact lt

theorem value_binary_of_ok {op : Operator} {left right : Expr} {x y z : Float}
    (hl : left.value lib unit = .ok x) (hr : right.value lib unit = .ok y)
    (h : op.apply lib x y = .ok z) : (Expr.binary op left right).value lib unit = .ok z := by
  rw [value_binary, hl, hr]
  exact h

/-- The value of a tree of integers is its exact value. -/
theorem Computes.exists_value (h : e.Computes n) (lib : Elementary) (unit : AngleUnit) :
    ∃ x, e.value lib unit = .ok x ∧ IsInt x n := by
  induction h with
  | numeral read value lt =>
    have number := IsInt.numberOf read value (lt_two_pow_of_lt_integerLimit lt)
    exact ⟨_, finite_eq_ok number.finite, number⟩
  | negate _ ih =>
    obtain ⟨x, value, number⟩ := ih
    exact ⟨-x, by rw [value_negate, value]; rfl, number.neg⟩
  | add _ _ lt ihl ihr =>
    obtain ⟨x, left, hx⟩ := ihl
    obtain ⟨y, right, hy⟩ := ihr
    have number := hx.add hy (lt_two_pow_of_lt_integerLimit lt)
    exact ⟨x + y, value_binary_of_ok left right (finite_eq_ok number.finite), number⟩
  | subtract _ _ lt ihl ihr =>
    obtain ⟨x, left, hx⟩ := ihl
    obtain ⟨y, right, hy⟩ := ihr
    have number := hx.sub hy (lt_two_pow_of_lt_integerLimit lt)
    exact ⟨x - y, value_binary_of_ok left right (finite_eq_ok number.finite), number⟩
  | multiply _ _ lt ihl ihr =>
    obtain ⟨x, left, hx⟩ := ihl
    obtain ⟨y, right, hy⟩ := ihr
    have number := hx.mul hy (lt_two_pow_of_lt_integerLimit lt)
    exact ⟨x * y, value_binary_of_ok left right (finite_eq_ok number.finite), number⟩

theorem Computes.exists_evaluate (h : e.Computes n) (lib : Elementary) (unit : AngleUnit) :
    ∃ x, e.evaluate lib unit = .ok x ∧ IsInt x n := by
  obtain ⟨x, value, number⟩ := h.exists_value lib unit
  exact ⟨x, by rw [evaluate_eq, value]; exact finite_eq_ok number.finite, number⟩

end Expr

namespace Session

open Calculation

/-- A tree of integers on the display is replaced by the digits of its exact value. -/
theorem evaluate_integers (lib : Elementary) (s : Session) {tokens : List Token} {e : Expr} {n : ℤ}
    (reads : read s.display = .ok (tokens, e)) (computes : e.Computes n) :
    (s.evaluate lib).error = none ∧ (s.evaluate lib).display = toString n := by
  obtain ⟨x, value, number⟩ := computes.exists_evaluate lib s.unit
  have outcome : s.outcome lib = .ok x := by
    rw [Session.outcome, Calculation.evaluate_eq, reads]
    exact congrArg (·.mapError CalcError.evaluation) value
  have shows : shown lib x = toString n := by
    rw [shown, number.text lib computes.lt, ofList_integerText]
  rw [Session.evaluate, outcome]
  exact ⟨rfl, shows⟩

theorem evaluate_integers_minus_zero :
    let s : Session := { display := "12.5e1*-8+0*-5" }
    (s.evaluate .native).error = none ∧ (s.evaluate .native).display = "-1000" := by
  intro s
  have reads : read s.display = .ok
      ([.number 125.0, .operator .multiply, .operator .subtract, .number 8.0, .operator .add,
          .number 0.0, .operator .multiply, .operator .subtract, .number 5.0, .stop],
        .binary .add
          (.binary .multiply (.number (Token.numberOf "12.5e1".toList))
            (.negate (.number (Token.numberOf "8".toList))))
          (.binary .multiply (.number (Token.numberOf "0".toList))
            (.negate (.number (Token.numberOf "5".toList))))) := by
    decide +kernel
  have numeral (lexeme : List Char) (n : ℕ) (read : Numeral.read? lexeme = some ⟨n, 0⟩)
      (lt : n < integerLimit) : (Expr.number (Token.numberOf lexeme)).Computes n :=
    .numeral read (by simp [Numeral.rational]) lt
  have computes := Expr.Computes.add
    (.multiply (numeral "12.5e1".toList 125 rfl (by decide))
      (.negate (numeral "8".toList 8 rfl (by decide))) (by decide))
    (.multiply (numeral "0".toList 0 rfl (by decide))
      (.negate (numeral "5".toList 5 rfl (by decide))) (by decide))
    (by decide)
  obtain ⟨error, display⟩ := evaluate_integers .native s reads computes
  exact ⟨error, display.trans (by decide)⟩

end Session

end Calculator
