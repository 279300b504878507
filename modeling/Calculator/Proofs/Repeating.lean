import Calculator.Proofs.Rereading
import Calculator.Session

/-! Evaluating again. The display that an evaluation leaves is a text that is evaluated as well, and
the display that this leaves is the same, or at a limit another one that stays. -/
namespace Calculator

open Number

namespace Number

/-- The exponent of the first digit of a decimal fraction. -/
def Decimal.firstExponent (d : Decimal) : ℤ := (Nat.toDigits 10 d.units).length - 1 - d.places

theorem Decimal.hasExponent_firstExponent {d : Decimal} (pos : 0 < d.units) :
    HasExponent d.rational d.firstExponent := by
  obtain ⟨low, high⟩ := ten_zpow_bounds pos (-d.places)
  rw [zpow_neg, zpow_natCast, ← div_eq_mul_inv, ← rational] at low high
  have exponent : (Nat.toDigits 10 d.units).length + -(d.places : ℤ) = d.firstExponent + 1 := by
    rw [firstExponent]
    omega
  rw [exponent] at low high
  rw [add_sub_cancel_right] at low
  exact ⟨low, high⟩

def wholeFloat (n : ℤ) : Float := signedFloat (decide (n < 0)) (nearest n.natAbs 1)

end Number

/-- A library with the integer part of the logarithm to base ten. -/
def Elementary.decimal : Elementary :=
  { Elementary.native with log10 := fun x => wholeFloat (Display.size x).firstExponent }

namespace Display

theorem size_abs {x : Float} (finite : x.isFinite) : size x.abs = size x := by
  rw [size, ofFloat_abs finite]
  rfl

theorem floor_wholeFloat {n : ℤ} (low : -11 < n) (high : n < 15) :
    (Binary.ofFloat (wholeFloat n)).floor = n := by
  have all : ∀ n ∈ Finset.Ioo (-11) 15, (Binary.ofFloat (wholeFloat n)).floor = n := by
    decide +kernel
  exact all n (Finset.mem_Ioo.2 ⟨low, high⟩)

theorem logsAccurate_decimal : Elementary.decimal.LogsAccurate := by
  intro x finite inner
  have ne := ne_zero_of_inner inner
  have exponent := Decimal.hasExponent_firstExponent
    (Nat.pos_of_ne_zero (mt units_size_eq_zero_iff.1 ne))
  rw [rational_size] at exponent
  obtain ⟨low, high⟩ := exponent_bounds_of_inner inner exponent
  have magnitude : magnitude .decimal x = (size x).firstExponent := by
    change (Binary.ofFloat (wholeFloat (size x.abs).firstExponent)).floor = _
    rw [size_abs finite]
    exact floor_wholeFloat low high
  have := exponent.le
  have := exponent.lt
  have pos : (0 : ℚ) < 10 ^ (size x).firstExponent := by positivity
  have pos' : (0 : ℚ) < 10 ^ ((size x).firstExponent + 1) := by positivity
  rw [magnitude]
  constructor <;> linarith

end Display

namespace Session

open Display

variable {lib : Elementary} {x : Float}

theorem exists_evaluate_shown (lib : Elementary) (finite : x.isFinite) :
    ∃ t k, Shows lib x t ∧ RoundsTo floatGrid t k ∧
      ∀ unit, Calculation.evaluate lib unit (shown lib x) = .ok (restored x k) := by
  obtain ⟨cs, numeral, text, isNumeral, read, shows⟩ := exists_shows lib finite
  obtain ⟨k, rounds, value⟩ := numeral.exists_value
  have lt := rounds.lt_finiteCount (shows.le_greatest finite)
  have number : Token.numberOf cs = nthFloat k := by
    rw [Token.numberOf, read, ← min_eq_left lt.le]
    exact value
  refine ⟨_, k, shows, rounds, fun unit => ?_⟩
  rw [shown, text, restored, ← number]
  refine evaluate_signed lib unit isNumeral ?_
  rw [number]
  exact (isFinite_nthFloat lt.le).2 lt

/-- The second text that is read back is shown again. -/
theorem exists_evaluate_shown_twice (accurate : lib.LogsAccurate) (finite : x.isFinite) :
    ∃ w v, (∀ unit, Calculation.evaluate lib unit (shown lib x) = .ok w) ∧
      (∀ unit, Calculation.evaluate lib unit (shown lib w) = .ok v) ∧
      (shown lib w = shown lib x ↔ ¬Crosses x w) ∧ shown lib v = shown lib w := by
  have shown_iff : ∀ y z, shown lib y = shown lib z ↔ text lib y = text lib z := fun y z =>
    String.ofList_inj
  obtain ⟨t, k, shows, rounds, first⟩ := exists_evaluate_shown lib finite
  have same := text_restored_iff accurate finite shows rounds
  have finite' := isFinite_restored x (rounds.lt_finiteCount (shows.le_greatest finite))
  generalize restored x k = w at first same finite'
  obtain ⟨t', k', shows', rounds', second⟩ := exists_evaluate_shown lib finite'
  refine ⟨w, restored w k', first, second, (shown_iff w x).trans same, ?_⟩
  by_cases crosses : Crosses x w
  · have restores := shows'.restores finite' (accurate w finite') rounds'
    exact (shown_iff _ _).2 ((text_restored_iff accurate finite' shows' rounds').2
      (not_crosses_of_crosses crosses restores))
  · have again := (shown_iff w x).2 (same.2 crosses)
    rw [again] at second
    have value : restored w k' = w := Except.ok.inj ((second .degrees).symm.trans (first .degrees))
    rw [value]

/-- Where an evaluation succeeds, so do the ones that follow. The second leaves the display as it is
unless the number was rounded to a limit between the forms of a text, and the third always does. So
it is with the texts of all finite numbers. -/
theorem evaluate_again (accurate : lib.LogsAccurate) :
    (∀ (s : Session) (x : Float), s.outcome lib = .ok x →
      let first := s.evaluate lib
      let second := first.evaluate lib
      ∃ w v, first.outcome lib = .ok w ∧ second.outcome lib = .ok v ∧
        (second.display = first.display ↔ ¬Crosses x w) ∧
        (second.evaluate lib).display = second.display) ∧
    ∀ x : Float, x.isFinite →
      ∃ w v, (∀ unit, Calculation.evaluate lib unit (shown lib x) = .ok w) ∧
        (∀ unit, Calculation.evaluate lib unit (shown lib w) = .ok v) ∧
        (shown lib w = shown lib x ↔ ¬Crosses x w) ∧ shown lib v = shown lib w := by
  refine ⟨fun s x outcome => ?_, fun x finite => exists_evaluate_shown_twice accurate finite⟩
  obtain ⟨w, v, second, third, same, stays⟩ :=
    exists_evaluate_shown_twice accurate (Calculation.isFinite_of_evaluate outcome)
  dsimp only
  rw [evaluate_of_outcome outcome]
  have outcome' : (s.succeed lib x).outcome lib = .ok w := second s.unit
  rw [evaluate_of_outcome outcome']
  have outcome'' : ((s.succeed lib x).succeed lib w).outcome lib = .ok v := third s.unit
  rw [evaluate_of_outcome outcome'']
  exact ⟨w, v, outcome', outcome'', same, stays⟩

/-- At the first evaluation this number is shown as the limit, at the second one with an exponent.
-/
theorem evaluate_again_large :
    let s : Session := { display := "999999999999999.9" }
    let first := s.evaluate .decimal
    let second := first.evaluate .decimal
    Elementary.decimal.LogsAccurate ∧ first.display = "1000000000000000" ∧
      second.display = "1.000000e15" ∧ (second.evaluate .decimal).display = second.display := by
  intro s first second
  obtain ⟨x, outcome⟩ : ∃ x, s.outcome .decimal = .ok x := ⟨999999999999999.9, by decide +kernel⟩
  obtain ⟨w, v, -, -, -, stays⟩ := (evaluate_again logsAccurate_decimal).1 s x outcome
  exact ⟨logsAccurate_decimal, by decide +kernel, by decide +kernel, stays⟩

end Session

end Calculator
