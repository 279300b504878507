import Calculator.Angle
import Mathlib.Analysis.SpecialFunctions.Trigonometric.Complex

/-! The trigonometric functions of analysis at whole degrees: where two of their values are the
same, and where they are simple. -/
namespace Calculator

open Real (pi)

/-- The angle of a whole number of degrees. -/
noncomputable def degrees (n : ℤ) : ℝ := n * (pi / 180)

theorem degrees_add (n m : ℤ) : degrees (n + m) = degrees n + degrees m := by
  rw [degrees, Int.cast_add, add_mul, degrees, degrees]

theorem degrees_sub (n m : ℤ) : degrees (n - m) = degrees n - degrees m := by
  rw [degrees, Int.cast_sub, sub_mul, degrees, degrees]

theorem degrees_neg (n : ℤ) : degrees (-n) = -degrees n := by
  rw [degrees, Int.cast_neg, neg_mul, degrees]

theorem degrees_inj {n m : ℤ} : degrees n = degrees m ↔ n = m := by
  have pos : (pi / 180 : ℝ) ≠ 0 := by positivity
  rw [degrees, degrees, mul_left_inj' pos, Int.cast_inj]

theorem degrees_turns (k : ℤ) : degrees (360 * k) = 2 * k * pi := by
  rw [degrees]
  push_cast
  ring

theorem cos_degrees_eq_iff (n m : ℤ) : Real.cos (degrees n) = Real.cos (degrees m) ↔
    (n - m) % 360 = 0 ∨ (n + m) % 360 = 0 := by
  rw [Real.cos_eq_cos_iff]
  simp only [← degrees_turns, ← degrees_add, ← degrees_sub, degrees_inj]
  constructor
  · rintro ⟨k, h | h⟩ <;> omega
  · rintro (h | h)
    · exact ⟨-((n - m) / 360), .inl (by omega)⟩
    · exact ⟨(n + m) / 360, .inr (by omega)⟩

theorem cos_degrees_zero : Real.cos (degrees 0) = 1 := by simp [degrees]

theorem cos_degrees_sixty : Real.cos (degrees 60) = 1 / 2 := by
  rw [degrees, ← Real.cos_pi_div_three]
  congr 1
  push_cast
  ring

theorem cos_degrees_ninety : Real.cos (degrees 90) = 0 := by
  rw [degrees, ← Real.cos_pi_div_two]
  congr 1
  push_cast
  ring

theorem sin_degrees (n : ℤ) : Real.sin (degrees n) = Real.cos (degrees (90 - n)) := by
  rw [degrees_sub, ← Real.cos_pi_div_two_sub]
  congr 2
  rw [degrees]
  push_cast
  ring

theorem neg_cos_degrees (n : ℤ) : -Real.cos (degrees n) = Real.cos (degrees (180 - n)) := by
  rw [degrees_sub, ← Real.cos_pi_sub]
  congr 2
  rw [degrees]
  push_cast
  ring

theorem cos_degrees_eq_zero_iff (n : ℤ) : Real.cos (degrees n) = 0 ↔ n % 180 = 90 := by
  rw [← cos_degrees_ninety, cos_degrees_eq_iff]
  omega

theorem sin_degrees_eq_zero_iff (n : ℤ) : Real.sin (degrees n) = 0 ↔ n % 180 = 0 := by
  rw [sin_degrees, cos_degrees_eq_zero_iff]
  omega

theorem tan_degrees_eq_iff {n m : ℤ} (hn : n % 180 ≠ 90) (hm : m % 180 ≠ 90) :
    Real.tan (degrees n) = Real.tan (degrees m) ↔ (n - m) % 180 = 0 := by
  rw [Real.tan_eq_sin_div_cos, Real.tan_eq_sin_div_cos,
    div_eq_div_iff (mt (cos_degrees_eq_zero_iff n).1 hn) (mt (cos_degrees_eq_zero_iff m).1 hm),
    ← sub_eq_zero, mul_comm (Real.sin (degrees m)), ← Real.sin_sub, ← degrees_sub,
    sin_degrees_eq_zero_iff]

namespace Trig

/-- The value of the function at an angle. The tangent has none at its poles. -/
noncomputable def real? : Trig → ℝ → Option ℝ
  | .sin, a => some (Real.sin a)
  | .cos, a => some (Real.cos a)
  | .tan, a => if Real.cos a = 0 then none else some (Real.tan a)

/-- Whether the function has the same value at two whole numbers of degrees. -/
def Repeats : Trig → ℤ → ℤ → Prop
  | .sin, n, m => (n - m) % 360 = 0 ∨ (n + m - 180) % 360 = 0
  | .cos, n, m => (n - m) % 360 = 0 ∨ (n + m) % 360 = 0
  | .tan, n, m => (n - m) % 180 = 0

instance (f : Trig) (n m : ℤ) : Decidable (f.Repeats n m) :=
  match f with
  | .sin | .cos => inferInstanceAs (Decidable (_ ∨ _))
  | .tan => inferInstanceAs (Decidable (_ = _))

theorem real?_degrees_eq_iff (f : Trig) (n m : ℤ) :
    f.real? (degrees n) = f.real? (degrees m) ↔ f.Repeats n m := by
  cases f with
  | sin =>
    rw [real?, real?, Option.some_inj, sin_degrees, sin_degrees, cos_degrees_eq_iff, Repeats]
    omega
  | cos => rw [real?, real?, Option.some_inj, cos_degrees_eq_iff, Repeats]
  | tan =>
    simp only [real?, cos_degrees_eq_zero_iff, Repeats]
    by_cases hn : n % 180 = 90
    · by_cases hm : m % 180 = 90
      · rw [if_pos hn, if_pos hm]
        exact iff_of_true rfl (by omega)
      · rw [if_pos hn, if_neg hm]
        exact iff_of_false nofun (by omega)
    · by_cases hm : m % 180 = 90
      · rw [if_neg hn, if_pos hm]
        exact iff_of_false nofun (by omega)
      · rw [if_neg hn, if_neg hm, Option.some_inj, tan_degrees_eq_iff hn hm]

theorem real?_eq_of_repeats {f : Trig} {n m : ℤ} (h : f.Repeats n m) :
    f.real? (degrees n) = f.real? (degrees m) :=
  (real?_degrees_eq_iff f n m).2 h

theorem real?_sin_degrees (n : ℤ) :
    Trig.sin.real? (degrees n) = Trig.cos.real? (degrees (90 - n)) :=
  congrArg some (sin_degrees n)

theorem real?_sin_complement (n : ℤ) :
    Trig.sin.real? (degrees (90 - n)) = Trig.cos.real? (degrees n) := by
  rw [real?_sin_degrees, sub_sub_cancel]

theorem real?_cos_supplement (n : ℤ) :
    Trig.cos.real? (degrees (180 - n)) = (Trig.cos.real? (degrees n)).map (-·) :=
  congrArg some (neg_cos_degrees n).symm

theorem real?_sin_neg (n : ℤ) :
    Trig.sin.real? (degrees (-n)) = (Trig.sin.real? (degrees n)).map (-·) := by
  rw [real?, degrees_neg, Real.sin_neg]
  rfl

theorem real?_tan_neg (n : ℤ) :
    Trig.tan.real? (degrees (-n)) = (Trig.tan.real? (degrees n)).map (-·) := by
  rw [real?, real?, degrees_neg, Real.cos_neg, Real.tan_neg]
  split <;> rfl

theorem real?_sin_halfTurn (n : ℤ) :
    Trig.sin.real? (degrees (n + 180)) = (Trig.sin.real? (degrees n)).map (-·) := by
  have repeats : Trig.sin.Repeats (n + 180) (-n) := .inr (by omega)
  rw [real?_eq_of_repeats repeats, real?_sin_neg]

theorem real?_cos_halfTurn (n : ℤ) :
    Trig.cos.real? (degrees (n + 180)) = (Trig.cos.real? (degrees n)).map (-·) := by
  have repeats : Trig.cos.Repeats (n + 180) (180 - n) := .inr (by omega)
  rw [real?_eq_of_repeats repeats, real?_cos_supplement]

theorem real?_tan_of_regular {a : ℝ} (h : Real.cos a ≠ 0) :
    Trig.tan.real? a = some (Real.sin a / Real.cos a) := by
  rw [real?, if_neg h, Real.tan_eq_sin_div_cos]

theorem real?_tan_eq_none_iff (a : ℝ) :
    Trig.tan.real? a = none ↔ Trig.cos.real? a = some 0 := by
  rw [real?, real?, Option.some_inj]
  split <;> simp_all

theorem real?_tan_eq_zero_iff (a : ℝ) :
    Trig.tan.real? a = some 0 ↔ Trig.sin.real? a = some 0 := by
  by_cases pole : Real.cos a = 0
  · have nonzero : Real.sin a ≠ 0 := by
      intro zero
      have one := Real.sin_sq_add_cos_sq a
      rw [pole, zero] at one
      norm_num at one
    simp [real?, pole, nonzero]
  · rw [real?_tan_of_regular pole, real?, Option.some_inj, Option.some_inj, div_eq_zero_iff,
      or_iff_left pole]

/-- Only the tangent has poles. -/
theorem real?_eq_none_iff (f : Trig) (n : ℤ) :
    f.real? (degrees n) = none ↔ f = .tan ∧ ∃ k : ℤ, n = 90 * (2 * k + 1) := by
  cases f with
  | sin | cos => simp [real?]
  | tan =>
    rw [real?_tan_eq_none_iff, real?, Option.some_inj, cos_degrees_eq_zero_iff]
    refine ⟨fun pole => ⟨rfl, n / 180, by omega⟩, ?_⟩
    rintro ⟨-, k, rfl⟩
    omega

theorem real?_cos_zero : Trig.cos.real? (degrees 0) = some 1 := congrArg some cos_degrees_zero

theorem real?_cos_sixty : Trig.cos.real? (degrees 60) = some (1 / 2) :=
  congrArg some cos_degrees_sixty

theorem real?_cos_ninety : Trig.cos.real? (degrees 90) = some 0 := congrArg some cos_degrees_ninety

theorem real?_cos_above_ninety : Trig.cos.real? (degrees 120) = some (-(1 / 2)) ∧
    Trig.cos.real? (degrees 180) = some (-1) := by
  constructor
  · rw [show (120 : ℤ) = 180 - 60 from rfl, real?_cos_supplement, real?_cos_sixty]
    rfl
  · rw [show (180 : ℤ) = 180 - 0 from rfl, real?_cos_supplement, real?_cos_zero]
    rfl

theorem real?_tan_values : Trig.tan.real? (degrees 0) = some 0 ∧
    Trig.tan.real? (degrees 45) = some 1 ∧ Trig.tan.real? (degrees 90) = none ∧
    Trig.tan.real? (degrees 135) = some (-1) := by
  have regular (n : ℤ) (h : n % 180 ≠ 90) : Real.cos (degrees n) ≠ 0 :=
    mt (cos_degrees_eq_zero_iff n).1 h
  refine ⟨?_, ?_, if_pos cos_degrees_ninety, ?_⟩
  · rw [real?_tan_of_regular (regular 0 (by decide)), (sin_degrees_eq_zero_iff 0).2 rfl, zero_div]
  · have nonzero := regular 45 (by decide)
    rw [real?_tan_of_regular nonzero, sin_degrees]
    exact congrArg some (div_self nonzero)
  · have nonzero := regular 135 (by decide)
    have opposite : Real.sin (degrees 135) = -Real.cos (degrees 135) := by
      rw [sin_degrees, neg_cos_degrees, cos_degrees_eq_iff]
      decide
    rw [real?_tan_of_regular nonzero, opposite, neg_div, div_self nonzero]

end Trig

end Calculator
