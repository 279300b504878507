/-! Floating-point numbers as exact binary fractions. `Binary.ofFloat` takes a number apart into a
sign and an integer multiple of a power of two; `nearest` goes back, from a ratio of two naturals to
the floating-point number closest to it. Rounding is to nearest throughout, and a half goes to the
even neighbour. -/
namespace Calculator.Number

/-- `num / den` rounded to the nearest natural, a half to the even one. -/
def roundDiv (num den : Nat) : Nat :=
  let quotient := num / den
  let remainder := num % den
  if 2 * remainder < den then quotient
  else if den < 2 * remainder then quotient + 1
  else quotient + quotient % 2

@[simp] theorem roundDiv_one (n : Nat) : roundDiv n 1 = n := by simp [roundDiv, Nat.mod_one]

theorem le_roundDiv (num den : Nat) : num / den ≤ roundDiv num den := by
  simp only [roundDiv]; split <;> (try split) <;> omega

theorem roundDiv_le (num den : Nat) : roundDiv num den ≤ num / den + 1 := by
  simp only [roundDiv]; split <;> (try split) <;> omega

/-- An exact quotient is not rounded. -/
theorem roundDiv_mul (n : Nat) (den : Nat) (h : 0 < den) : roundDiv (n * den) den = n := by
  simp [roundDiv, Nat.mul_div_cancel n h, h]

structure Binary where
  negative : Bool
  mantissa : Nat
  exponent : Int
  deriving DecidableEq, Repr

namespace Binary

/-- The fields of the bit pattern: a sign, eleven exponent bits, fifty-two fraction bits. The
leading bit of the mantissa is implied unless the exponent bits are all zero. -/
def ofFloat (x : Float) : Binary :=
  let bits := x.toBits.toNat
  let field := bits / Nat.pow 2 52 % Nat.pow 2 11
  let fraction := bits % Nat.pow 2 52
  { negative := decide (Nat.pow 2 63 ≤ bits)
    mantissa := if field = 0 then fraction else Nat.pow 2 52 + fraction
    exponent := (max field 1 : Nat) - 1075 }

/-- The value is `numerator / denominator`, sign apart. -/
def numerator (b : Binary) : Nat := b.mantissa * Nat.pow 2 b.exponent.toNat

def denominator (b : Binary) : Nat := Nat.pow 2 (-b.exponent).toNat

theorem denominator_pos (b : Binary) : 0 < b.denominator := Nat.pow_pos (by decide)

/-- The greatest integer that is not above the value. -/
def floor (b : Binary) : Int :=
  (if b.negative then -(b.numerator : Int) else b.numerator) / b.denominator

def isInteger (b : Binary) : Bool := b.numerator % b.denominator == 0

end Binary

def integer? (x : Float) : Option Int :=
  let b := Binary.ofFloat x
  if x.isFinite && b.isInteger then some b.floor else none

def infinity : Float := Float.ofBits 0x7FF0000000000000

def notANumber : Float := Float.ofBits 0x7FF8000000000000

def binaryExponent (num den : Nat) : Int :=
  let e : Int := (num.log2 : Int) - den.log2
  if den * Nat.pow 2 e.toNat ≤ num * Nat.pow 2 (-e).toNat then e else e - 1

/-- The exponent of the last of the fifty-three binary places that `num / den` is rounded to. No
place is finer than that of the smallest number, `2 ^ (-1074)`. -/
def lastPlace (num den : Nat) : Int := max (binaryExponent num den - 52) (-1074)

/-- The bit pattern of the number nearest to `num / den`. The leading bit of the rounded mantissa
is added to the exponent field: this puts a mantissa that was rounded up to the next power of two,
and one too small to have its leading bit, into the right field without a case of their own. -/
def nearestBits (num den : Nat) : Nat :=
  if num = 0 then 0
  else
    let place := lastPlace num den
    let mantissa := roundDiv (num * Nat.pow 2 (-place).toNat) (den * Nat.pow 2 place.toNat)
    (place + 1074).toNat * Nat.pow 2 52 + mantissa

/-- The floating-point number nearest to `num / den`, which is infinite when all finite ones are too
small. -/
def nearest (num den : Nat) : Float :=
  Float.ofBits (UInt64.ofNat (min (nearestBits num den) (2047 * Nat.pow 2 52)))

@[simp] theorem nearestBits_zero (den : Nat) : nearestBits 0 den = 0 := rfl

/-- What is left of `x` by a division by `y` towards zero. It has the sign of `x`, and it is a
floating-point number, so `nearest` does not round it. -/
def remainder (x y : Float) : Float :=
  let a := Binary.ofFloat x
  let b := Binary.ofFloat y
  if !x.isFinite || y.isNaN || b.mantissa == 0 then notANumber
  else if y.isInf then x
  else
    let size := nearest (a.numerator * b.denominator % (b.numerator * a.denominator))
      (a.denominator * b.denominator)
    if a.negative then -size else size

def euclideanRemainder (x y : Float) : Float :=
  let r := remainder x y
  if r < 0.0 then r + y.abs else r

end Calculator.Number
