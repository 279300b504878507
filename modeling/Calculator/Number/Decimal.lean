import Calculator.Number.Binary

/-! Decimal fractions `units / 10 ^ places`. Every binary fraction is one (`Decimal.ofBinary`), so
rounding to a number of places and writing digits need natural numbers only. -/
namespace Calculator.Number

/-- The value `units / 10 ^ places`. -/
structure Decimal where
  units : Nat
  places : Nat
  deriving DecidableEq, Repr

/-- The last `width` decimal digits of `n`, zeros in front included. -/
def lowDigits : Nat → Nat → List Char
  | 0, _ => []
  | width + 1, n => lowDigits width (n / 10) ++ [Nat.digitChar (n % 10)]

@[simp] theorem length_lowDigits (width n : Nat) : (lowDigits width n).length = width := by
  induction width generalizing n with
  | zero => rfl
  | succ width ih => simp [lowDigits, ih]

theorem isDigit_of_mem_lowDigits {width n : Nat} {c : Char} (h : c ∈ lowDigits width n) :
    c.isDigit := by
  induction width generalizing n with
  | zero => simp [lowDigits] at h
  | succ width ih =>
    simp only [lowDigits, List.mem_append, List.mem_singleton] at h
    rcases h with h | rfl
    · exact ih h
    · simp [Nat.isDigit_digitChar, Nat.mod_lt n]

def withPoint : List Char → List Char
  | [] => []
  | digits => '.' :: digits

def dropZeros (digits : List Char) : List Char :=
  (digits.reverse.dropWhile (· == '0')).reverse

namespace Decimal

/-- The exact value of a binary fraction, sign apart: a half is five tenths, so `n` binary places
are `n` decimal ones. -/
def ofBinary (b : Binary) : Decimal :=
  { units := b.mantissa * Nat.pow 2 b.exponent.toNat * Nat.pow 5 (-b.exponent).toNat
    places := (-b.exponent).toNat }

def roundTo (places : Nat) (d : Decimal) : Decimal :=
  { units := roundDiv (d.units * Nat.pow 10 places) (Nat.pow 10 d.places), places }

def whole (d : Decimal) : List Char := Nat.toDigits 10 (d.units / Nat.pow 10 d.places)

def fraction (d : Decimal) : List Char := lowDigits d.places d.units

/-- All places are written, final zeros included. -/
def text (d : Decimal) : List Char := d.whole ++ withPoint d.fraction

/-- Final zeros after the point are left out, and with the last digit the point. -/
def shortText (d : Decimal) : List Char := d.whole ++ withPoint (dropZeros d.fraction)

@[simp] theorem roundTo_places (places : Nat) (d : Decimal) :
    (d.roundTo places).places = places := rfl

theorem shortText_of_places_eq_zero (d : Decimal) (h : d.places = 0) : d.shortText = d.whole := by
  simp [shortText, fraction, h, lowDigits, dropZeros, withPoint]

end Decimal

end Calculator.Number
