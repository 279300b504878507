import Calculator.Number.Shortest

/-! How a floating-point number is written: with its shortest digits (`plain`), the same with a
point in every number (`pointed`), and rounded to a mantissa of six places with an exponent
(`scientific`). -/
namespace Calculator.Number

def withSign (negative : Bool) (cs : List Char) : List Char := if negative then '-' :: cs else cs

/-- A finite number is `finite` of its absolute value after its sign. -/
def write (finite : Binary → List Char) (x : Float) : List Char :=
  if x.isNaN then "NaN".toList
  else
    let b := Binary.ofFloat x
    withSign b.negative (if x.isInf then "inf".toList else finite b)

def plain (x : Float) : List Char := write (·.shortest.shortText) x

/-- The shortest digits, never with an exponent, and always with a point in a finite number. -/
def pointed (x : Float) : List Char :=
  let digits := plain x
  if digits.contains '.' || !x.isFinite then digits else digits ++ ".0".toList

def integerText (n : Int) : List Char := withSign (n < 0) (Nat.toDigits 10 n.natAbs)

/-- The mantissa of a number in units of its last of `places` decimals, and the exponent of ten. The
exponent is that of the first digit, after rounding. -/
def mantissaAndExponent (places : Nat) (d : Decimal) : Nat × Int :=
  if d.units = 0 then (0, 0)
  else
    let exponent : Int := (Nat.toDigits 10 d.units).length - 1 - d.places
    let mantissa := roundDiv (d.units * Nat.pow 10 (places - exponent).toNat)
      (Nat.pow 10 d.places * Nat.pow 10 (exponent - places).toNat)
    if mantissa = Nat.pow 10 (places + 1) then (Nat.pow 10 places, exponent + 1)
    else (mantissa, exponent)

def scientificDigits (places : Nat) (d : Decimal) : List Char :=
  let (mantissa, exponent) := mantissaAndExponent places d
  Decimal.text ⟨mantissa, places⟩ ++ 'e' :: integerText exponent

/-- One digit, a point and six more, rounded from the exact value, and the exponent of ten. -/
def scientific (x : Float) : List Char := write (fun b => scientificDigits 6 (.ofBinary b)) x

end Calculator.Number
