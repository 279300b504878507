import Calculator.Elementary
import Calculator.Number.Text

/-! How a result is shown: an integer without a point, another number with twelve significant
digits, a very large or very small one with an exponent. What is shown can be read back as a
number. -/
namespace Calculator.Display

def isLarge (d : Number.Decimal) : Bool := Nat.pow 10 (15 + d.places) ≤ d.units

def isSmall (d : Number.Decimal) : Bool := d.units * Nat.pow 10 10 < Nat.pow 10 d.places

/-- The exponent of ten of the first digit, by the logarithm of the library. -/
def magnitude (lib : Elementary) (x : Float) : Int :=
  (Number.Binary.ofFloat (lib.log10 x.abs)).floor

def places (lib : Elementary) (x : Float) : Nat := (11 - magnitude lib x).toNat

/-- The text of a result. Zero has no sign. -/
def text (lib : Elementary) (x : Float) : List Char :=
  let b := Number.Binary.ofFloat x
  let d := Number.Decimal.ofBinary b
  if !x.isFinite then "indéfini".toList
  else if d.units = 0 then ['0']
  else if isLarge d || isSmall d then Number.scientific x
  else Number.withSign b.negative (d.roundTo (if b.isInteger then 0 else places lib x)).shortText

end Calculator.Display
