import Calculator.Elementary
import Calculator.Number.Binary
import Calculator.Vocabulary

/-! Angles in degrees or radians, and the trigonometric functions on them. Whole degrees where a
function has a simple value are looked up instead of computed, so that the sine of 180 degrees is
zero and the tangent of 90 degrees is undefined. -/
namespace Calculator

inductive AngleUnit where
  | degrees | radians
  deriving DecidableEq, Repr, Inhabited

namespace AngleUnit

def label : AngleUnit → String
  | .degrees => "DEG"
  | .radians => "RAD"

def toRadians : AngleUnit → Float → Float
  | .degrees, x => x * Constant.pi.value / 180.0
  | .radians, x => x

end AngleUnit

namespace Trig

inductive Outcome where
  | value (x : Float)
  | undefined
  deriving DecidableEq

/-- The simple values of the functions, by whole degrees below 360. -/
def table? : Trig → Nat → Option Outcome
  | .sin, 0 | .sin, 180 => some (.value 0.0)
  | .sin, 30 | .sin, 150 => some (.value 0.5)
  | .sin, 210 | .sin, 330 => some (.value (-0.5))
  | .sin, 90 => some (.value 1.0)
  | .sin, 270 => some (.value (-1.0))
  | .cos, 0 => some (.value 1.0)
  | .cos, 180 => some (.value (-1.0))
  | .cos, 60 | .cos, 300 => some (.value 0.5)
  | .cos, 120 | .cos, 240 => some (.value (-0.5))
  | .cos, 90 | .cos, 270 => some (.value 0.0)
  | .tan, 0 | .tan, 180 => some (.value 0.0)
  | .tan, 45 | .tan, 225 => some (.value 1.0)
  | .tan, 135 | .tan, 315 => some (.value (-1.0))
  | .tan, 90 | .tan, 270 => some .undefined
  | _, _ => none

/-- The greatest number of whole degrees that is looked up. -/
def greatestExact : Nat := 9 * Nat.pow 10 15

/-- The simple value at `x` degrees, if there is one: whole turns do not count. -/
def tabulated? (f : Trig) (x : Float) : Option Outcome :=
  match Number.integer? x with
  | none => none
  | some n =>
    if greatestExact < n.natAbs then none
    else f.table? (Number.Binary.ofFloat (Number.euclideanRemainder x 360.0)).floor.toNat

def ofRadians (lib : Elementary) : Trig → Float → Float
  | .sin => lib.sin
  | .cos => lib.cos
  | .tan => lib.tan

def computed (lib : Elementary) (unit : AngleUnit) (f : Trig) (x : Float) : Outcome :=
  .value (f.ofRadians lib (unit.toRadians x))

/-- The value of `f` at an angle. Only angles in degrees are looked up. -/
def apply (lib : Elementary) (unit : AngleUnit) (f : Trig) (x : Float) : Outcome :=
  match unit with
  | .degrees => (f.tabulated? x).getD (computed lib unit f x)
  | .radians => computed lib unit f x

end Trig

end Calculator
