import Calculator.Angle
import Calculator.Error
import Calculator.Expr

/-! The value of an expression, which is always finite: a number that is not is an error at the
place where it arises. Operands are evaluated from the left, and the first error is the answer. -/
namespace Calculator

/-- A finite number; any other is the given fault. -/
def finite (fault : DomainFault) (x : Float) : Except EvalError Float :=
  if x.isFinite then .ok x else .error (.domain fault)

theorem isFinite_of_finite {fault : DomainFault} {x y : Float} (h : finite fault x = .ok y) :
    y = x ∧ y.isFinite := by
  unfold finite at h
  split at h <;> simp_all

def Operator.apply (lib : Elementary) (op : Operator) (a b : Float) : Except EvalError Float :=
  match op with
  | .add => finite .overflow (a + b)
  | .subtract => finite .overflow (a - b)
  | .multiply => finite .overflow (a * b)
  | .divide => if b == 0.0 then .error .divisionByZero else finite .overflow (a / b)
  | .power => finite .power (lib.power a b)

def Trig.evaluate (lib : Elementary) (unit : AngleUnit) (f : Trig) (x : Float) :
    Except EvalError Float :=
  match f.apply lib unit x with
  | .value y => finite .trigonometry y
  | .undefined => .error (.domain (.undefined f x))

def Function.apply (lib : Elementary) (unit : AngleUnit) (f : Function) (x : Float) :
    Except EvalError Float :=
  match f with
  | .trig t => t.evaluate lib unit x
  | .sqrt => if x < 0.0 then .error (.domain .root) else .ok (lib.sqrt x)
  | .ln => if x ≤ 0.0 then .error (.domain (.logarithm f)) else finite .logarithmValue (lib.ln x)
  | .log =>
    if x ≤ 0.0 then .error (.domain (.logarithm f)) else finite .logarithmValue (lib.log10 x)

namespace Expr

/-- The value of a node. The unit counts for the trigonometric functions only. -/
def value (lib : Elementary) (unit : AngleUnit) : Expr → Except EvalError Float
  | .number x => finite .literal x
  | .constant c => .ok c.value
  | .negate operand => do
    let x ← operand.value lib unit
    return -x
  | .binary op left right => do
    let a ← left.value lib unit
    let b ← right.value lib unit
    op.apply lib a b
  | .call f argument => do
    let x ← argument.value lib unit
    f.apply lib unit x

/-- The value of a whole expression. -/
def evaluate (lib : Elementary) (unit : AngleUnit) (e : Expr) : Except EvalError Float := do
  let x ← e.value lib unit
  finite .result x

end Expr

end Calculator
