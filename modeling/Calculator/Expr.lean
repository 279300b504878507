import Calculator.Token

/-! Expression trees and their text, in which every operation with two operands has its own
parentheses. -/
namespace Calculator

inductive Expr where
  | number (x : Float)
  | constant (c : Constant)
  | negate (operand : Expr)
  | binary (op : Operator) (left right : Expr)
  | call (f : Function) (argument : Expr)
  deriving DecidableEq

namespace Expr

def isBinary : Expr → Bool
  | .binary .. => true
  | _ => false

/-- An argument that has parentheses of its own is given no others. -/
def text : Expr → List Char
  | .number x => Number.plain x
  | .constant c => c.name.toList
  | .negate operand => '-' :: operand.text
  | .binary op left right => '(' :: left.text ++ [' ', op.symbol, ' '] ++ right.text ++ [')']
  | .call f argument =>
    f.name.toList ++
      if argument.isBinary then argument.text else '(' :: argument.text ++ [')']

/-- The number of nodes on the longest way down. -/
def height : Expr → Nat
  | .number _ | .constant _ => 1
  | .negate operand => operand.height + 1
  | .binary _ left right => max left.height right.height + 1
  | .call _ argument => argument.height + 1

end Expr

end Calculator
