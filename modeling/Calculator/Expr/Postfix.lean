import Calculator.Expr

/-! Expressions as postfix code: operands first, then what is done with them. -/
namespace Calculator

inductive Instruction where
  | number (x : Float)
  | constant (c : Constant)
  | negate
  | binary (op : Operator)
  | call (f : Function)
  deriving DecidableEq

namespace Expr

def postfixCode : Expr → List Instruction
  | .number x => [.number x]
  | .constant c => [.constant c]
  | .negate operand => operand.postfixCode ++ [.negate]
  | .binary op left right => left.postfixCode ++ right.postfixCode ++ [.binary op]
  | .call f argument => argument.postfixCode ++ [.call f]

/-- Builds trees on a stack; there is none for an instruction that finds too few operands. -/
def build? : List Instruction → List Expr → Option (List Expr)
  | [], stack => some stack
  | .number x :: code, stack => build? code (.number x :: stack)
  | .constant c :: code, stack => build? code (.constant c :: stack)
  | .negate :: code, x :: stack => build? code (.negate x :: stack)
  | .binary op :: code, right :: left :: stack => build? code (.binary op left right :: stack)
  | .call f :: code, x :: stack => build? code (.call f x :: stack)
  | _, _ => none

def ofPostfix? (code : List Instruction) : Option Expr :=
  match build? code [] with
  | some [e] => some e
  | _ => none

theorem build?_postfixCode (e : Expr) (code : List Instruction) (stack : List Expr) :
    build? (e.postfixCode ++ code) stack = build? code (e :: stack) := by
  induction e generalizing code stack <;> simp_all [postfixCode, build?]

/-- No tree is lost in postfix code. -/
theorem ofPostfix?_postfixCode (e : Expr) : ofPostfix? e.postfixCode = some e := by
  have := build?_postfixCode e [] []
  simp_all [ofPostfix?, build?]

end Expr

end Calculator
