import Calculator.Display
import Calculator.Expr.Reading
import Calculator.Expr.Value
import Calculator.Token.Lexer

/-! From the text of an expression to its value, and to the working that is shown beside it. -/
namespace Calculator

namespace Calculation

def read (s : String) : Except CalcError (List Token × Expr) := do
  let tokens ← (Token.scan s).mapError .lexical
  let e ← (Expr.ofTokens tokens).mapError .syntactic
  return (tokens, e)

def evaluate (lib : Elementary) (unit : AngleUnit) (s : String) : Except CalcError Float := do
  let (_, e) ← read s
  (e.evaluate lib unit).mapError .evaluation

/-- The value of a calculation, which is not a number when it failed. -/
def result : Except CalcError Float → Float
  | .ok x => x
  | .error _ => Number.notANumber

end Calculation

structure Working where
  tokens : String := ""
  tree : String := ""
  deriving DecidableEq, Repr

/-- The working of a text that makes an expression, whether or not it has a value. -/
def Working.of (s : String) : Except CalcError Working := do
  let (tokens, e) ← Calculation.read s
  return { tokens := String.ofList (Token.lineText tokens), tree := String.ofList e.text }

end Calculator
