import Calculator.Vocabulary
import Calculator.Number.Text

/-! The tokens of an expression and how a line of them is written. -/
namespace Calculator

inductive Token where
  | number (x : Float)
  | word (w : Word)
  | operator (op : Operator)
  | opening
  | closing
  /-- The mark that ends a line; nothing after the first one is read. -/
  | stop
  deriving DecidableEq

namespace Token

def text : Token → List Char
  | .number x => Number.plain x
  | .word w => w.name.toList
  | .operator op => [op.symbol]
  | .opening => ['(']
  | .closing => [')']
  | .stop => "fin".toList

/-- The tokens written with one character. -/
def ofSymbol? : Char → Option Token
  | '(' => some .opening
  | ')' => some .closing
  | c => (Operator.ofSymbol? c).map .operator

def isStop : Token → Bool
  | .stop => true
  | _ => false

/-- The tokens before the first stop mark. -/
def line (tokens : List Token) : List Token := tokens.takeWhile (!·.isStop)

/-- The tokens with a space between two of them, stop marks left out. -/
def lineText (tokens : List Token) : List Char :=
  [' '].intercalate ((tokens.filter (!·.isStop)).map text)

theorem ofSymbol?_operator (op : Operator) : ofSymbol? op.symbol = some (.operator op) := by
  cases op <;> rfl

@[simp] theorem line_append_stop (tokens rest : List Token) :
    line (tokens ++ .stop :: rest) = line tokens := by
  induction tokens with
  | nil => rfl
  | cons t tokens ih => cases t <;> simp_all [line, isStop]

end Token

end Calculator
