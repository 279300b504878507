/-! The words and signs of expressions: five operators, six functions, two constants. -/
namespace Calculator

inductive Operator where
  | add | subtract | multiply | divide | power
  deriving DecidableEq, Repr

namespace Operator

def all : List Operator := [.add, .subtract, .multiply, .divide, .power]

def symbol : Operator → Char
  | .add => '+'
  | .subtract => '-'
  | .multiply => '*'
  | .divide => '/'
  | .power => '^'

/-- A greater precedence binds more tightly. -/
def precedence : Operator → Nat
  | .add | .subtract => 1
  | .multiply | .divide => 2
  | .power => 3

/-- A chain of powers is read from the right, any other chain from the left. -/
def rightAssociative : Operator → Bool
  | .power => true
  | _ => false

def ofSymbol? (c : Char) : Option Operator := all.find? (·.symbol == c)

@[simp] theorem ofSymbol?_symbol (op : Operator) : ofSymbol? op.symbol = some op := by
  cases op <;> rfl

end Operator

inductive Trig where
  | sin | cos | tan
  deriving DecidableEq, Repr

inductive Function where
  | trig (f : Trig)
  | ln
  /-- The logarithm to base ten. -/
  | log
  | sqrt
  deriving DecidableEq, Repr

inductive Constant where
  | pi | e
  deriving DecidableEq, Repr

def Trig.name : Trig → String
  | .sin => "sin"
  | .cos => "cos"
  | .tan => "tan"

def Function.name : Function → String
  | .trig f => f.name
  | .ln => "ln"
  | .log => "log"
  | .sqrt => "sqrt"

namespace Constant

def name : Constant → String
  | .pi => "pi"
  | .e => "e"

/-- The floating-point number nearest to the constant. -/
def value : Constant → Float
  | .pi => 3.141592653589793
  | .e => 2.718281828459045

end Constant

inductive Word where
  | function (f : Function)
  | constant (c : Constant)
  deriving DecidableEq, Repr

namespace Word

def all : List Word :=
  [.function (.trig .sin), .function (.trig .cos), .function (.trig .tan), .function .ln,
    .function .log, .function .sqrt, .constant .pi, .constant .e]

def name : Word → String
  | .function f => f.name
  | .constant c => c.name

/-- Names are matched as they stand, in small letters. -/
def ofName? (name : String) : Option Word := all.find? (·.name == name)

@[simp] theorem ofName?_name (w : Word) : ofName? w.name = some w := by
  rcases w with (((_ | _ | _) | _ | _ | _) | (_ | _)) <;> decide

end Word

end Calculator
