import Calculator.Expr
import Calculator.Error

/-! From a line of tokens to its expression. Operators of one precedence are read from the left,
powers from the right. A minus in front of an operand takes the powers after it along, but no weaker
operator. Each function gives back the tokens it has not read, which are fewer than it was given. -/
namespace Calculator.Expr

abbrev Reading (tokens : List Token) :=
  Except SyntaxError (Expr × { rest : List Token // rest.length < tokens.length })

def found : List Token → Token
  | [] => .stop
  | t :: _ => t

/-- The least precedence that an operator needs to belong to the right operand of `op`. -/
def rightLevel (op : Operator) : Nat :=
  if op.rightAssociative then op.precedence else op.precedence + 1

/-- Goes past the closing parenthesis after `inner`. Where there is none, the token found instead
says which error it is. -/
def close (unclosed : Token → SyntaxError) (inner : Expr) (tokens : List Token) : Reading tokens :=
  match tokens with
  | .closing :: rest => .ok (inner, ⟨rest, Nat.lt_succ_self _⟩)
  | tokens => .error (unclosed (found tokens))

def unclosedGroup : Token → SyntaxError
  | .stop => .unmatched
  | t => .expected .closing t

mutual

/-- Reads an operand and the operators after it that bind at least as tightly as `minimum`. -/
def expression (minimum : Nat) (tokens : List Token) : Reading tokens :=
  match operand tokens with
  | .error e => .error e
  | .ok (left, ⟨rest, shorter⟩) =>
    match operators minimum left rest with
    | .error e => .error e
    | .ok (result, ⟨rest', le⟩) => .ok (result, ⟨rest', Nat.lt_of_le_of_lt le shorter⟩)
termination_by 3 * tokens.length + 2

def operators (minimum : Nat) (left : Expr) (tokens : List Token) :
    Except SyntaxError (Expr × { rest : List Token // rest.length ≤ tokens.length }) :=
  match tokens with
  | .operator op :: rest =>
    if op.precedence < minimum then .ok (left, ⟨.operator op :: rest, Nat.le_refl _⟩)
    else
      match expression (rightLevel op) rest with
      | .error e => .error e
      | .ok (right, ⟨rest', shorter⟩) =>
        match operators minimum (.binary op left right) rest' with
        | .error e => .error e
        | .ok (result, ⟨rest'', le⟩) =>
          .ok (result, ⟨rest'', Nat.le_of_lt (Nat.lt_of_le_of_lt le (Nat.lt_succ_of_lt shorter))⟩)
  | tokens => .ok (left, ⟨tokens, Nat.le_refl _⟩)
termination_by 3 * tokens.length

def operand (tokens : List Token) : Reading tokens :=
  match tokens with
  | .operator .subtract :: rest =>
    match expression Operator.power.precedence rest with
    | .error e => .error e
    | .ok (inner, ⟨rest', shorter⟩) => .ok (.negate inner, ⟨rest', Nat.lt_succ_of_lt shorter⟩)
  | tokens => primary tokens
termination_by 3 * tokens.length + 1

def primary (tokens : List Token) : Reading tokens :=
  match tokens with
  | .number x :: rest => .ok (.number x, ⟨rest, Nat.lt_succ_self _⟩)
  | .word (.constant c) :: rest => .ok (.constant c, ⟨rest, Nat.lt_succ_self _⟩)
  | .word (.function f) :: .opening :: .closing :: _ =>
    .error (.expected (.argumentOf f) .closing)
  | .word (.function f) :: .opening :: rest =>
    match expression 0 rest with
    | .error e => .error e
    | .ok (argument, ⟨rest', shorter⟩) =>
      match close (.expected .closing) (.call f argument) rest' with
      | .error e => .error e
      | .ok (result, ⟨rest'', shorter'⟩) =>
        .ok (result, ⟨rest'', by simp only [List.length_cons]; omega⟩)
  | .word (.function f) :: rest => .error (.expected (.openingAfter f) (found rest))
  | .opening :: .closing :: _ => .error (.expected .operand .closing)
  | .opening :: rest =>
    match expression 0 rest with
    | .error e => .error e
    | .ok (inner, ⟨rest', shorter⟩) =>
      match close unclosedGroup inner rest' with
      | .error e => .error e
      | .ok (result, ⟨rest'', shorter'⟩) =>
        .ok (result, ⟨rest'', by simp only [List.length_cons]; omega⟩)
  | tokens => .error (.expected .operand (found tokens))
termination_by 3 * tokens.length

end

def leftOver : Token → SyntaxError
  | .closing => .unmatched
  | t => .trailing t

/-- The expression of the tokens before the first stop mark. -/
def ofTokens (tokens : List Token) : Except SyntaxError Expr :=
  if (found tokens).isStop then .error .empty
  else
    match expression 0 tokens with
    | .error e => .error e
    | .ok (result, ⟨rest, _⟩) =>
      if (found rest).isStop then .ok result else .error (leftOver (found rest))

end Calculator.Expr
