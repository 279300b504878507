import Calculator.Expr.Reading

/-! The reader of expressions with a record of what it does: where its function for expressions is
called and left, and which tokens it passes. Its answer is that of the reader. -/
namespace Calculator.Expr

inductive Move where
  /-- The function for expressions is called. -/
  | enter
  /-- It returns, with an expression or an error. -/
  | leave
  | pass (t : Token)
  deriving DecidableEq

/-- The tokens that are passed, in their order. -/
def passed (moves : List Move) : List Token :=
  moves.filterMap fun
    | .pass t => some t
    | _ => none

theorem passed_append (moves moves' : List Move) :
    passed (moves ++ moves') = passed moves ++ passed moves' :=
  List.filterMap_append

/-- How many calls are open after some moves. -/
def openCalls (moves : List Move) : Nat := moves.count .enter - moves.count .leave

/-- What is read, or the error, with the moves that were made until then. -/
structure Trace (α : Type) where
  moves : List Move
  answer : Except SyntaxError α

namespace Trace

variable {α β : Type}

def done (a : α) : Trace α := ⟨[], .ok a⟩

def failed (e : SyntaxError) : Trace α := ⟨[], .error e⟩

/-- A token is passed first. -/
def passing (t : Token) (x : Trace α) : Trace α := ⟨.pass t :: x.moves, x.answer⟩

/-- The whole is one call. -/
def inCall (x : Trace α) : Trace α := ⟨.enter :: (x.moves ++ [.leave]), x.answer⟩

def map (f : α → β) (x : Trace α) : Trace β := ⟨x.moves, x.answer.map f⟩

/-- Goes on with what was read, unless there was an error. -/
def andThen (x : Trace α) (f : α → Trace β) : Trace β :=
  match x.answer with
  | .error e => ⟨x.moves, .error e⟩
  | .ok a => ⟨x.moves ++ (f a).moves, (f a).answer⟩

theorem answer_andThen (x : Trace α) (f : α → Trace β) :
    (x.andThen f).answer = x.answer.bind fun a => (f a).answer := by
  rw [andThen]
  cases x.answer <;> rfl

end Trace

def traceClose (unclosed : Token → SyntaxError) (inner : Expr) (tokens : List Token) :
    Trace (Expr × { rest : List Token // rest.length < tokens.length }) :=
  ⟨if found tokens = .closing then [.pass .closing] else [], close unclosed inner tokens⟩

mutual

def traceExpression (minimum : Nat) (tokens : List Token) :
    Trace (Expr × { rest : List Token // rest.length < tokens.length }) :=
  .inCall <| (traceOperand tokens).andThen fun (left, ⟨rest, shorter⟩) =>
    (traceOperators minimum left rest).map fun (result, ⟨rest', le⟩) =>
      (result, ⟨rest', Nat.lt_of_le_of_lt le shorter⟩)
termination_by 3 * tokens.length + 2

/-- The operators after an operand are read by the call that has read the operand, so that only the
right operands nest. -/
def traceOperators (minimum : Nat) (left : Expr) (tokens : List Token) :
    Trace (Expr × { rest : List Token // rest.length ≤ tokens.length }) :=
  match tokens with
  | .operator op :: rest =>
    if op.precedence < minimum then .done (left, ⟨.operator op :: rest, Nat.le_refl _⟩)
    else
      .passing (.operator op) <|
        (traceExpression (rightLevel op) rest).andThen fun (right, ⟨rest', shorter⟩) =>
          (traceOperators minimum (.binary op left right) rest').map fun (result, ⟨rest'', le⟩) =>
            (result, ⟨rest'', Nat.le_of_lt (Nat.lt_of_le_of_lt le (Nat.lt_succ_of_lt shorter))⟩)
  | tokens => .done (left, ⟨tokens, Nat.le_refl _⟩)
termination_by 3 * tokens.length

def traceOperand (tokens : List Token) :
    Trace (Expr × { rest : List Token // rest.length < tokens.length }) :=
  match tokens with
  | .operator .subtract :: rest =>
    .passing (.operator .subtract) <|
      (traceExpression Operator.power.precedence rest).map fun (inner, ⟨rest', shorter⟩) =>
        (.negate inner, ⟨rest', Nat.lt_succ_of_lt shorter⟩)
  | tokens => tracePrimary tokens
termination_by 3 * tokens.length + 1

def tracePrimary (tokens : List Token) :
    Trace (Expr × { rest : List Token // rest.length < tokens.length }) :=
  match tokens with
  | .number x :: rest => .passing (.number x) (.done (.number x, ⟨rest, Nat.lt_succ_self _⟩))
  | .word (.constant c) :: rest =>
    .passing (.word (.constant c)) (.done (.constant c, ⟨rest, Nat.lt_succ_self _⟩))
  | .word (.function f) :: .opening :: .closing :: _ =>
    .passing (.word (.function f)) <| .passing .opening <|
      .failed (.expected (.argumentOf f) .closing)
  | .word (.function f) :: .opening :: rest =>
    .passing (.word (.function f)) <| .passing .opening <|
      (traceExpression 0 rest).andThen fun (argument, ⟨rest', shorter⟩) =>
        (traceClose (.expected .closing) (.call f argument) rest').map
          fun (result, ⟨rest'', shorter'⟩) =>
            (result, ⟨rest'', by simp only [List.length_cons]; omega⟩)
  | .word (.function f) :: rest =>
    .passing (.word (.function f)) <| .failed (.expected (.openingAfter f) (found rest))
  | .opening :: .closing :: _ => .passing .opening <| .failed (.expected .operand .closing)
  | .opening :: rest =>
    .passing .opening <| (traceExpression 0 rest).andThen fun (inner, ⟨rest', shorter⟩) =>
      (traceClose unclosedGroup inner rest').map fun (result, ⟨rest'', shorter'⟩) =>
        (result, ⟨rest'', by simp only [List.length_cons]; omega⟩)
  | tokens => .failed (.expected .operand (found tokens))
termination_by 3 * tokens.length

end

def traceTokens (tokens : List Token) : Trace Expr :=
  if (found tokens).isStop then .failed .empty
  else
    (traceExpression 0 tokens).andThen fun (result, ⟨rest, _⟩) =>
      if (found rest).isStop then .done result else .failed (leftOver (found rest))

-- Trace and reader distinguish the same cases of the tokens. In each of them the calls of the trace
-- are replaced by those of the reader; what either makes of the answers is the same by computation.

mutual

theorem answer_traceExpression (minimum : Nat) (tokens : List Token) :
    (traceExpression minimum tokens).answer = expression minimum tokens := by
  rw [traceExpression, expression, Trace.inCall, Trace.answer_andThen, answer_traceOperand tokens]
  rcases operand tokens with e | ⟨left, rest, shorter⟩
  · rfl
  · change (traceOperators minimum left rest).answer.map _ = _
    rw [answer_traceOperators minimum left rest]
    dsimp only
    cases operators minimum left rest <;> rfl
termination_by 3 * tokens.length + 2

theorem answer_traceOperators (minimum : Nat) (left : Expr) (tokens : List Token) :
    (traceOperators minimum left tokens).answer = operators minimum left tokens := by
  unfold traceOperators
  split
  · rename_i op rest
    rw [operators]
    split
    · rfl
    · rw [Trace.passing, Trace.answer_andThen, answer_traceExpression (rightLevel op) rest]
      rcases expression (rightLevel op) rest with e | ⟨right, rest', shorter⟩
      · rfl
      · change (traceOperators minimum (.binary op left right) rest').answer.map _ = _
        rw [answer_traceOperators minimum (.binary op left right) rest']
        dsimp only
        cases operators minimum (.binary op left right) rest' <;> rfl
  · rw [operators]
    · rfl
    · assumption
termination_by 3 * tokens.length
decreasing_by all_goals (subst_vars; simp only [List.length_cons]; omega)

theorem answer_traceOperand (tokens : List Token) :
    (traceOperand tokens).answer = operand tokens := by
  unfold traceOperand
  split
  · rename_i rest
    change (traceExpression Operator.power.precedence rest).answer.map _ = _
    rw [answer_traceExpression Operator.power.precedence rest, operand]
    cases expression Operator.power.precedence rest <;> rfl
  · rw [operand]
    · exact answer_tracePrimary _
    · assumption
termination_by 3 * tokens.length + 1

theorem answer_tracePrimary (tokens : List Token) :
    (tracePrimary tokens).answer = primary tokens := by
  unfold tracePrimary
  split
  · rw [primary]
    rfl
  · rw [primary]
    rfl
  · rw [primary]
    rfl
  · rename_i f rest argument
    rw [primary]
    · change ((traceExpression 0 rest).andThen _).answer = _
      rw [Trace.answer_andThen, answer_traceExpression 0 rest]
      rcases expression 0 rest with e | ⟨inner, rest', shorter⟩
      · rfl
      · change (traceClose (.expected .closing) (.call f inner) rest').answer.map _ = _
        dsimp only [traceClose]
        cases close (.expected .closing) (.call f inner) rest' <;> rfl
    · assumption
  · rw [primary]
    · rfl
    · assumption
    · assumption
  · rw [primary]
    rfl
  · rename_i rest argument
    rw [primary]
    · change ((traceExpression 0 rest).andThen _).answer = _
      rw [Trace.answer_andThen, answer_traceExpression 0 rest]
      rcases expression 0 rest with e | ⟨inner, rest', shorter⟩
      · rfl
      · change (traceClose unclosedGroup inner rest').answer.map _ = _
        dsimp only [traceClose]
        cases close unclosedGroup inner rest' <;> rfl
    · assumption
  · rw [primary] <;> first | rfl | assumption
termination_by 3 * tokens.length

end

theorem answer_traceTokens (tokens : List Token) :
    (traceTokens tokens).answer = ofTokens tokens := by
  rw [traceTokens, ofTokens]
  split
  · rfl
  · rw [Trace.answer_andThen, answer_traceExpression 0 tokens]
    rcases expression 0 tokens with e | ⟨result, rest, shorter⟩
    · rfl
    · change Trace.answer (if (found rest).isStop then _ else _) = _
      dsimp only
      split <;> rfl

end Calculator.Expr
