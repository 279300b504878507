import Calculator.Proofs.Reading

/-! A one-pass automaton for lines of tokens. Its states say whether an operand or an operator is
expected and which parentheses are open. It accepts a line or stops at the first token that no
accepted line goes on with (`after_isSome_iff`), and its answer is that of the reader, errors
included (`verdict_line`). -/
namespace Calculator.Automaton

inductive Bracket where
  | group
  | call (f : Function)
  deriving DecidableEq

/-- An operand is expected in every phase but the last. -/
inductive Phase where
  | operand
  /-- Right after the name of a function. -/
  | name (f : Function)
  /-- Right after the name of a function and its opening parenthesis. -/
  | argument (f : Function)
  | operator
  deriving DecidableEq

structure State where
  phase : Phase := .operand
  /-- The open parentheses, the innermost first. -/
  enclosing : List Bracket := []
  deriving DecidableEq

/-- The error of a token where an operand is expected. The stop mark is the end of the line. -/
def operandError : Phase → Token → SyntaxError
  | .name f, t => .expected (.openingAfter f) t
  | .argument f, .closing => .expected (.argumentOf f) .closing
  | _, t => .expected .operand t

/-- The error of a token where an operator is expected, by the innermost open parenthesis. -/
def operatorError : List Bracket → Token → SyntaxError
  | [], .closing => .unmatched
  | [], t => .trailing t
  | .group :: _, .stop => .unmatched
  | _ :: _, t => .expected .closing t

namespace State

def error (s : State) (t : Token) : SyntaxError :=
  match s.phase with
  | .operator => operatorError s.enclosing t
  | phase => operandError phase t

/-- The state after a token, if an expression can go on with it. -/
def next? (s : State) (t : Token) : Option State :=
  match s.phase, t, s.enclosing with
  | .operator, .operator _, enclosing => some ⟨.operand, enclosing⟩
  | .operator, .closing, _ :: outer => some ⟨.operator, outer⟩
  | .operator, _, _ => none
  | .name f, .opening, enclosing => some ⟨.argument f, .call f :: enclosing⟩
  | .name _, _, _ => none
  | _, .number _, enclosing => some ⟨.operator, enclosing⟩
  | _, .word (.constant _), enclosing => some ⟨.operator, enclosing⟩
  | _, .word (.function f), enclosing => some ⟨.name f, enclosing⟩
  | _, .operator .subtract, enclosing => some ⟨.operand, enclosing⟩
  | _, .opening, enclosing => some ⟨.operand, .group :: enclosing⟩
  | _, _, _ => none

/-- The answer at the end of a line. -/
def finish (s : State) : Except SyntaxError Unit :=
  if s = ⟨.operator, []⟩ then .ok () else .error (s.error .stop)

def run (s : State) : List Token → Except SyntaxError Unit
  | [] => s.finish
  | t :: tokens =>
    if t.isStop then s.finish
    else
      match s.next? t with
      | some s' => s'.run tokens
      | none => .error (s.error t)

def after? (s : State) (tokens : List Token) : Option State := tokens.foldlM next? s

end State

def verdict (line : List Token) : Except SyntaxError Unit :=
  if line.isEmpty then .error .empty else State.run {} line

open Calculator.Expr Grammar State

section Run

variable {enclosing : List Bracket} {tokens : List Token} {f : Function}

@[simp] theorem run_operator (op : Operator) : run ⟨.operator, enclosing⟩ (.operator op :: tokens) =
    run ⟨.operand, enclosing⟩ tokens := rfl

@[simp] theorem run_minus : run ⟨.operand, enclosing⟩ (.operator .subtract :: tokens) =
    run ⟨.operand, enclosing⟩ tokens := rfl

@[simp] theorem run_call : run ⟨.operand, enclosing⟩ (.word (.function f) :: .opening :: tokens) =
    run ⟨.argument f, .call f :: enclosing⟩ tokens := rfl

@[simp] theorem run_group : run ⟨.operand, enclosing⟩ (.opening :: tokens) =
    run ⟨.operand, .group :: enclosing⟩ tokens := rfl

theorem run_argument (h : found tokens ≠ .closing) :
    run ⟨.argument f, enclosing⟩ tokens = run ⟨.operand, enclosing⟩ tokens := by
  cases tokens with
  | nil => rfl
  | cons t tokens =>
    cases t with
    | closing => exact absurd rfl h
    | word w => cases w <;> rfl
    | operator op => cases op <;> rfl
    | _ => rfl

theorem run_name (h : found tokens ≠ .opening) : run ⟨.name f, enclosing⟩ tokens =
    .error (.expected (.openingAfter f) (found tokens)) := by
  cases tokens with
  | nil => rfl
  | cons t tokens =>
    cases t with
    | opening => exact absurd rfl h
    | _ => rfl

/-- Inside a parenthesis only an operator and its closing go on. -/
theorem run_unclosed {b : Bracket} (below : Below 0 tokens) (h : found tokens ≠ .closing) :
    run ⟨.operator, b :: enclosing⟩ tokens =
      .error (operatorError (b :: enclosing) (found tokens)) := by
  cases tokens with
  | nil => rfl
  | cons t tokens =>
    cases t with
    | closing => exact absurd rfl h
    | operator op => exact absurd (below op rfl) (Nat.not_lt_zero _)
    | _ => rfl

theorem run_outside (below : Below 0 tokens) : run ⟨.operator, []⟩ tokens =
    if (found tokens).isStop then .ok () else .error (leftOver (found tokens)) := by
  cases tokens with
  | nil => rfl
  | cons t tokens =>
    cases t with
    | operator op => exact absurd (below op rfl) (Nat.not_lt_zero _)
    | _ => rfl

theorem run_close {b : Bracket} {unclosed : Token → SyntaxError} (inner : Expr)
    (below : Below 0 tokens) (same : operatorError (b :: enclosing) = unclosed) :
    run ⟨.operator, b :: enclosing⟩ tokens =
      (readClose unclosed inner tokens).bind fun r => run ⟨.operator, enclosing⟩ r.2 := by
  by_cases closing : found tokens = .closing
  · obtain ⟨tail, rfl⟩ := exists_tail_of_found closing (by simp)
    rfl
  · rw [run_unclosed below closing, readClose_unclosed closing, same]
    rfl

end Run

theorem operatorError_call (f : Function) (enclosing : List Bracket) :
    operatorError (.call f :: enclosing) = .expected .closing := by
  funext t
  cases t <;> rfl

theorem operatorError_group (enclosing : List Bracket) :
    operatorError (.group :: enclosing) = unclosedGroup := by
  funext t
  cases t <;> rfl

theorem below_zero_of_read {tokens rest : List Token} {e : Expr}
    (h : readExpression 0 tokens = .ok (e, rest)) : Below 0 rest := by
  obtain ⟨-, -, -, below⟩ := expression_derives (Nat.zero_le 3) h
  exact below

mutual

/-- After an expression the automaton stands where the reader stands; an error of the reader is
the error of the automaton. -/
theorem run_expression (minimum : Nat) (tokens : List Token) (enclosing : List Bracket) :
    run ⟨.operand, enclosing⟩ tokens =
      (readExpression minimum tokens).bind fun r => run ⟨.operator, enclosing⟩ r.2 := by
  rw [readExpression_eq, run_operand tokens enclosing]
  cases first : readOperand tokens with
  | error e => rfl
  | ok r =>
    have shorter := length_readOperand first
    exact run_operators minimum r.1 r.2 enclosing
termination_by 3 * tokens.length + 2

theorem run_operators (minimum : Nat) (left : Expr) (tokens : List Token)
    (enclosing : List Bracket) :
    run ⟨.operator, enclosing⟩ tokens =
      (readOperators minimum left tokens).bind fun r => run ⟨.operator, enclosing⟩ r.2 := by
  by_cases below : Below minimum tokens
  · rw [readOperators_below below]
    rfl
  · obtain ⟨op, tail, eq, binds⟩ := exists_operator_of_not_below below
    have consumed : tokens.length = tail.length + 1 := congrArg List.length eq
    rw [eq, readOperators_operator binds, Automaton.run_operator,
      run_expression (rightLevel op) tail enclosing]
    cases operand : readExpression (rightLevel op) tail with
    | error e => rfl
    | ok r =>
      have shorter := length_readExpression operand
      exact run_operators minimum (.binary op left r.1) r.2 enclosing
termination_by 3 * tokens.length

theorem run_operand (tokens : List Token) (enclosing : List Bracket) :
    run ⟨.operand, enclosing⟩ tokens =
      (readOperand tokens).bind fun r => run ⟨.operator, enclosing⟩ r.2 := by
  by_cases minus : found tokens = .operator .subtract
  · obtain ⟨tail, eq⟩ := exists_tail_of_found minus (by simp)
    have consumed : tokens.length = tail.length + 1 := congrArg List.length eq
    rw [eq, readOperand_minus, run_minus, run_expression 3 tail enclosing]
    cases readExpression 3 tail <;> rfl
  · rw [readOperand_primary minus]
    exact run_primary minus enclosing
termination_by 3 * tokens.length + 1

theorem run_primary {tokens : List Token} (minus : found tokens ≠ .operator .subtract)
    (enclosing : List Bracket) :
    run ⟨.operand, enclosing⟩ tokens =
      (readPrimary tokens).bind fun r => run ⟨.operator, enclosing⟩ r.2 := by
  match tokens with
  | .number x :: tail =>
    rw [readPrimary_number]
    rfl
  | .word (.constant c) :: tail =>
    rw [readPrimary_constant]
    rfl
  | .word (.function f) :: tail =>
    by_cases opening : found tail = .opening
    · obtain ⟨after, eq⟩ := exists_tail_of_found opening (by simp)
      have consumed : tail.length = after.length + 1 := congrArg List.length eq
      rw [eq, run_call]
      by_cases closing : found after = .closing
      · obtain ⟨after, rfl⟩ := exists_tail_of_found closing (by simp)
        rw [readPrimary_noArgument]
        rfl
      · rw [readPrimary_call closing, run_argument closing, run_expression 0 after]
        cases inside : readExpression 0 after with
        | error e => rfl
        | ok r =>
          exact run_close (.call f r.1) (below_zero_of_read inside) (operatorError_call f enclosing)
    · rw [readPrimary_name opening]
      exact run_name opening
  | .opening :: tail =>
    rw [run_group]
    by_cases closing : found tail = .closing
    · obtain ⟨after, rfl⟩ := exists_tail_of_found closing (by simp)
      rw [readPrimary_emptyGroup]
      rfl
    · rw [readPrimary_group closing, run_expression 0 tail]
      cases inside : readExpression 0 tail with
      | error e => rfl
      | ok r => exact run_close r.1 (below_zero_of_read inside) (operatorError_group enclosing)
  | .operator op :: tail =>
    rw [readPrimary_noOperand (.inl ⟨op, rfl⟩)]
    cases op with
    | subtract => exact absurd rfl minus
    | _ => rfl
  | .closing :: tail =>
    rw [readPrimary_noOperand (.inr (.inl rfl))]
    rfl
  | [] | .stop :: tail =>
    rw [readPrimary_noOperand (.inr (.inr rfl))]
    rfl
termination_by 3 * tokens.length

end

theorem run_line (s : State) (tokens : List Token) : s.run (Token.line tokens) = s.run tokens := by
  induction tokens generalizing s with
  | nil => rfl
  | cons t tokens ih =>
    cases stop : t.isStop with
    | true => simp [Token.line, run, stop]
    | false =>
      have line : Token.line (t :: tokens) = t :: Token.line tokens := by simp [Token.line, stop]
      simp only [line, run, stop]
      cases s.next? t with
      | none => rfl
      | some s' => exact ih s'

theorem isEmpty_line (tokens : List Token) :
    (Token.line tokens).isEmpty = (found tokens).isStop := by
  cases tokens with
  | nil => rfl
  | cons t tokens => cases stop : t.isStop <;> simp [Token.line, found, stop]

/-- The reader and the automaton give the same answer. -/
theorem verdict_line (tokens : List Token) :
    verdict (Token.line tokens) = (ofTokens tokens).map fun _ => () := by
  rw [verdict, isEmpty_line, run_line, ofTokens_eq]
  split
  · rfl
  · rw [run_expression 0 tokens []]
    cases inside : readExpression 0 tokens with
    | error e => rfl
    | ok r =>
      change run ⟨.operator, []⟩ r.2 = Except.map _ (if _ then _ else _)
      rw [run_outside (below_zero_of_read inside)]
      split <;> rfl

theorem verdict_eq_error_iff {tokens : List Token} {error : SyntaxError} :
    verdict (Token.line tokens) = .error error ↔ ofTokens tokens = .error error := by
  rw [verdict_line]
  cases ofTokens tokens <;> simp [Except.map]

theorem exists_ofTokens_iff (tokens : List Token) :
    (∃ e, ofTokens tokens = .ok e) ↔ run {} (Token.line tokens) = .ok () := by
  have same : verdict (Token.line tokens) = .ok () ↔ run {} (Token.line tokens) = .ok () := by
    rw [verdict]
    cases Token.line tokens with
    | nil => exact ⟨nofun, nofun⟩
    | cons t line => rfl
  rw [← same, verdict_line]
  constructor
  · rintro ⟨e, h⟩
    rw [h]
    rfl
  · intro h
    obtain ⟨e, read, -⟩ := map_eq_ok h
    exact ⟨e, read⟩

theorem line_append {tokens : List Token} (h : ∀ t ∈ tokens, t.isStop = false)
    (more : List Token) : Token.line (tokens ++ more) = tokens ++ Token.line more :=
  List.takeWhile_append_of_pos fun t mem => by simp [h t mem]

@[simp] theorem after?_nil (s : State) : s.after? [] = some s := rfl

end Calculator.Automaton
