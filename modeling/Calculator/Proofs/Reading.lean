import Calculator.Proofs.Grammar
import Calculator.Proofs.Outcome

/-! The reader of expressions and the grammar. The functions of the reader carry a bound on the
tokens that they leave; `readExpression` and its companions are the same functions without it, and
everything about them follows from the equations below. A derivation is read as its tree
(`Sum.read`), and what is read has a derivation (`expression_derives`), so that the two agree on
every list of tokens (`ofTokens_eq_ok_iff`). -/
namespace Calculator.Expr

open Grammar

/-- A reading without the bound on its rest. -/
def forget {p : List Token → Prop}
    (reading : Except SyntaxError (Expr × { rest : List Token // p rest })) :
    Except SyntaxError (Expr × List Token) :=
  reading.map fun r => (r.1, r.2.val)

def readExpression (minimum : Nat) (tokens : List Token) := forget (expression minimum tokens)

def readOperators (minimum : Nat) (left : Expr) (tokens : List Token) :=
  forget (operators minimum left tokens)

def readOperand (tokens : List Token) := forget (operand tokens)

def readPrimary (tokens : List Token) := forget (primary tokens)

def readClose (unclosed : Token → SyntaxError) (inner : Expr) (tokens : List Token) :=
  forget (close unclosed inner tokens)

section Equations

variable {minimum : Nat} {left : Expr} {op : Operator} {f : Function} {tokens : List Token}

theorem readExpression_eq (minimum : Nat) (tokens : List Token) :
    readExpression minimum tokens =
      (readOperand tokens).bind fun r => readOperators minimum r.1 r.2 := by
  rw [readExpression, expression, readOperand]
  rcases operand tokens with e | ⟨left, rest, shorter⟩
  · rfl
  · dsimp only
    change _ = forget (operators minimum left rest)
    rcases operators minimum left rest with e | ⟨result, rest', le⟩ <;> rfl

theorem readOperators_operator (h : minimum ≤ op.precedence) :
    readOperators minimum left (.operator op :: tokens) =
      (readExpression (rightLevel op) tokens).bind fun r =>
        readOperators minimum (.binary op left r.1) r.2 := by
  rw [readOperators, operators, if_neg (Nat.not_lt_of_le h), readExpression]
  rcases expression (rightLevel op) tokens with e | ⟨right, rest, shorter⟩
  · rfl
  · dsimp only
    change _ = forget (operators minimum (.binary op left right) rest)
    rcases operators minimum (.binary op left right) rest with e | ⟨result, rest', le⟩ <;> rfl

theorem readOperators_below (h : Below minimum tokens) :
    readOperators minimum left tokens = .ok (left, tokens) := by
  rw [readOperators]
  unfold operators
  split
  · rename_i op rest
    rw [if_pos (h op rfl)]
    rfl
  · rfl

theorem readOperand_minus : readOperand (.operator .subtract :: tokens) =
    (readExpression 3 tokens).map fun r => (.negate r.1, r.2) := by
  change _ = (readExpression Operator.power.precedence tokens).map _
  rw [readOperand, operand, readExpression]
  rcases expression Operator.power.precedence tokens with e | ⟨inner, rest, shorter⟩ <;> rfl

theorem readOperand_primary (h : found tokens ≠ .operator .subtract) :
    readOperand tokens = readPrimary tokens := by
  rw [readOperand]
  unfold operand
  split
  · exact absurd rfl h
  · rfl

@[simp] theorem readPrimary_number (x : Float) :
    readPrimary (.number x :: tokens) = .ok (.number x, tokens) := by
  rw [readPrimary, primary]; rfl

@[simp] theorem readPrimary_constant (c : Constant) :
    readPrimary (.word (.constant c) :: tokens) = .ok (.constant c, tokens) := by
  rw [readPrimary, primary]; rfl

@[simp] theorem readPrimary_noArgument :
    readPrimary (.word (.function f) :: .opening :: .closing :: tokens) =
      .error (.expected (.argumentOf f) .closing) := by
  rw [readPrimary, primary]; rfl

@[simp] theorem readPrimary_emptyGroup :
    readPrimary (.opening :: .closing :: tokens) = .error (.expected .operand .closing) := by
  rw [readPrimary, primary]; rfl

theorem readPrimary_call (h : found tokens ≠ .closing) :
    readPrimary (.word (.function f) :: .opening :: tokens) =
      (readExpression 0 tokens).bind fun r =>
        readClose (.expected .closing) (.call f r.1) r.2 := by
  rw [readPrimary, primary, readExpression]
  · rcases expression 0 tokens with e | ⟨argument, rest, shorter⟩
    · rfl
    · dsimp only
      change _ = forget (close (.expected .closing) (.call f argument) rest)
      rcases close (.expected .closing) (.call f argument) rest with e | ⟨result, rest', le⟩ <;> rfl
  · rintro tail rfl
    exact h rfl

theorem readPrimary_group (h : found tokens ≠ .closing) :
    readPrimary (.opening :: tokens) =
      (readExpression 0 tokens).bind fun r => readClose unclosedGroup r.1 r.2 := by
  rw [readPrimary, primary, readExpression]
  · rcases expression 0 tokens with e | ⟨inner, rest, shorter⟩
    · rfl
    · dsimp only
      change _ = forget (close unclosedGroup inner rest)
      rcases close unclosedGroup inner rest with e | ⟨result, rest', le⟩ <;> rfl
  · rintro tail rfl
    exact h rfl

theorem readPrimary_name (h : found tokens ≠ .opening) :
    readPrimary (.word (.function f) :: tokens) =
      .error (.expected (.openingAfter f) (found tokens)) := by
  cases tokens with
  | nil => rw [readPrimary, primary] <;> simp [found, forget, Except.map]
  | cons t tokens =>
    cases t with
    | opening => exact absurd rfl h
    | _ => rw [readPrimary, primary] <;> simp [found, forget, Except.map]

theorem readPrimary_noOperand
    (h : (∃ op, found tokens = .operator op) ∨ found tokens = .closing ∨ found tokens = .stop) :
    readPrimary tokens = .error (.expected .operand (found tokens)) := by
  rw [readPrimary]
  unfold primary
  split <;> simp_all [found, forget, Except.map]

theorem readClose_unclosed {unclosed : Token → SyntaxError} {inner : Expr}
    (h : found tokens ≠ .closing) :
    readClose unclosed inner tokens = .error (unclosed (found tokens)) := by
  rw [readClose]
  unfold close
  split
  · exact absurd rfl h
  · rfl

end Equations

theorem length_of_forget {p : List Token → Prop}
    {reading : Except SyntaxError (Expr × { rest : List Token // p rest })} {e : Expr}
    {rest : List Token} (h : forget reading = .ok (e, rest)) : p rest := by
  obtain ⟨⟨_, rest', bound⟩, -, eq⟩ := map_eq_ok h
  obtain ⟨-, rfl⟩ := Prod.mk.inj eq
  exact bound

theorem length_readExpression {minimum : Nat} {tokens rest : List Token} {e : Expr}
    (h : readExpression minimum tokens = .ok (e, rest)) : rest.length < tokens.length :=
  length_of_forget h

theorem length_readOperand {tokens rest : List Token} {e : Expr}
    (h : readOperand tokens = .ok (e, rest)) : rest.length < tokens.length :=
  length_of_forget h

end Calculator.Expr

namespace Calculator.Grammar

open Calculator.Expr

theorem Primary.readOperand_eq (p : Primary) (rest : List Token) :
    readOperand (p.tokens ++ rest) = readPrimary (p.tokens ++ rest) := by
  obtain ⟨t, tail, eq, -, operator⟩ := p.tokens_eq_cons
  rw [eq]
  exact readOperand_primary (operator .subtract)

mutual

theorem Sum.read : (s : Sum) → ∀ ⦃minimum : Nat⦄ ⦃rest : List Token⦄, minimum ≤ 1 →
    Below 2 rest → readExpression minimum (s.tokens ++ rest) = readOperators minimum s.tree rest
  | .product p => fun _ _ le below => p.read (Nat.le_succ_of_le le) (below.mono (Nat.le_succ 2))
  | .step left op additive right => by
    intro minimum rest le below
    have precedence := precedence_of_additive additive
    have level : rightLevel op = 2 := by rcases additive with rfl | rfl <;> rfl
    rw [Sum.tokens, List.append_assoc, List.cons_append,
      left.read le (below_operator _ (by omega)), readOperators_operator (by omega), level,
      right.read (Nat.le_refl 2) (below.mono (Nat.le_succ 2)), readOperators_below below]
    rfl

theorem Product.read : (p : Product) → ∀ ⦃minimum : Nat⦄ ⦃rest : List Token⦄, minimum ≤ 2 →
    Below 3 rest → readExpression minimum (p.tokens ++ rest) = readOperators minimum p.tree rest
  | .signed u => fun _ _ le below => u.read (Nat.le_succ_of_le le) below
  | .step left op multiplicative right => by
    intro minimum rest le below
    have precedence := precedence_of_multiplicative multiplicative
    have level : rightLevel op = 3 := by rcases multiplicative with rfl | rfl <;> rfl
    rw [Product.tokens, List.append_assoc, List.cons_append,
      left.read le (below_operator _ (by omega)), readOperators_operator (by omega), level,
      right.read (Nat.le_refl 3) below, readOperators_below below]
    rfl

theorem Signed.read : (u : Signed) → ∀ ⦃minimum : Nat⦄ ⦃rest : List Token⦄, minimum ≤ 3 →
    Below 3 rest → readExpression minimum (u.tokens ++ rest) = readOperators minimum u.tree rest
  | .minus operand => by
    intro minimum rest le below
    rw [readExpression_eq, Signed.tokens, List.cons_append, readOperand_minus,
      operand.read (Nat.le_refl 3) below, readOperators_below below]
    rfl
  | .primary p => by
    intro minimum rest le below
    rw [readExpression_eq, Signed.tokens, p.readOperand_eq, p.read]
    rfl
  | .power base exponent => by
    intro minimum rest le below
    rw [readExpression_eq, Signed.tokens, List.append_assoc, base.readOperand_eq, base.read]
    change readOperators minimum base.tree (.operator .power :: (exponent.tokens ++ rest)) = _
    rw [readOperators_operator le, show rightLevel .power = 3 from rfl,
      exponent.read (Nat.le_refl 3) below, readOperators_below below]
    rfl

theorem Primary.read : (p : Primary) → ∀ rest,
    readPrimary (p.tokens ++ rest) = .ok (p.tree, rest)
  | .number x => fun _ => readPrimary_number x
  | .constant c => fun _ => readPrimary_constant c
  | .call f argument => by
    intro rest
    have inside : readExpression 0 (argument.tokens ++ .closing :: rest) =
        .ok (argument.tree, .closing :: rest) := by
      rw [argument.read (Nat.zero_le 1) (below_closing 2 rest),
        readOperators_below (below_closing 0 rest)]
    obtain ⟨t, tail, eq, closing⟩ := argument.tokens_eq_cons
    rw [Primary.tokens, List.cons_append, List.cons_append, List.append_assoc,
      readPrimary_call (by simpa [eq, found] using closing), List.singleton_append, inside]
    rfl
  | .group inner => by
    intro rest
    have inside : readExpression 0 (inner.tokens ++ .closing :: rest) =
        .ok (inner.tree, .closing :: rest) := by
      rw [inner.read (Nat.zero_le 1) (below_closing 2 rest),
        readOperators_below (below_closing 0 rest)]
    obtain ⟨t, tail, eq, closing⟩ := inner.tokens_eq_cons
    rw [Primary.tokens, List.cons_append, List.append_assoc,
      readPrimary_group (by simpa [eq, found] using closing), List.singleton_append, inside]
    rfl

end

end Calculator.Grammar

namespace Calculator.Expr

open Grammar

/-- The level of the grammar that the left operand of `op` has at least. -/
def leftLevel (op : Operator) : Nat :=
  if op.rightAssociative then op.precedence + 1 else op.precedence

/-- The tokens have a derivation of this level and the tree `e`. -/
def Derives (level : Nat) (tokens : List Token) (e : Expr) : Prop :=
  match level with
  | 0 | 1 => ∃ s : Sum, s.tokens = tokens ∧ s.tree = e
  | 2 => ∃ p : Product, p.tokens = tokens ∧ p.tree = e
  | 3 => ∃ u : Signed, u.tokens = tokens ∧ u.tree = e
  | _ => ∃ p : Primary, p.tokens = tokens ∧ p.tree = e

theorem Derives.primary (p : Primary) : Derives 4 p.tokens p.tree := ⟨p, rfl, rfl⟩

theorem Derives.pred {level : Nat} {tokens : List Token} {e : Expr}
    (h : Derives (level + 1) tokens e) : Derives level tokens e := by
  match level, h with
  | 0, h => exact h
  | 1, ⟨p, eq⟩ => exact ⟨.product p, eq⟩
  | 2, ⟨u, eq⟩ => exact ⟨.signed u, eq⟩
  | 3, ⟨p, eq⟩ => exact ⟨.primary p, eq⟩
  | _ + 4, h => exact h

theorem Derives.weaken {level level' : Nat} {tokens : List Token} {e : Expr} (le : level ≤ level')
    (h : Derives level' tokens e) : Derives level tokens e := by
  induction le with
  | refl => exact h
  | step _ ih => exact ih h.pred

theorem Derives.negate {tokens : List Token} {e : Expr} (h : Derives 3 tokens e) :
    Derives 3 (.operator .subtract :: tokens) (.negate e) := by
  obtain ⟨u, rfl, rfl⟩ := h
  exact ⟨.minus u, rfl, rfl⟩

/-- An operator joins operands of its two levels to an expression of the level of its precedence. -/
theorem Derives.binary {op : Operator} {lefts rights : List Token} {left right : Expr}
    (hl : Derives (leftLevel op) lefts left) (hr : Derives (rightLevel op) rights right) :
    Derives op.precedence (lefts ++ .operator op :: rights) (.binary op left right) := by
  cases op with
  | add | subtract =>
    obtain ⟨l, rfl, rfl⟩ := hl
    obtain ⟨r, rfl, rfl⟩ := hr
    exact ⟨.step l _ (by simp) r, rfl, rfl⟩
  | multiply | divide =>
    obtain ⟨l, rfl, rfl⟩ := hl
    obtain ⟨r, rfl, rfl⟩ := hr
    exact ⟨.step l _ (by simp) r, rfl, rfl⟩
  | power =>
    obtain ⟨l, rfl, rfl⟩ := hl
    obtain ⟨r, rfl, rfl⟩ := hr
    exact ⟨.power l r, rfl, rfl⟩

/-- Every operator in front of `tokens` takes an expression of `level` for its left operand. -/
def Admits (level : Nat) (tokens : List Token) : Prop :=
  ∀ op, found tokens = .operator op → leftLevel op ≤ level

theorem rightLevel_le_three (op : Operator) : rightLevel op ≤ 3 := by cases op <;> decide

theorem leftLevel_le_four (op : Operator) : leftLevel op ≤ 4 := by cases op <;> decide

/-- After the right operand of `op` stands no operator that could take this operand away. -/
theorem admits_of_below_rightLevel {op : Operator} {tokens : List Token}
    (below : Below (rightLevel op) tokens) : Admits op.precedence tokens := by
  intro other first
  have := below other first
  revert this
  cases op <;> cases other <;> decide

theorem admits_three_of_below {tokens : List Token} (below : Below 3 tokens) :
    Admits 3 tokens := by
  intro op first
  have := below op first
  revert this
  cases op <;> decide

theorem close_derives {unclosed : Token → SyntaxError} {inner e : Expr} {tokens rest : List Token}
    (h : readClose unclosed inner tokens = .ok (e, rest)) :
    tokens = .closing :: rest ∧ inner = e := by
  by_cases closing : found tokens = .closing
  · cases tokens with
    | nil => cases closing
    | cons t tail =>
      obtain rfl : t = .closing := closing
      cases h
      exact ⟨rfl, rfl⟩
  · rw [readClose_unclosed closing] at h
    cases h

mutual

theorem expression_derives {minimum : Nat} {tokens rest : List Token} {e : Expr} (le : minimum ≤ 3)
    (h : readExpression minimum tokens = .ok (e, rest)) :
    ∃ read, tokens = read ++ rest ∧ Derives minimum read e ∧ Below minimum rest := by
  rw [readExpression_eq] at h
  obtain ⟨⟨left, middle⟩, first, loop⟩ := bind_eq_ok h
  have shorter := length_readOperand first
  obtain ⟨level, read, eq, three, derives, admits⟩ := operand_derives first
  obtain ⟨all, split, whole⟩ := operators_derives (Nat.le_trans le three) derives admits loop
  exact ⟨all, eq.trans split, whole⟩
termination_by 3 * tokens.length + 2

/-- The invariant of the loop: `before` has been read as `left`, an expression of `level`. -/
theorem operators_derives {minimum level : Nat} {left e : Expr} {before tokens rest : List Token}
    (le : minimum ≤ level) (derives : Derives level before left) (admits : Admits level tokens)
    (h : readOperators minimum left tokens = .ok (e, rest)) :
    ∃ read, before ++ tokens = read ++ rest ∧ Derives minimum read e ∧ Below minimum rest := by
  by_cases below : Below minimum tokens
  · rw [readOperators_below below] at h
    cases h
    exact ⟨before, rfl, derives.weaken le, below⟩
  · obtain ⟨op, tail, eq, binds⟩ := exists_operator_of_not_below below
    have consumed : tokens.length = tail.length + 1 := congrArg List.length eq
    rw [eq, readOperators_operator binds] at h
    obtain ⟨⟨right, middle⟩, operand, loop⟩ := bind_eq_ok h
    have shorter := length_readExpression operand
    obtain ⟨read, eqTail, derivesRight, belowRight⟩ :=
      expression_derives (rightLevel_le_three op) operand
    have derivesLeft := derives.weaken (admits op (by rw [eq]; rfl))
    obtain ⟨all, split, whole⟩ := operators_derives binds (derivesLeft.binary derivesRight)
      (admits_of_below_rightLevel belowRight) loop
    exact ⟨all, by simpa [eq, eqTail] using split, whole⟩
termination_by 3 * tokens.length

theorem operand_derives {tokens rest : List Token} {e : Expr}
    (h : readOperand tokens = .ok (e, rest)) :
    ∃ level read, tokens = read ++ rest ∧ 3 ≤ level ∧ Derives level read e ∧ Admits level rest := by
  by_cases minus : found tokens = .operator .subtract
  · obtain ⟨tail, eq⟩ := exists_tail_of_found minus (by simp)
    have consumed : tokens.length = tail.length + 1 := congrArg List.length eq
    rw [eq, readOperand_minus] at h
    obtain ⟨⟨inner, rest'⟩, operand, same⟩ := map_eq_ok h
    obtain ⟨rfl, rfl⟩ := Prod.mk.inj same
    obtain ⟨read, eqTail, derives, below⟩ := expression_derives (Nat.le_refl 3) operand
    exact ⟨3, .operator .subtract :: read, by rw [eq, eqTail]; rfl, Nat.le_refl 3, derives.negate,
      admits_three_of_below below⟩
  · rw [readOperand_primary minus] at h
    obtain ⟨p, eq, rfl⟩ := primary_derives h
    exact ⟨4, p.tokens, eq, Nat.le_succ 3, .primary p, fun op _ => leftLevel_le_four op⟩
termination_by 3 * tokens.length + 1

theorem primary_derives {tokens rest : List Token} {e : Expr}
    (h : readPrimary tokens = .ok (e, rest)) :
    ∃ p : Primary, tokens = p.tokens ++ rest ∧ p.tree = e := by
  match tokens, h with
  | .number x :: tail, h =>
    rw [readPrimary_number] at h
    cases h
    exact ⟨.number x, rfl, rfl⟩
  | .word (.constant c) :: tail, h =>
    rw [readPrimary_constant] at h
    cases h
    exact ⟨.constant c, rfl, rfl⟩
  | .word (.function f) :: tail, h =>
    by_cases opening : found tail = .opening
    · obtain ⟨after, eq⟩ := exists_tail_of_found opening (by simp)
      have consumed : tail.length = after.length + 1 := congrArg List.length eq
      rw [eq] at h
      by_cases closing : found after = .closing
      · obtain ⟨after, rfl⟩ := exists_tail_of_found closing (by simp)
        rw [readPrimary_noArgument] at h
        cases h
      · rw [readPrimary_call closing] at h
        obtain ⟨⟨argument, middle⟩, inside, closes⟩ := bind_eq_ok h
        obtain ⟨read, split, ⟨s, rfl, rfl⟩, -⟩ := expression_derives (Nat.zero_le 3) inside
        obtain ⟨rfl, rfl⟩ := close_derives closes
        exact ⟨.call f s, by simp [Primary.tokens, eq, split], rfl⟩
    · rw [readPrimary_name opening] at h
      cases h
  | .opening :: tail, h =>
    by_cases closing : found tail = .closing
    · obtain ⟨after, rfl⟩ := exists_tail_of_found closing (by simp)
      rw [readPrimary_emptyGroup] at h
      cases h
    · rw [readPrimary_group closing] at h
      obtain ⟨⟨inner, middle⟩, inside, closes⟩ := bind_eq_ok h
      obtain ⟨read, split, ⟨s, rfl, rfl⟩, -⟩ := expression_derives (Nat.zero_le 3) inside
      obtain ⟨rfl, rfl⟩ := close_derives closes
      exact ⟨.group s, by simp [Primary.tokens, split], rfl⟩
  | .operator op :: tail, h =>
    rw [readPrimary_noOperand (.inl ⟨op, rfl⟩)] at h
    cases h
  | .closing :: tail, h =>
    rw [readPrimary_noOperand (.inr (.inl rfl))] at h
    cases h
  | [], h | .stop :: tail, h =>
    rw [readPrimary_noOperand (.inr (.inr rfl))] at h
    cases h
termination_by 3 * tokens.length

end

/-- The expression of a line is found at its end, or at the first stop mark. -/
theorem ofTokens_eq (tokens : List Token) :
    ofTokens tokens =
      if (found tokens).isStop then .error .empty
      else
        (readExpression 0 tokens).bind fun r =>
          if (found r.2).isStop then .ok r.1 else .error (leftOver (found r.2)) := by
  rw [ofTokens, readExpression]
  split
  · rfl
  · rcases expression 0 tokens with e | ⟨result, rest, shorter⟩ <;> rfl

end Calculator.Expr
