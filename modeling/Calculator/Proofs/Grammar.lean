import Calculator.Expr.Reading

/-! The grammar of expressions, with a type for each of its four levels. A `Sum` is the derivation
of a whole line, parentheses included: `tokens` is the line that it derives, `tree` the expression
without the parentheses. No line has two derivations (`Sum.tokens_injective`): a sum or product is
its first part and the steps after it, and a part in front of a line is determined when the line
goes on with an operator that does not belong to it (`Cancels`). -/
namespace Calculator.Grammar

mutual

/-- Products with plus and minus between them. -/
inductive Sum where
  | product (p : Product)
  | step (left : Sum) (op : Operator) (additive : op = .add ∨ op = .subtract) (right : Product)

/-- Signed operands with times and divided by between them. -/
inductive Product where
  | signed (u : Signed)
  | step (left : Product) (op : Operator) (multiplicative : op = .multiply ∨ op = .divide)
    (right : Signed)

/-- Powers, with the minuses in front of them. -/
inductive Signed where
  | minus (operand : Signed)
  | primary (p : Primary)
  | power (base : Primary) (exponent : Signed)

inductive Primary where
  | number (x : Float)
  | constant (c : Constant)
  | call (f : Function) (argument : Sum)
  | group (inner : Sum)

end

mutual

def Sum.tokens : Sum → List Token
  | .product p => p.tokens
  | .step left op _ right => left.tokens ++ .operator op :: right.tokens

def Product.tokens : Product → List Token
  | .signed u => u.tokens
  | .step left op _ right => left.tokens ++ .operator op :: right.tokens

def Signed.tokens : Signed → List Token
  | .minus operand => .operator .subtract :: operand.tokens
  | .primary p => p.tokens
  | .power base exponent => base.tokens ++ .operator .power :: exponent.tokens

def Primary.tokens : Primary → List Token
  | .number x => [.number x]
  | .constant c => [.word (.constant c)]
  | .call f argument => .word (.function f) :: .opening :: (argument.tokens ++ [.closing])
  | .group inner => .opening :: (inner.tokens ++ [.closing])

end

mutual

def Sum.tree : Sum → Expr
  | .product p => p.tree
  | .step left op _ right => .binary op left.tree right.tree

def Product.tree : Product → Expr
  | .signed u => u.tree
  | .step left op _ right => .binary op left.tree right.tree

def Signed.tree : Signed → Expr
  | .minus operand => .negate operand.tree
  | .primary p => p.tree
  | .power base exponent => .binary .power base.tree exponent.tree

/-- Parentheses leave no trace in the tree. -/
def Primary.tree : Primary → Expr
  | .number x => .number x
  | .constant c => .constant c
  | .call f argument => .call f argument.tree
  | .group inner => inner.tree

end

theorem precedence_of_additive {op : Operator} (h : op = .add ∨ op = .subtract) :
    op.precedence = 1 := by
  rcases h with rfl | rfl <;> rfl

theorem precedence_of_multiplicative {op : Operator} (h : op = .multiply ∨ op = .divide) :
    op.precedence = 2 := by
  rcases h with rfl | rfl <;> rfl

/-- An operator in front of `tokens` binds less tightly than `level`. -/
def Below (level : Nat) (tokens : List Token) : Prop :=
  ∀ op, Expr.found tokens = .operator op → op.precedence < level

theorem Below.mono {level level' : Nat} {tokens : List Token} (h : Below level tokens)
    (le : level ≤ level') : Below level' tokens :=
  fun op first => Nat.lt_of_lt_of_le (h op first) le

theorem below_operator {level : Nat} {op : Operator} (tokens : List Token)
    (h : op.precedence < level) : Below level (.operator op :: tokens) := by
  intro other first
  obtain rfl : op = other := Token.operator.inj first
  exact h

theorem below_closing (level : Nat) (tokens : List Token) : Below level (.closing :: tokens) := by
  intro op first
  simp [Expr.found] at first

theorem not_below_operator {level : Nat} {op : Operator} {tokens : List Token}
    (h : level ≤ op.precedence) : ¬Below level (.operator op :: tokens) :=
  fun below => Nat.not_lt_of_le h (below op rfl)

theorem exists_tail_of_found {tokens : List Token} {t : Token} (h : Expr.found tokens = t)
    (some : t ≠ .stop) : ∃ tail, tokens = t :: tail := by
  cases tokens with
  | nil => exact absurd h.symm some
  | cons first tail => exact ⟨tail, congrArg (· :: tail) h⟩

theorem exists_operator_of_not_below {level : Nat} {tokens : List Token}
    (h : ¬Below level tokens) :
    ∃ op rest, tokens = .operator op :: rest ∧ level ≤ op.precedence := by
  simp only [Below, Classical.not_forall, Nat.not_lt] at h
  obtain ⟨op, first, le⟩ := h
  obtain ⟨rest, eq⟩ := exists_tail_of_found first (by simp)
  exact ⟨op, rest, eq, le⟩

theorem Primary.tokens_eq_cons (p : Primary) :
    ∃ t rest, p.tokens = t :: rest ∧ t ≠ .closing ∧ ∀ op, t ≠ .operator op := by
  cases p <;> exact ⟨_, _, rfl, by simp, by simp⟩

theorem Signed.tokens_eq_cons : (u : Signed) → ∃ t rest, u.tokens = t :: rest ∧ t ≠ .closing
  | .minus _ => ⟨_, _, rfl, by simp⟩
  | .primary p => by
    obtain ⟨t, rest, eq, closing, -⟩ := p.tokens_eq_cons
    exact ⟨t, rest, eq, closing⟩
  | .power base exponent => by
    obtain ⟨t, rest, eq, closing, -⟩ := base.tokens_eq_cons
    exact ⟨t, rest ++ .operator .power :: exponent.tokens, by simp [Signed.tokens, eq], closing⟩

theorem Product.tokens_eq_cons : (p : Product) → ∃ t rest, p.tokens = t :: rest ∧ t ≠ .closing
  | .signed u => u.tokens_eq_cons
  | .step left op _ right => by
    obtain ⟨t, rest, eq, closing⟩ := left.tokens_eq_cons
    exact ⟨t, rest ++ .operator op :: right.tokens, by simp [Product.tokens, eq], closing⟩

theorem Sum.tokens_eq_cons : (s : Sum) → ∃ t rest, s.tokens = t :: rest ∧ t ≠ .closing
  | .product p => p.tokens_eq_cons
  | .step left op _ right => by
    obtain ⟨t, rest, eq, closing⟩ := left.tokens_eq_cons
    exact ⟨t, rest ++ .operator op :: right.tokens, by simp [Sum.tokens, eq], closing⟩

mutual

theorem Sum.not_stop : (s : Sum) → ∀ t ∈ s.tokens, t.isStop = false
  | .product p => p.not_stop
  | .step left op _ right => by
    have := left.not_stop
    have := right.not_stop
    simp_all [Sum.tokens, Token.isStop, or_imp]

theorem Product.not_stop : (p : Product) → ∀ t ∈ p.tokens, t.isStop = false
  | .signed u => u.not_stop
  | .step left op _ right => by
    have := left.not_stop
    have := right.not_stop
    simp_all [Product.tokens, Token.isStop, or_imp]

theorem Signed.not_stop : (u : Signed) → ∀ t ∈ u.tokens, t.isStop = false
  | .minus operand => by
    have := operand.not_stop
    simp_all [Signed.tokens, Token.isStop, or_imp]
  | .primary p => p.not_stop
  | .power base exponent => by
    have := base.not_stop
    have := exponent.not_stop
    simp_all [Signed.tokens, Token.isStop, or_imp]

theorem Primary.not_stop : (p : Primary) → ∀ t ∈ p.tokens, t.isStop = false
  | .number _ | .constant _ => by simp [Primary.tokens, Token.isStop]
  | .call _ argument => by
    have := argument.not_stop
    simp_all [Primary.tokens, Token.isStop, or_imp]
  | .group inner => by
    have := inner.not_stop
    simp_all [Primary.tokens, Token.isStop, or_imp]

end

/-- The tokens of the operators and operands after a first part. -/
def stepTokens {α : Type} (tokensOf : α → List Token) (steps : List (Operator × α)) : List Token :=
  steps.flatMap fun step => .operator step.1 :: tokensOf step.2

/-- No other part stands in front of a line that starts with the tokens of `a`, as long as the line
does not go on with an operator of `level`. -/
def Cancels {α : Type} (level : Nat) (tokensOf : α → List Token) (a : α) : Prop :=
  ∀ a' rest rest', Below level rest → Below level rest' →
    tokensOf a ++ rest = tokensOf a' ++ rest' → a = a' ∧ rest = rest'

theorem below_stepTokens {α : Type} {tokensOf : α → List Token} {level : Nat}
    {steps : List (Operator × α)} {rest : List Token}
    (chain : ∀ step ∈ steps, step.1.precedence = level) (below : Below level rest) :
    Below (level + 1) (stepTokens tokensOf steps ++ rest) := by
  cases steps with
  | nil => exact below.mono (Nat.le_succ level)
  | cons step steps =>
    have := chain step (by simp)
    exact below_operator _ (by omega)

theorem cancel_steps {α : Type} {tokensOf : α → List Token} {level : Nat}
    {steps steps' : List (Operator × α)} {rest rest' : List Token}
    (parts : ∀ step ∈ steps, Cancels (level + 1) tokensOf step.2)
    (chain : ∀ step ∈ steps, step.1.precedence = level)
    (chain' : ∀ step ∈ steps', step.1.precedence = level)
    (below : Below level rest) (below' : Below level rest')
    (same : stepTokens tokensOf steps ++ rest = stepTokens tokensOf steps' ++ rest') :
    steps = steps' ∧ rest = rest' := by
  induction steps generalizing steps' with
  | nil =>
    cases steps' with
    | nil => exact ⟨rfl, same⟩
    | cons step' steps' =>
      have operator : rest = .operator step'.1 :: _ := same
      rw [operator] at below
      exact absurd below (not_below_operator (Nat.le_of_eq (chain' step' (by simp)).symm))
  | cons step steps ih =>
    cases steps' with
    | nil =>
      have operator : rest' = .operator step.1 :: _ := same.symm
      rw [operator] at below'
      exact absurd below' (not_below_operator (Nat.le_of_eq (chain step (by simp)).symm))
    | cons step' steps' =>
      obtain ⟨op, a⟩ := step
      obtain ⟨op', a'⟩ := step'
      simp only [List.forall_mem_cons] at parts chain chain'
      simp only [stepTokens, List.flatMap_cons, List.cons_append, List.append_assoc,
        List.cons.injEq, Token.operator.injEq] at same
      obtain ⟨rfl, operands⟩ := same
      obtain ⟨rfl, remaining⟩ := parts.1 a' _ _ (below_stepTokens chain.2 below)
        (below_stepTokens chain'.2 below') operands
      obtain ⟨rfl, rests⟩ := ih parts.2 chain.2 chain'.2 remaining
      exact ⟨rfl, rests⟩

/-- A chain is determined if its parts are: the first, and then the others step by step. -/
theorem cancels_of_steps {α β : Type} {tokensOf : α → List Token} {partTokens : β → List Token}
    {level : Nat} {first : α → β} {steps : α → List (Operator × β)}
    (eqSteps : ∀ a, tokensOf a = partTokens (first a) ++ stepTokens partTokens (steps a))
    (chain : ∀ a, ∀ step ∈ steps a, step.1.precedence = level)
    (eqOfSteps : ∀ a a', first a = first a' → steps a = steps a' → a = a') (a : α)
    (parts : ∀ b, b = first a ∨ b ∈ (steps a).map Prod.snd → Cancels (level + 1) partTokens b) :
    Cancels level tokensOf a := by
  intro a' rest rest' below below' same
  rw [eqSteps, eqSteps, List.append_assoc, List.append_assoc] at same
  obtain ⟨firsts, same⟩ := parts (first a) (.inl rfl) _ _ _ (below_stepTokens (chain a) below)
    (below_stepTokens (chain a') below') same
  obtain ⟨others, same⟩ := cancel_steps
    (fun step mem => parts step.2 (.inr (List.mem_map_of_mem mem)))
    (chain a) (chain a') below below' same
  exact ⟨eqOfSteps a a' firsts others, same⟩

def Sum.first : Sum → Product
  | .product p => p
  | .step left _ _ _ => left.first

def Sum.steps : Sum → List (Operator × Product)
  | .product _ => []
  | .step left op _ right => left.steps ++ [(op, right)]

def Product.first : Product → Signed
  | .signed u => u
  | .step left _ _ _ => left.first

def Product.steps : Product → List (Operator × Signed)
  | .signed _ => []
  | .step left op _ right => left.steps ++ [(op, right)]

theorem Sum.tokens_eq_steps : (s : Sum) →
    s.tokens = s.first.tokens ++ stepTokens Product.tokens s.steps
  | .product p => by simp [Sum.tokens, Sum.first, Sum.steps, stepTokens]
  | .step left op _ right => by
    simp [Sum.tokens, Sum.first, Sum.steps, stepTokens, left.tokens_eq_steps]

theorem Product.tokens_eq_steps : (p : Product) →
    p.tokens = p.first.tokens ++ stepTokens Signed.tokens p.steps
  | .signed u => by simp [Product.tokens, Product.first, Product.steps, stepTokens]
  | .step left op _ right => by
    simp [Product.tokens, Product.first, Product.steps, stepTokens, left.tokens_eq_steps]

theorem Sum.precedence_steps : (s : Sum) → ∀ step ∈ s.steps, step.1.precedence = 1
  | .product _ => by simp [Sum.steps]
  | .step left op additive right => by
    intro step mem
    rcases List.mem_append.1 mem with mem | mem
    · exact left.precedence_steps step mem
    · rw [List.mem_singleton.1 mem]
      exact precedence_of_additive additive

theorem Product.precedence_steps : (p : Product) → ∀ step ∈ p.steps, step.1.precedence = 2
  | .signed _ => by simp [Product.steps]
  | .step left op multiplicative right => by
    intro step mem
    rcases List.mem_append.1 mem with mem | mem
    · exact left.precedence_steps step mem
    · rw [List.mem_singleton.1 mem]
      exact precedence_of_multiplicative multiplicative

theorem Sum.eq_of_steps : (s s' : Sum) → s.first = s'.first → s.steps = s'.steps → s = s'
  | .product _, .product _, first, _ => congrArg Sum.product first
  | .product _, .step .., _, steps => by simp [Sum.steps] at steps
  | .step .., .product _, _, steps => by simp [Sum.steps] at steps
  | .step left op _ right, .step left' op' _ right', first, steps => by
    obtain ⟨before, last⟩ := List.append_inj' steps rfl
    obtain ⟨rfl, rfl⟩ : op = op' ∧ right = right' := by simpa using last
    obtain rfl := left.eq_of_steps left' first before
    rfl

theorem Product.eq_of_steps : (p p' : Product) → p.first = p'.first → p.steps = p'.steps → p = p'
  | .signed _, .signed _, first, _ => congrArg Product.signed first
  | .signed _, .step .., _, steps => by simp [Product.steps] at steps
  | .step .., .signed _, _, steps => by simp [Product.steps] at steps
  | .step left op _ right, .step left' op' _ right', first, steps => by
    obtain ⟨before, last⟩ := List.append_inj' steps rfl
    obtain ⟨rfl, rfl⟩ : op = op' ∧ right = right' := by simpa using last
    obtain rfl := left.eq_of_steps left' first before
    rfl

theorem Sum.cancels_of_parts (s : Sum)
    (parts : ∀ p, p = s.first ∨ p ∈ s.steps.map Prod.snd → Cancels 2 Product.tokens p) :
    Cancels 1 Sum.tokens s :=
  cancels_of_steps Sum.tokens_eq_steps Sum.precedence_steps Sum.eq_of_steps s parts

theorem Product.cancels_of_parts (p : Product)
    (parts : ∀ u, u = p.first ∨ u ∈ p.steps.map Prod.snd → Cancels 3 Signed.tokens u) :
    Cancels 2 Product.tokens p :=
  cancels_of_steps Product.tokens_eq_steps Product.precedence_steps Product.eq_of_steps p parts

theorem Sum.mem_parts_step {p : Product} {left : Sum} {op : Operator} {right : Product} {h}
    (mem : p = (Sum.step left op h right).first ∨
      p ∈ (Sum.step left op h right).steps.map Prod.snd) :
    (p = left.first ∨ p ∈ left.steps.map Prod.snd) ∨ p = right := by
  simpa [Sum.first, Sum.steps, or_assoc] using mem

theorem Product.mem_parts_step {u : Signed} {left : Product} {op : Operator} {right : Signed} {h}
    (mem : u = (Product.step left op h right).first ∨
      u ∈ (Product.step left op h right).steps.map Prod.snd) :
    (u = left.first ∨ u ∈ left.steps.map Prod.snd) ∨ u = right := by
  simpa [Product.first, Product.steps, or_assoc] using mem

mutual

theorem Sum.cancels_parts : (s : Sum) → ∀ p, p = s.first ∨ p ∈ s.steps.map Prod.snd →
    Cancels 2 Product.tokens p
  | .product p => by
    have whole := p.cancels_of_parts p.cancels_parts
    rintro first (rfl | none)
    · exact whole
    · simp [Sum.steps] at none
  | .step left op _ right => by
    have last := right.cancels_of_parts right.cancels_parts
    intro p mem
    rcases Sum.mem_parts_step mem with mem | rfl
    · exact left.cancels_parts p mem
    · exact last

theorem Product.cancels_parts : (p : Product) → ∀ u, u = p.first ∨ u ∈ p.steps.map Prod.snd →
    Cancels 3 Signed.tokens u
  | .signed u => by
    have whole := u.cancels
    rintro first (rfl | none)
    · exact whole
    · simp [Product.steps] at none
  | .step left op _ right => by
    have last := right.cancels
    intro u mem
    rcases Product.mem_parts_step mem with mem | rfl
    · exact left.cancels_parts u mem
    · exact last

theorem Signed.cancels : (u : Signed) → Cancels 3 Signed.tokens u
  | .minus operand => by
    intro u' rest rest' below below' same
    cases u' with
    | minus operand' =>
      obtain ⟨rfl, rests⟩ := operand.cancels operand' rest rest' below below' (List.cons.inj same).2
      exact ⟨rfl, rests⟩
    | primary p' =>
      obtain ⟨t, tail, eq, -, operator⟩ := p'.tokens_eq_cons
      simp only [Signed.tokens, eq, List.cons_append, List.cons.injEq] at same
      exact absurd same.1.symm (operator .subtract)
    | power base' exponent' =>
      obtain ⟨t, tail, eq, -, operator⟩ := base'.tokens_eq_cons
      simp only [Signed.tokens, eq, List.cons_append, List.cons.injEq] at same
      exact absurd same.1.symm (operator .subtract)
  | .primary p => by
    intro u' rest rest' below below' same
    cases u' with
    | minus operand' =>
      obtain ⟨t, tail, eq, -, operator⟩ := p.tokens_eq_cons
      simp only [Signed.tokens, eq, List.cons_append, List.cons.injEq] at same
      exact absurd same.1 (operator .subtract)
    | primary p' =>
      obtain ⟨rfl, rests⟩ := p.cancel p' rest rest' same
      exact ⟨rfl, rests⟩
    | power base' exponent' =>
      simp only [Signed.tokens, List.append_assoc] at same
      obtain ⟨rfl, rfl⟩ := p.cancel base' _ _ same
      exact absurd below (not_below_operator (Nat.le_refl 3))
  | .power base exponent => by
    intro u' rest rest' below below' same
    cases u' with
    | minus operand' =>
      obtain ⟨t, tail, eq, -, operator⟩ := base.tokens_eq_cons
      simp only [Signed.tokens, eq, List.cons_append, List.cons.injEq] at same
      exact absurd same.1 (operator .subtract)
    | primary p' =>
      simp only [Signed.tokens, List.append_assoc] at same
      obtain ⟨rfl, rfl⟩ := base.cancel p' _ _ same
      exact absurd below' (not_below_operator (Nat.le_refl 3))
    | power base' exponent' =>
      simp only [Signed.tokens, List.append_assoc] at same
      obtain ⟨rfl, exponents⟩ := base.cancel base' _ _ same
      obtain ⟨rfl, rests⟩ :=
        exponent.cancels exponent' rest rest' below below' (List.cons.inj exponents).2
      exact ⟨rfl, rests⟩

theorem Primary.cancel : (p : Primary) → ∀ p' rest rest', p.tokens ++ rest = p'.tokens ++ rest' →
    p = p' ∧ rest = rest'
  | .number x => by
    intro p' rest rest' same
    cases p' <;> simp_all [Primary.tokens]
  | .constant c => by
    intro p' rest rest' same
    cases p' <;> simp_all [Primary.tokens]
  | .call f argument => by
    intro p' rest rest' same
    cases p' with
    | call f' argument' =>
      simp only [Primary.tokens, List.cons_append, List.append_assoc, List.nil_append,
        List.cons.injEq, Token.word.injEq, Word.function.injEq, true_and] at same
      obtain ⟨rfl, arguments⟩ := same
      obtain ⟨rfl, rests⟩ := argument.cancels_of_parts argument.cancels_parts argument' _ _
        (below_closing 1 rest) (below_closing 1 rest') arguments
      exact ⟨rfl, (List.cons.inj rests).2⟩
    | number | constant | group => simp [Primary.tokens] at same
  | .group inner => by
    intro p' rest rest' same
    cases p' with
    | group inner' =>
      simp only [Primary.tokens, List.cons_append, List.append_assoc, List.nil_append,
        List.cons.injEq, true_and] at same
      obtain ⟨rfl, rests⟩ := inner.cancels_of_parts inner.cancels_parts inner' _ _
        (below_closing 1 rest) (below_closing 1 rest') same
      exact ⟨rfl, (List.cons.inj rests).2⟩
    | number | constant | call => simp [Primary.tokens] at same

end

/-- The grammar is unambiguous: a line determines its derivation. -/
theorem Sum.tokens_injective {s s' : Sum} (same : s.tokens = s'.tokens) : s = s' :=
  have none : Below 1 [] := fun _ first => nomatch first
  (s.cancels_of_parts s.cancels_parts s' [] [] none none (by rw [same])).1

end Calculator.Grammar
