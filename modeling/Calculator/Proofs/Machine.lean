import Calculator.Expr.Postfix
import Calculator.Proofs.Finiteness

/-! Expressions on a stack machine. The postfix code of a tree, run from the left, ends with the
value of the tree alone on the stack or stops at the first instruction that fails, which is the
instruction of the first node without a value. -/
namespace Calculator

/-- Why a machine stops before the end of its code. -/
inductive Halt where
  | underflow
  | failed (e : EvalError)
  deriving DecidableEq

namespace Instruction

variable {lib : Elementary} {unit : AngleUnit}

def push (stack : List Float) (result : Except EvalError Float) : Except Halt (List Float) :=
  (result.mapError .failed).map (· :: stack)

/-- The stack after an instruction. The right operand of an operation lies on the left one. -/
def execute (lib : Elementary) (unit : AngleUnit) :
    Instruction → List Float → Except Halt (List Float)
  | .number x, stack => push stack (finite .literal x)
  | .constant c, stack => push stack (.ok c.value)
  | .negate, x :: stack => push stack (.ok (-x))
  | .binary op, b :: a :: stack => push stack (op.apply lib a b)
  | .call f, x :: stack => push stack (f.apply lib unit x)
  | _, _ => .error .underflow

/-- The stack after all instructions of a piece of code, unless one of them fails. -/
def run (lib : Elementary) (unit : AngleUnit) :
    List Instruction → List Float → Except Halt (List Float)
  | [], stack => .ok stack
  | i :: code, stack => (i.execute lib unit stack).bind (run lib unit code)

theorem push_bind (stack : List Float) (result : Except EvalError Float)
    (next : List Float → Except Halt (List Float)) :
    (push stack result).bind next = (result.mapError .failed).bind fun x => next (x :: stack) := by
  cases result <;> rfl

/-- The code of a tree puts its value on the stack, whatever code follows. -/
theorem run_postfixCode (e : Expr) (code : List Instruction) (stack : List Float) :
    run lib unit (e.postfixCode ++ code) stack =
      ((e.value lib unit).mapError .failed).bind fun x => run lib unit code (x :: stack) := by
  induction e generalizing code stack with
  | number x => exact push_bind stack (finite .literal x) (run lib unit code)
  | constant c => rfl
  | negate operand ih =>
    rw [Expr.postfixCode, List.append_assoc, ih, Expr.value_negate]
    cases operand.value lib unit <;> rfl
  | binary op left right ihl ihr =>
    rw [Expr.postfixCode, List.append_assoc, List.append_assoc, ihl, Expr.value_binary]
    cases left.value lib unit with
    | error fault => rfl
    | ok a =>
      change run lib unit (right.postfixCode ++ ([.binary op] ++ code)) (a :: stack) = _
      rw [ihr]
      cases right.value lib unit with
      | error fault => rfl
      | ok b => exact push_bind stack (op.apply lib a b) (run lib unit code)
  | call f argument ih =>
    rw [Expr.postfixCode, List.append_assoc, ih, Expr.value_call]
    cases argument.value lib unit with
    | error fault => rfl
    | ok x => exact push_bind stack (f.apply lib unit x) (run lib unit code)

end Instruction

namespace Expr

variable {lib : Elementary} {unit : AngleUnit}

def instruction : Expr → Instruction
  | .number x => .number x
  | .constant c => .constant c
  | .negate _ => .negate
  | .binary op _ _ => .binary op
  | .call f _ => .call f

/-- Nodes and instructions are in the same order. -/
theorem postfixCode_eq_map_nodes (e : Expr) : e.postfixCode = e.nodes.map instruction := by
  induction e <;> simp_all [postfixCode, nodes, instruction]

def firstFailing? (lib : Elementary) (unit : AngleUnit) (e : Expr) : Option Expr :=
  e.nodes.find? fun p => !(p.value lib unit).isOk

/-- A node fails while its operands have values. -/
inductive Fails (lib : Elementary) (unit : AngleUnit) : Expr → EvalError → Prop
  | number {x : Float} {fault : EvalError} (h : finite .literal x = .error fault) :
    Fails lib unit (.number x) fault
  | binary {op : Operator} {left right : Expr} {a b : Float} {fault : EvalError}
    (leftValue : left.value lib unit = .ok a) (rightValue : right.value lib unit = .ok b)
    (h : op.apply lib a b = .error fault) : Fails lib unit (.binary op left right) fault
  | call {f : Function} {argument : Expr} {x : Float} {fault : EvalError}
    (value : argument.value lib unit = .ok x) (h : f.apply lib unit x = .error fault) :
    Fails lib unit (.call f argument) fault

theorem Fails.value {e : Expr} {fault : EvalError} (h : Fails lib unit e fault) :
    e.value lib unit = .error fault := by
  cases h with
  | number h => exact h
  | binary leftValue rightValue h =>
    rw [value_binary, leftValue, rightValue]
    exact h
  | call value h =>
    rw [value_call, value]
    exact h

def itself? (lib : Elementary) (unit : AngleUnit) (e : Expr) : Option Expr :=
  if (e.value lib unit).isOk then none else some e

theorem itself?_of_ok {e : Expr} {x : Float} (h : e.value lib unit = .ok x) :
    e.itself? lib unit = none := by
  rw [itself?, h]
  rfl

theorem itself?_of_fails {e : Expr} {fault : EvalError} (h : Fails lib unit e fault) :
    e.itself? lib unit = some e := by
  rw [itself?, h.value]
  rfl

theorem find?_singleton (e : Expr) :
    [e].find? (fun p => !(p.value lib unit).isOk) = e.itself? lib unit := by
  rw [itself?, List.find?_singleton]
  cases (e.value lib unit).isOk <;> rfl

theorem firstFailing?_negate (operand : Expr) :
    (negate operand).firstFailing? lib unit =
      (operand.firstFailing? lib unit).or ((negate operand).itself? lib unit) := by
  rw [firstFailing?, nodes, List.find?_append, find?_singleton, firstFailing?]

theorem firstFailing?_binary (op : Operator) (left right : Expr) :
    (binary op left right).firstFailing? lib unit =
      ((left.firstFailing? lib unit).or (right.firstFailing? lib unit)).or
        ((binary op left right).itself? lib unit) := by
  rw [firstFailing?, nodes, List.find?_append, List.find?_append, find?_singleton, firstFailing?,
    firstFailing?]

theorem firstFailing?_call (f : Function) (argument : Expr) :
    (call f argument).firstFailing? lib unit =
      (argument.firstFailing? lib unit).or ((call f argument).itself? lib unit) := by
  rw [firstFailing?, nodes, List.find?_append, find?_singleton, firstFailing?]

theorem firstFailing?_of_ok {e : Expr} {x : Float} (h : e.value lib unit = .ok x) :
    e.firstFailing? lib unit = none := by
  induction e generalizing x with
  | number y => exact (find?_singleton _).trans (itself?_of_ok h)
  | constant c => exact (find?_singleton _).trans (itself?_of_ok h)
  | negate operand ih =>
    obtain ⟨y, value, -⟩ := map_eq_ok ((value_negate operand).symm.trans h)
    rw [firstFailing?_negate, ih value, itself?_of_ok h]
    rfl
  | binary op left right ihl ihr =>
    obtain ⟨a, leftValue, rest⟩ := bind_eq_ok ((value_binary op left right).symm.trans h)
    obtain ⟨b, rightValue, -⟩ := bind_eq_ok rest
    rw [firstFailing?_binary, ihl leftValue, ihr rightValue, itself?_of_ok h]
    rfl
  | call f argument ih =>
    obtain ⟨y, value, -⟩ := bind_eq_ok ((value_call f argument).symm.trans h)
    rw [firstFailing?_call, ih value, itself?_of_ok h]
    rfl

/-- The error of a tree is that of its first node without a value, whose operands have values. -/
theorem exists_firstFailing? {e : Expr} {fault : EvalError} (h : e.value lib unit = .error fault) :
    ∃ p, e.firstFailing? lib unit = some p ∧ Fails lib unit p fault := by
  induction e with
  | number y =>
    have fails : Fails lib unit (.number y) fault := .number h
    exact ⟨_, (find?_singleton _).trans (itself?_of_fails fails), fails⟩
  | constant c => cases h
  | negate operand ih =>
    obtain ⟨p, found, fails⟩ := ih (map_eq_error ((value_negate operand).symm.trans h))
    exact ⟨p, by rw [firstFailing?_negate, found, Option.some_or], fails⟩
  | binary op left right ihl ihr =>
    rw [firstFailing?_binary]
    rcases bind_eq_error ((value_binary op left right).symm.trans h) with
      leftError | ⟨a, leftValue, rest⟩
    · obtain ⟨p, found, fails⟩ := ihl leftError
      exact ⟨p, by rw [found, Option.some_or, Option.some_or], fails⟩
    rw [firstFailing?_of_ok leftValue, Option.none_or]
    rcases bind_eq_error rest with rightError | ⟨b, rightValue, failure⟩
    · obtain ⟨p, found, fails⟩ := ihr rightError
      exact ⟨p, by rw [found, Option.some_or], fails⟩
    · have fails : Fails lib unit (.binary op left right) fault :=
        .binary leftValue rightValue failure
      exact ⟨_, by rw [firstFailing?_of_ok rightValue, Option.none_or, itself?_of_fails fails],
        fails⟩
  | call f argument ih =>
    rw [firstFailing?_call]
    rcases bind_eq_error ((value_call f argument).symm.trans h) with error | ⟨x, value, failure⟩
    · obtain ⟨p, found, fails⟩ := ih error
      exact ⟨p, by rw [found, Option.some_or], fails⟩
    · have fails : Fails lib unit (.call f argument) fault := .call value failure
      exact ⟨_, by rw [firstFailing?_of_ok value, Option.none_or, itself?_of_fails fails], fails⟩

/-- A node that is found without a value fails, and the tree has its error. -/
theorem fails_of_firstFailing? {e p : Expr} (h : e.firstFailing? lib unit = some p) :
    ∃ fault, e.value lib unit = .error fault ∧ Fails lib unit p fault := by
  cases value : e.value lib unit with
  | ok x =>
    rw [firstFailing?_of_ok value] at h
    cases h
  | error fault =>
    obtain ⟨q, found, fails⟩ := exists_firstFailing? value
    obtain rfl := Option.some.inj (h.symm.trans found)
    exact ⟨fault, rfl, fails⟩

theorem value_eq_error_iff {e : Expr} {fault : EvalError} :
    e.value lib unit = .error fault ↔
      ∃ p, e.firstFailing? lib unit = some p ∧ p.value lib unit = .error fault := by
  constructor
  · intro h
    obtain ⟨p, found, fails⟩ := exists_firstFailing? h
    exact ⟨p, found, fails.value⟩
  · rintro ⟨p, found, h⟩
    obtain ⟨fault', value, fails⟩ := fails_of_firstFailing? found
    exact value.trans (fails.value.symm.trans h)

theorem beq_zero_iff_eq {x : Float} : x == 0.0 ↔ x = 0.0 ∨ x = -0.0 := by
  constructor
  · intro h
    obtain ⟨s, unpacked⟩ := Number.beq_zero_iff.1 h
    cases s with
    | positive => exact .inl (Number.eq_of_unpack_eq (unpacked.trans Number.unpack_zero.symm))
    | negative =>
      right
      apply Number.eq_of_unpack_eq
      rw [unpacked, Number.unpack_neg, Number.unpack_zero]
      rfl
  · rintro (rfl | rfl) <;> decide +kernel

theorem finite_ne_divisionByZero (fault : DomainFault) (x : Float) :
    finite fault x ≠ .error .divisionByZero := by
  rw [finite]
  split <;> rintro ⟨⟩

theorem apply_eq_divisionByZero_iff {op : Operator} {a b : Float} :
    op.apply lib a b = .error .divisionByZero ↔ op = .divide ∧ (b = 0.0 ∨ b = -0.0) := by
  rw [← beq_zero_iff_eq]
  cases op with
  | divide =>
    rw [Operator.apply]
    split
    · simp_all
    · simp_all [finite_ne_divisionByZero]
  | _ => simp [Operator.apply, finite_ne_divisionByZero]

theorem apply_function_ne_divisionByZero (f : Function) (x : Float) :
    f.apply lib unit x ≠ .error .divisionByZero := by
  cases f with
  | trig t =>
    rw [Function.apply, Trig.evaluate]
    split
    · exact finite_ne_divisionByZero _ _
    · rintro ⟨⟩
  | sqrt =>
    rw [Function.apply]
    split <;> rintro ⟨⟩
  | ln | log =>
    rw [Function.apply]
    split
    · rintro ⟨⟩
    · exact finite_ne_divisionByZero _ _

/-- Only a division fails so, and only by a zero. -/
theorem fails_divisionByZero {e : Expr} (h : Fails lib unit e .divisionByZero) :
    ∃ left right b, e = .binary .divide left right ∧ right.value lib unit = .ok b ∧
      (b = 0.0 ∨ b = -0.0) := by
  cases h with
  | number h => exact absurd h (finite_ne_divisionByZero _ _)
  | call value h => exact absurd h (apply_function_ne_divisionByZero _ _)
  | @binary op left right a b _ leftValue rightValue h =>
    obtain ⟨rfl, zero⟩ := apply_eq_divisionByZero_iff.1 h
    exact ⟨left, right, b, rfl, rightValue, zero⟩

theorem value_eq_divisionByZero_iff {e : Expr} :
    e.value lib unit = .error .divisionByZero ↔
      ∃ left right b, e.firstFailing? lib unit = some (.binary .divide left right) ∧
        right.value lib unit = .ok b ∧ (b = 0.0 ∨ b = -0.0) := by
  constructor
  · intro h
    obtain ⟨p, found, fails⟩ := exists_firstFailing? h
    obtain ⟨left, right, b, rfl, value, zero⟩ := fails_divisionByZero fails
    exact ⟨left, right, b, found, value, zero⟩
  · rintro ⟨left, right, b, found, value, zero⟩
    obtain ⟨fault, error, fails⟩ := fails_of_firstFailing? found
    cases fails with
    | @binary _ _ _ a b' _ leftValue rightValue h =>
      obtain rfl := Except.ok.inj (value.symm.trans rightValue)
      rw [apply_eq_divisionByZero_iff.2 ⟨rfl, zero⟩] at h
      rw [error, Except.error.inj h]

/-- An expression is evaluated as its postfix code is run. Its error is that of its first node
without a value, and it is division by zero where this node is a division by a zero. -/
theorem evaluate_eq_run (roots : lib.RootsFinite) (unit : AngleUnit) (e : Expr) :
    Instruction.run lib unit e.postfixCode [] =
      ((e.evaluate lib unit).mapError .failed).map (fun x => [x]) ∧
    e.postfixCode = e.nodes.map instruction ∧
    (∀ fault, e.evaluate lib unit = .error fault ↔
      ∃ p, e.firstFailing? lib unit = some p ∧ p.value lib unit = .error fault) ∧
    (e.evaluate lib unit = .error .divisionByZero ↔
      ∃ left right b, e.firstFailing? lib unit = some (.binary .divide left right) ∧
        right.value lib unit = .ok b ∧ (b = 0.0 ∨ b = -0.0)) := by
  rw [evaluate_eq_value roots]
  refine ⟨?_, e.postfixCode_eq_map_nodes, fun fault => value_eq_error_iff,
    value_eq_divisionByZero_iff⟩
  have run : Instruction.run lib unit (e.postfixCode ++ []) [] = _ :=
    Instruction.run_postfixCode e [] []
  rw [List.append_nil] at run
  rw [run]
  cases e.value lib unit <;> rfl

/-- Of the three nodes that fail in `(2 - 1 / (3 - 3)) * sqrt (-4)`, the first is the quotient. -/
theorem evaluate_eq_run_quotient :
    let quotient : Expr :=
      .binary .divide (.number 1.0) (.binary .subtract (.number 3.0) (.number 3.0))
    let e : Expr := .binary .multiply (.binary .subtract (.number 2.0) quotient)
      (.call .sqrt (.negate (.number 4.0)))
    Elementary.guarded.RootsFinite ∧
    Instruction.run .guarded .degrees e.postfixCode [] = .error (.failed .divisionByZero) ∧
    e.firstFailing? .guarded .degrees = some quotient ∧
    e.evaluate .guarded .degrees = .error .divisionByZero := by
  intro quotient e
  obtain ⟨run, -, -, zero⟩ := evaluate_eq_run Elementary.rootsFinite_guarded .degrees e
  have found : e.firstFailing? .guarded .degrees = some quotient := by decide +kernel
  have difference : (Expr.binary .subtract (.number 3.0) (.number 3.0)).value .guarded .degrees =
      .ok 0.0 := by decide +kernel
  have error := zero.2 ⟨_, _, 0.0, found, difference, .inl rfl⟩
  rw [error] at run
  exact ⟨Elementary.rootsFinite_guarded, run, found, error⟩

end Expr

end Calculator
