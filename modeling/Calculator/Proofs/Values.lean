import Calculator.Expr.Value
import Calculator.Proofs.Grammar
import Calculator.Proofs.Outcome
import Calculator.Proofs.Signs

/-! Values of expressions and signs. A minus in front of a product is a minus in front of its first
factor, and what is taken from a leading zero has its sign turned. -/
namespace Calculator

open Number

/-- Where the first computation has a result, the second has one that is alike. -/
def Follows {ε : Type} (second first : Except ε Float) : Prop :=
  ∀ x, first = .ok x → ∃ y, second = .ok y ∧ Alike x y

theorem Follows.bind {ε : Type} {x y : Except ε Float} {f g : Float → Except ε Float}
    (h : Follows y x) (step : ∀ a b, Alike a b → Follows (g b) (f a)) :
    Follows (y.bind g) (x.bind f) := by
  intro z whole
  obtain ⟨a, first, second⟩ := bind_eq_ok whole
  obtain ⟨b, rfl, alike⟩ := h a first
  exact step a b alike z second

theorem finite_eq_ok {fault : DomainFault} {x : Float} (h : x.isFinite) :
    finite fault x = .ok x := if_pos h

theorem finite_eq_error {fault : DomainFault} {x : Float} (h : x.isFinite = false) :
    finite fault x = .error (.domain fault) := by
  simp [finite, h]

theorem finite_neg (fault : DomainFault) (x : Float) :
    finite fault (-x) = (finite fault x).map (- ·) := by
  simp only [finite, isFinite_neg]
  split <;> rfl

theorem follows_finite {x y : Float} (h : Alike x y) (fault : DomainFault) :
    Follows (finite fault y) (finite fault x) := by
  intro z first
  obtain ⟨rfl, isFinite⟩ := isFinite_of_finite first
  exact ⟨y, finite_eq_ok (h.isFinite_eq ▸ isFinite), h⟩

variable {lib : Elementary} {unit : AngleUnit} {op : Operator} {a b : Float}

theorem apply_neg (h : op = .multiply ∨ op = .divide) (a b : Float) :
    op.apply lib (-a) b = (op.apply lib a b).map (- ·) := by
  rcases h with rfl | rfl
  · simp only [Operator.apply, negate_mul, finite_neg]
  · simp only [Operator.apply, negate_div, finite_neg]
    split <;> rfl

theorem follows_apply (h : op = .add ∨ op = .subtract) {a a' : Float} (alike : Alike a a')
    (b : Float) : Follows (op.apply lib a' b) (op.apply lib a b) := by
  rcases h with rfl | rfl
  · exact follows_finite (alike.add b) _
  · exact follows_finite (alike.sub b) _

namespace Expr

theorem value_number (x : Float) :
    (Expr.number x).value lib unit = finite .literal x := rfl

theorem value_zero : (Expr.number 0.0).value lib unit = .ok 0.0 := finite_eq_ok (by decide +kernel)

theorem value_negate (e : Expr) :
    (Expr.negate e).value lib unit = (e.value lib unit).map (- ·) := by
  cases h : e.value lib unit <;> simp [value, h] <;> rfl

theorem value_binary (op : Operator) (left right : Expr) :
    (Expr.binary op left right).value lib unit = (left.value lib unit).bind fun a =>
      (right.value lib unit).bind fun b => op.apply lib a b := rfl

theorem evaluate_eq (e : Expr) :
    e.evaluate lib unit = (e.value lib unit).bind (finite .result) := rfl

end Expr

namespace Grammar

/-- The product with a minus in front of its first factor. -/
def Product.negateFirst : Product → Product
  | .signed u => .signed (.minus u)
  | .step left op multiplicative right => .step left.negateFirst op multiplicative right

theorem Product.tokens_negateFirst (p : Product) :
    p.negateFirst.tokens = .operator .subtract :: p.tokens := by
  cases p with
  | signed u => rfl
  | step left op multiplicative right =>
    have tokens := left.tokens_negateFirst
    simp only [Product.negateFirst, Product.tokens, tokens, List.cons_append]

theorem Product.value_negateFirst (p : Product) :
    p.negateFirst.tree.value lib unit = (p.tree.value lib unit).map (- ·) := by
  cases p with
  | signed u => exact Expr.value_negate u.tree
  | step left op multiplicative right =>
    have value := left.value_negateFirst
    simp only [Product.negateFirst, Product.tree, Expr.value_binary, value]
    cases left.tree.value lib unit with
    | error e => rfl
    | ok a =>
      cases right.tree.value lib unit with
      | error e => rfl
      | ok b => exact apply_neg multiplicative a b

theorem Product.follows_zero_sub (p : Product) : Follows (p.negateFirst.tree.value lib unit)
    ((Expr.binary .subtract (.number 0.0) p.tree).value lib unit) := by
  rw [Expr.value_binary, Expr.value_zero, p.value_negateFirst]
  cases p.tree.value lib unit with
  | error e => exact nofun
  | ok b =>
    intro z first
    obtain ⟨rfl, -⟩ := isFinite_of_finite first
    exact ⟨-b, rfl, zero_sub_alike b⟩

theorem Signed.precedence_after_number {u : Signed} {x : Float} {rest : List Token}
    (h : u.tokens = .number x :: rest) {op : Operator} (next : Expr.found rest = .operator op) :
    2 ≤ op.precedence := by
  cases u with
  | minus u => cases h
  | primary p =>
    cases p with
    | number y =>
      obtain ⟨-, rfl⟩ := List.cons.inj h
      cases next
    | _ => cases h
  | power base exponent =>
    cases base with
    | number y =>
      obtain ⟨-, rfl⟩ := List.cons.inj h
      cases next
      decide
    | _ => cases h

/-- After a number that a product starts with stands no additive operator. -/
theorem Product.precedence_after_number : (p : Product) → {x : Float} → {rest : List Token} →
    p.tokens = .number x :: rest → {op : Operator} → Expr.found rest = .operator op →
      2 ≤ op.precedence
  | .signed _, _, _ => fun h _ next => Signed.precedence_after_number h next
  | .step left op multiplicative right, x, rest => by
    intro h other next
    obtain ⟨t, tail, eq, -⟩ := left.tokens_eq_cons
    rw [Product.tokens, eq] at h
    obtain ⟨rfl, rfl⟩ := List.cons.inj h
    cases tail with
    | nil =>
      cases next
      exact Nat.le_of_eq (precedence_of_multiplicative multiplicative).symm
    | cons t' tail => exact left.precedence_after_number eq next

/-- Where a line starts with a product taken from zero, the sign of the product can be turned
instead. -/
theorem Sum.exists_without_zero : (d : Sum) → {rest : List Token} →
    d.tokens = .number 0.0 :: .operator .subtract :: rest →
      ∃ d' : Sum, d'.tokens = .operator .subtract :: rest ∧
        Follows (d'.tree.value lib unit) (d.tree.value lib unit)
  | .product p, _ => fun h => absurd (p.precedence_after_number h rfl) (by decide)
  | .step left op additive right, rest => by
    intro h
    obtain ⟨t, tail, eq, -⟩ := left.tokens_eq_cons
    rw [Sum.tokens, eq] at h
    obtain rfl : t = .number 0.0 := (List.cons.inj h).1
    have after : tail ++ .operator op :: right.tokens = .operator .subtract :: rest :=
      (List.cons.inj h).2
    cases tail with
    | nil =>
      cases after
      have zero : left = .product (.signed (.primary (.number 0.0))) := Sum.tokens_injective eq
      refine ⟨.product right.negateFirst, right.tokens_negateFirst, ?_⟩
      rw [zero]
      exact right.follows_zero_sub
    | cons t' tail =>
      obtain ⟨rfl, rfl⟩ := List.cons.inj after
      obtain ⟨left', tokens, follows⟩ := left.exists_without_zero eq
      refine ⟨.step left' op additive right, by rw [Sum.tokens, tokens]; rfl, ?_⟩
      refine follows.bind fun a a' alike => ?_
      cases right.tree.value lib unit with
      | error e => exact nofun
      | ok b => exact follows_apply additive alike b

end Grammar

end Calculator
