import Calculator.Proofs.Trees
import Calculator.Proofs.Values

/-! Texts built from other texts. The value of an operation or a function on texts in parentheses is
the operation or function on their values, and the first error from the left is the error of the
whole. -/
namespace Calculator

open Number

variable {lib : Elementary} {unit : AngleUnit}

/-- No root of a finite number that is not below zero leaves the finite numbers. -/
def Elementary.RootsFinite (lib : Elementary) : Prop :=
  ∀ x : Float, x.isFinite → ¬x < 0.0 → (lib.sqrt x).isFinite

theorem Operator.isFinite_of_apply {op : Operator} {a b x : Float}
    (h : op.apply lib a b = .ok x) : x.isFinite := by
  cases op with
  | divide =>
    simp only [Operator.apply] at h
    split at h
    · cases h
    · exact (isFinite_of_finite h).2
  | _ => exact (isFinite_of_finite h).2

theorem Function.isFinite_of_apply (roots : lib.RootsFinite) {f : Function} {a x : Float}
    (finite : a.isFinite) (h : f.apply lib unit a = .ok x) : x.isFinite := by
  cases f with
  | trig t =>
    simp only [Function.apply, Trig.evaluate] at h
    split at h
    · exact (isFinite_of_finite h).2
    · cases h
  | sqrt =>
    simp only [Function.apply] at h
    split at h
    · cases h
    · rename_i notBelow
      obtain rfl := Except.ok.inj h
      exact roots a finite notBelow
  | ln | log =>
    simp only [Function.apply] at h
    split at h
    · cases h
    · exact (isFinite_of_finite h).2

theorem Constant.isFinite_value (c : Constant) : c.value.isFinite := by
  cases c <;> decide +kernel

namespace Expr

theorem value_call (f : Function) (argument : Expr) :
    (Expr.call f argument).value lib unit =
      (argument.value lib unit).bind fun x => f.apply lib unit x := rfl

theorem isFinite_of_value (roots : lib.RootsFinite) {e : Expr} {x : Float}
    (h : e.value lib unit = .ok x) : x.isFinite := by
  induction e generalizing x with
  | number y => exact (isFinite_of_finite h).2
  | constant c =>
    obtain rfl := Except.ok.inj h
    exact c.isFinite_value
  | negate operand ih =>
    rw [value_negate] at h
    obtain ⟨y, value, rfl⟩ := map_eq_ok h
    rw [isFinite_neg]
    exact ih value
  | binary op left right ihl ihr =>
    rw [value_binary] at h
    obtain ⟨a, -, h⟩ := bind_eq_ok h
    obtain ⟨b, -, h⟩ := bind_eq_ok h
    exact Operator.isFinite_of_apply h
  | call f argument ih =>
    rw [value_call] at h
    obtain ⟨a, value, h⟩ := bind_eq_ok h
    exact f.isFinite_of_apply roots (ih value) h

/-- The check of the result never fails. -/
theorem evaluate_eq_value (roots : lib.RootsFinite) (e : Expr) :
    e.evaluate lib unit = e.value lib unit := by
  rw [evaluate_eq]
  cases value : e.value lib unit with
  | error fault => rfl
  | ok x => exact finite_eq_ok (isFinite_of_value roots value)

end Expr

namespace Calculation

open Grammar Token

def enclosed (s : String) : String := "(" ++ s ++ ")"

/-- A minus in front of a text in parentheses. -/
def opposite (s : String) : String := "-" ++ enclosed s

/-- A function with a text in parentheses as its argument. -/
def called (f : Function) (s : String) : String := f.name ++ enclosed s

variable {s t : String} {d d' : Sum}

theorem scans_enclosed (h : Scans s.toList d.tokens) :
    Scans (enclosed s).toList (Primary.group d).tokens := by
  have all := scans_group h .nil
  simpa [enclosed, Primary.tokens] using all

theorem scans_opposite (h : Scans s.toList d.tokens) :
    Scans (opposite s).toList (Signed.minus (.primary (.group d))).tokens := by
  have all := Scans.symbol (c := '-') rfl (scans_enclosed h)
  simpa [opposite, Signed.tokens] using all

theorem scans_called (f : Function) (h : Scans s.toList d.tokens) :
    Scans (called f s).toList (Primary.call f d).tokens := by
  have all := (Scans.name (.function f)).append (Avoids.cons_iff.2 rfl) (scans_group h .nil)
  simpa [called, enclosed, Word.name, Primary.tokens] using all

theorem evaluate_eq_value (roots : lib.RootsFinite) (h : Scans s.toList d.tokens) :
    evaluate lib unit s = (d.tree.value lib unit).mapError .evaluation := by
  rw [evaluate_of_derivation h, Expr.evaluate_eq_value roots]

theorem evaluate_operation (roots : lib.RootsFinite) (op : Operator)
    (hs : Scans s.toList d.tokens) (ht : Scans t.toList d'.tokens) :
    evaluate lib unit (grouped s op t) = (evaluate lib unit s).bind fun x =>
      (evaluate lib unit t).bind fun y => (op.apply lib x y).mapError .evaluation := by
  rw [evaluate_grouped op hs ht, Expr.evaluate_eq_value roots, Expr.value_binary, mapError_bind,
    evaluate_eq_value roots hs, evaluate_eq_value roots ht]
  simp only [mapError_bind]

theorem evaluate_opposite (roots : lib.RootsFinite) (h : Scans s.toList d.tokens) :
    evaluate lib unit (opposite s) = (evaluate lib unit s).map (- ·) := by
  have whole : evaluate lib unit (opposite s) = _ :=
    evaluate_eq_value (d := .product (.signed (.minus (.primary (.group d))))) roots
      (scans_opposite h)
  rw [whole, evaluate_eq_value roots h, ← mapError_map, ← Expr.value_negate]
  rfl

theorem evaluate_called (roots : lib.RootsFinite) (f : Function) (h : Scans s.toList d.tokens) :
    evaluate lib unit (called f s) = (evaluate lib unit s).bind fun x =>
      (f.apply lib unit x).mapError .evaluation := by
  have whole : evaluate lib unit (called f s) = _ :=
    evaluate_eq_value (d := .product (.signed (.primary (.call f d)))) roots (scans_called f h)
  rw [whole, evaluate_eq_value roots h, ← mapError_bind, ← Expr.value_call]
  rfl

theorem evaluate_enclosed (h : Scans s.toList d.tokens) :
    evaluate lib unit (enclosed s) = evaluate lib unit s := by
  have whole : evaluate lib unit (enclosed s) = _ :=
    evaluate_of_derivation (d := .product (.signed (.primary (.group d)))) (scans_enclosed h)
  rw [whole, evaluate_of_derivation h]
  rfl

/-- The value of a text made of others is made of their values. -/
theorem evaluate_compositional (roots : lib.RootsFinite) (unit : AngleUnit)
    {r r' : List Token × Expr} (hs : read s = .ok r) (ht : read t = .ok r') :
    (∀ op : Operator, evaluate lib unit (grouped s op t) =
      (evaluate lib unit s).bind fun x =>
        (evaluate lib unit t).bind fun y => (op.apply lib x y).mapError .evaluation) ∧
    evaluate lib unit (opposite s) = (evaluate lib unit s).map (- ·) ∧
    (∀ f : Function, evaluate lib unit (called f s) =
      (evaluate lib unit s).bind fun x => (f.apply lib unit x).mapError .evaluation) ∧
    evaluate lib unit (enclosed s) = evaluate lib unit s := by
  obtain ⟨d, scans, -⟩ := exists_derivation hs
  obtain ⟨d', scans', -⟩ := exists_derivation ht
  exact ⟨fun op => evaluate_operation roots op scans scans', evaluate_opposite roots scans,
    fun f => evaluate_called roots f scans, evaluate_enclosed scans⟩

theorem evaluate_compositional_quotient :
    let lib : Elementary :=
      { Elementary.native with sqrt := fun x => if x.sqrt.isFinite then x.sqrt else 0.0 }
    lib.RootsFinite ∧
    evaluate lib .radians "(9)-(7/0)" = .error (.evaluation .divisionByZero) ∧
    evaluate lib .radians "-(9)" = .ok (-9.0) ∧ evaluate lib .radians "sqrt(9)" = .ok 3.0 ∧
    evaluate lib .radians "(9)" = .ok 9.0 := by
  intro lib
  have roots : lib.RootsFinite := by
    intro x _ _
    simp only [lib]
    split
    · assumption
    · decide +kernel
  have nine : evaluate lib .radians "9" = .ok 9.0 := by decide +kernel
  have quotient : evaluate lib .radians "7/0" = .error (.evaluation .divisionByZero) := by
    decide +kernel
  have hs : ∃ r, read "9" = .ok r := ⟨([.number 9.0, .stop], .number 9.0), by decide +kernel⟩
  have ht : ∃ r, read "7/0" = .ok r :=
    ⟨([.number 7.0, .operator .divide, .number 0.0, .stop],
      .binary .divide (.number 7.0) (.number 0.0)), by decide +kernel⟩
  obtain ⟨r, hs⟩ := hs
  obtain ⟨r', ht⟩ := ht
  obtain ⟨operation, minus, call, enclosed⟩ := evaluate_compositional roots .radians hs ht
  rw [nine] at minus enclosed
  have difference := operation .subtract
  have root := call .sqrt
  rw [nine] at difference root
  rw [quotient] at difference
  refine ⟨roots, difference, minus, root.trans ?_, enclosed⟩
  decide +kernel

end Calculation

end Calculator
