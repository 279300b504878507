import Calculator.Proofs.Compound

/-! Only finite numbers are calculated with. Every node of a tree that has a value has a finite one,
so operators and functions are applied to finite numbers only, and what a library answers elsewhere
does not matter. Roots and logarithms are assumed not to leave the finite numbers where they are
defined; every other result is checked. -/
namespace Calculator

open Number

/-- The logarithms of a positive finite number are finite. -/
def Elementary.LogsFinite (lib : Elementary) : Prop :=
  ∀ x : Float, x.isFinite → 0.0 < x → (lib.ln x).isFinite ∧ (lib.log10 x).isFinite

/-- Two libraries with the same functions of an angle, and the same others at finite numbers. -/
structure Elementary.AgreesOnFinite (lib lib' : Elementary) : Prop where
  sin : lib'.sin = lib.sin
  cos : lib'.cos = lib.cos
  tan : lib'.tan = lib.tan
  sqrt : ∀ x : Float, x.isFinite → lib'.sqrt x = lib.sqrt x
  ln : ∀ x : Float, x.isFinite → lib'.ln x = lib.ln x
  log10 : ∀ x : Float, x.isFinite → lib'.log10 x = lib.log10 x
  power : ∀ a b : Float, a.isFinite → b.isFinite → lib'.power a b = lib.power a b

/-- The number itself if it is finite, and zero if not. -/
def Number.orZero (x : Float) : Float := if x.isFinite then x else 0.0

theorem Number.isFinite_orZero (x : Float) : (orZero x).isFinite := by
  rw [orZero]
  split
  · assumption
  · decide +kernel

/-- The functions of the machine, but for roots and logarithms that are not finite. -/
def Elementary.guarded : Elementary :=
  { Elementary.native with
    sqrt := fun x => orZero x.sqrt
    ln := fun x => orZero x.log
    log10 := fun x => orZero x.log10 }

theorem Elementary.rootsFinite_guarded : guarded.RootsFinite := fun _ _ _ => isFinite_orZero _

theorem Elementary.logsFinite_guarded : guarded.LogsFinite := fun _ _ _ =>
  ⟨isFinite_orZero _, isFinite_orZero _⟩

/-- A finite number that is not below or at zero is above it. -/
theorem Number.zero_lt_of_not_le {x : Float} (finite : x.isFinite) (h : ¬x ≤ 0.0) : 0.0 < x := by
  have isFinite : x.toModel.unpack.isFinite := finite
  change ¬Float.le x 0.0 = true at h
  change Float.lt 0.0 x = true
  rw [Float.le, decide_eq_true_eq] at h
  rw [Float.lt, decide_eq_true_eq]
  change ¬x.toModel.unpack.le (0.0 : Float).toModel.unpack = true at h
  change (0.0 : Float).toModel.unpack.lt x.toModel.unpack = true
  rw [unpack_zero] at h ⊢
  generalize x.toModel.unpack = u at *
  cases u with
  | zero s => exact absurd rfl h
  | finite s m e pos =>
    cases s with
    | negative => exact absurd rfl h
    | positive => rfl
  | infinity s | notANumber => cases isFinite

namespace Expr

variable {lib lib' : Elementary} {unit : AngleUnit}

/-- The nodes of a tree, operands before what is done with them and left before right. -/
def nodes : Expr → List Expr
  | .number x => [.number x]
  | .constant c => [.constant c]
  | .negate operand => operand.nodes ++ [.negate operand]
  | .binary op left right => left.nodes ++ right.nodes ++ [.binary op left right]
  | .call f argument => argument.nodes ++ [.call f argument]

/-- The numbers that the operation of a node is applied to, once all its operands have values. -/
inductive Applies (lib : Elementary) (unit : AngleUnit) : Expr → List Float → Prop
  | negate {operand : Expr} {x : Float} (value : operand.value lib unit = .ok x) :
    Applies lib unit (.negate operand) [x]
  | binary {op : Operator} {left right : Expr} {a b : Float}
    (leftValue : left.value lib unit = .ok a) (rightValue : right.value lib unit = .ok b) :
    Applies lib unit (.binary op left right) [a, b]
  | call {f : Function} {argument : Expr} {x : Float} (value : argument.value lib unit = .ok x) :
    Applies lib unit (.call f argument) [x]

theorem Applies.isFinite (roots : lib.RootsFinite) {e : Expr} {operands : List Float}
    (h : Applies lib unit e operands) : ∀ x ∈ operands, x.isFinite := by
  cases h with
  | negate value | call value =>
    intro x mem
    obtain rfl := List.mem_singleton.1 mem
    exact isFinite_of_value roots value
  | binary leftValue rightValue =>
    intro x mem
    rcases List.mem_pair.1 mem with rfl | rfl
    · exact isFinite_of_value roots leftValue
    · exact isFinite_of_value roots rightValue

/-- A fault that the assumptions on the library exclude. -/
def Excluded (fault : DomainFault) : Prop := fault = .result ∨ fault = .logarithmValue

theorem fault_of_finite {fault fault' : DomainFault} {x : Float}
    (h : finite fault x = .error (.domain fault')) : fault' = fault := by
  unfold finite at h
  split at h
  · cases h
  · exact (EvalError.domain.inj (Except.error.inj h)).symm

theorem not_excluded_of_operator {op : Operator} {a b : Float} {fault : DomainFault}
    (h : op.apply lib a b = .error (.domain fault)) : ¬Excluded fault := by
  cases op with
  | divide =>
    simp only [Operator.apply] at h
    split at h
    · cases h
    · simp [fault_of_finite h, Excluded]
  | _ => simp [fault_of_finite h, Excluded]

theorem not_excluded_of_function (logs : lib.LogsFinite) {f : Function} {x : Float}
    (isFinite : x.isFinite) {fault : DomainFault}
    (h : f.apply lib unit x = .error (.domain fault)) : ¬Excluded fault := by
  cases f with
  | trig t =>
    simp only [Function.apply, Trig.evaluate] at h
    split at h
    · simp [fault_of_finite h, Excluded]
    · obtain rfl := EvalError.domain.inj (Except.error.inj h)
      simp [Excluded]
  | sqrt =>
    simp only [Function.apply] at h
    split at h
    · obtain rfl := EvalError.domain.inj (Except.error.inj h)
      simp [Excluded]
    · cases h
  | ln | log =>
    simp only [Function.apply] at h
    split at h
    · obtain rfl := EvalError.domain.inj (Except.error.inj h)
      simp [Excluded]
    · rename_i above
      obtain ⟨ln, log⟩ := logs x isFinite (zero_lt_of_not_le isFinite above)
      simp [finite_eq_ok, ln, log] at h

theorem not_excluded_of_value (roots : lib.RootsFinite) (logs : lib.LogsFinite) {e : Expr}
    {fault : DomainFault} (h : e.value lib unit = .error (.domain fault)) : ¬Excluded fault := by
  induction e with
  | number y => simp [fault_of_finite h, Excluded]
  | constant c => cases h
  | negate operand ih =>
    rw [value_negate] at h
    exact ih (map_eq_error h)
  | binary op left right ihl ihr =>
    rw [value_binary] at h
    rcases bind_eq_error h with h | ⟨a, -, h⟩
    · exact ihl h
    · rcases bind_eq_error h with h | ⟨b, -, h⟩
      · exact ihr h
      · exact not_excluded_of_operator h
  | call f argument ih =>
    rw [value_call] at h
    rcases bind_eq_error h with h | ⟨x, value, h⟩
    · exact ih h
    · exact not_excluded_of_function logs (isFinite_of_value roots value) h

theorem apply_operator_congr (agrees : lib.AgreesOnFinite lib') (op : Operator) {a b : Float}
    (ha : a.isFinite) (hb : b.isFinite) : op.apply lib' a b = op.apply lib a b := by
  cases op with
  | power => rw [Operator.apply, Operator.apply, agrees.power a b ha hb]
  | _ => rfl

theorem apply_trig_congr (agrees : lib.AgreesOnFinite lib') (t : Trig) (x : Float) :
    t.evaluate lib' unit x = t.evaluate lib unit x := by
  have radians : t.ofRadians lib' = t.ofRadians lib := by
    cases t with
    | sin => exact agrees.sin
    | cos => exact agrees.cos
    | tan => exact agrees.tan
  have computed : t.computed lib' unit x = t.computed lib unit x := by
    rw [Trig.computed, radians, Trig.computed]
  have apply : t.apply lib' unit x = t.apply lib unit x := by
    cases unit with
    | degrees => simp only [Trig.apply, computed]
    | radians => exact computed
  rw [Trig.evaluate, Trig.evaluate, apply]

theorem apply_function_congr (agrees : lib.AgreesOnFinite lib') (f : Function) {x : Float}
    (isFinite : x.isFinite) : f.apply lib' unit x = f.apply lib unit x := by
  cases f with
  | trig t => exact apply_trig_congr agrees t x
  | sqrt => rw [Function.apply, Function.apply, agrees.sqrt x isFinite]
  | ln => rw [Function.apply, Function.apply, agrees.ln x isFinite]
  | log => rw [Function.apply, Function.apply, agrees.log10 x isFinite]

theorem value_congr (roots : lib.RootsFinite) (agrees : lib.AgreesOnFinite lib') (e : Expr) :
    e.value lib' unit = e.value lib unit := by
  induction e with
  | number y => rfl
  | constant c => rfl
  | negate operand ih => rw [value_negate, value_negate, ih]
  | binary op left right ihl ihr =>
    rw [value_binary, value_binary, ihl, ihr]
    cases hl : left.value lib unit with
    | error fault => rfl
    | ok a =>
      cases hr : right.value lib unit with
      | error fault => rfl
      | ok b =>
        exact apply_operator_congr agrees op (isFinite_of_value roots hl)
          (isFinite_of_value roots hr)
  | call f argument ih =>
    rw [value_call, value_call, ih]
    cases value : argument.value lib unit with
    | error fault => rfl
    | ok x => exact apply_function_congr agrees f (isFinite_of_value roots value)

/-- In an evaluation nothing but finite numbers occurs. -/
theorem evaluation_isFinite (roots : lib.RootsFinite) (logs : lib.LogsFinite) (unit : AngleUnit)
    (e : Expr) :
    (∀ p ∈ e.nodes, ∀ x, p.value lib unit = .ok x → x.isFinite) ∧
    e.evaluate lib unit = e.value lib unit ∧
    (∀ p ∈ e.nodes, ∀ fault, p.evaluate lib unit = .error (.domain fault) → ¬Excluded fault) ∧
    (∀ p ∈ e.nodes, ∀ operands, p.Applies lib unit operands → ∀ x ∈ operands, x.isFinite) ∧
    ∀ lib', lib.AgreesOnFinite lib' → e.evaluate lib' unit = e.evaluate lib unit := by
  refine ⟨fun p _ x value => isFinite_of_value roots value, evaluate_eq_value roots e, ?_,
    fun p _ operands applies => applies.isFinite roots, ?_⟩
  · intro p _ fault h
    rw [evaluate_eq_value roots] at h
    exact not_excluded_of_value roots logs h
  · intro lib' agrees
    rw [evaluate_eq, evaluate_eq, value_congr roots agrees]

theorem evaluation_isFinite_quotient :
    let e : Expr := .binary .divide (.call .sqrt (.number 9.0)) (.negate (.number 2.0))
    Elementary.guarded.RootsFinite ∧ Elementary.guarded.LogsFinite ∧
    (∀ p ∈ e.nodes, ∀ x, p.value .guarded .degrees = .ok x → x.isFinite) ∧
    e.value .guarded .degrees = .ok (-1.5) ∧ e.evaluate .guarded .degrees = .ok (-1.5) ∧
    (∀ x ∈ [3.0, -2.0], Float.isFinite x) ∧
    ∀ lib', Elementary.guarded.AgreesOnFinite lib' → e.evaluate lib' .degrees = .ok (-1.5) := by
  intro e
  obtain ⟨values, checked, -, operands, agreement⟩ := evaluation_isFinite
    Elementary.rootsFinite_guarded Elementary.logsFinite_guarded .degrees e
  have value : e.value .guarded .degrees = .ok (-1.5) := by decide +kernel
  refine ⟨Elementary.rootsFinite_guarded, Elementary.logsFinite_guarded, values, value,
    checked.trans value, ?_, fun lib' agrees => (agreement lib' agrees).trans (checked.trans value)⟩
  refine operands e (List.mem_append_right _ (List.mem_singleton_self e)) _ (.binary ?_ ?_)
  · decide +kernel
  · decide +kernel

end Expr

end Calculator
