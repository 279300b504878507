import Calculator.Proofs.Compound
import Calculator.Session

/-! The settings of a calculator and the rest of its state. The unit of angles counts only where a
text names a function of an angle, the theme nowhere: two sessions that differ in their settings
hold the same after every action that is no setting, as long as no such text is evaluated. -/
namespace Calculator

def Function.isTrig : Function → Bool
  | .trig _ => true
  | _ => false

def Token.isTrig : Token → Bool
  | .word (.function f) => f.isTrig
  | _ => false

theorem Function.apply_unit (lib : Elementary) (unit unit' : AngleUnit) {f : Function}
    (free : f.isTrig = false) (x : Float) : f.apply lib unit x = f.apply lib unit' x := by
  cases f with
  | trig t => cases free
  | ln => rfl
  | log => rfl
  | sqrt => rfl

namespace Expr

/-- Whether a function of an angle is called in the tree. -/
def hasTrig : Expr → Bool
  | .number _ | .constant _ => false
  | .negate operand => operand.hasTrig
  | .binary _ left right => left.hasTrig || right.hasTrig
  | .call f argument => f.isTrig || argument.hasTrig

theorem value_unit (lib : Elementary) (unit unit' : AngleUnit) {e : Expr}
    (free : e.hasTrig = false) : e.value lib unit = e.value lib unit' := by
  induction e with
  | number x => rfl
  | constant c => rfl
  | negate operand ih =>
    rw [value_negate, value_negate, ih free]
  | binary op left right ihl ihr =>
    obtain ⟨hl, hr⟩ := Bool.or_eq_false_iff.1 free
    rw [value_binary, value_binary, ihl hl, ihr hr]
  | call f argument ih =>
    obtain ⟨hf, ha⟩ := Bool.or_eq_false_iff.1 free
    rw [value_call, value_call, ih ha]
    congr 1
    exact funext (f.apply_unit lib unit unit' hf)

end Expr

namespace Grammar

mutual

theorem Sum.hasTrig_tree : (d : Sum) → d.tree.hasTrig = d.tokens.any Token.isTrig
  | .product p => p.hasTrig_tree
  | .step left op _ right => by
    rw [Sum.tokens, List.any_append, List.any_cons, ← left.hasTrig_tree, ← right.hasTrig_tree]
    rfl

theorem Product.hasTrig_tree : (p : Product) → p.tree.hasTrig = p.tokens.any Token.isTrig
  | .signed u => u.hasTrig_tree
  | .step left op _ right => by
    rw [Product.tokens, List.any_append, List.any_cons, ← left.hasTrig_tree, ← right.hasTrig_tree]
    rfl

theorem Signed.hasTrig_tree : (u : Signed) → u.tree.hasTrig = u.tokens.any Token.isTrig
  | .minus operand => operand.hasTrig_tree
  | .primary p => p.hasTrig_tree
  | .power base exponent => by
    rw [Signed.tokens, List.any_append, List.any_cons, ← base.hasTrig_tree,
      ← exponent.hasTrig_tree]
    rfl

theorem Primary.hasTrig_tree : (p : Primary) → p.tree.hasTrig = p.tokens.any Token.isTrig
  | .number _ => rfl
  | .constant _ => rfl
  | .call f argument => by
    simp [Primary.tokens, Primary.tree, Expr.hasTrig, Token.isTrig, argument.hasTrig_tree]
  | .group inner => by
    simp [Primary.tokens, Primary.tree, Token.isTrig, inner.hasTrig_tree]

end

end Grammar

namespace Calculation

/-- Whether a text is cut into tokens among which stands a function of an angle. -/
def namesTrig (s : String) : Bool :=
  match Token.scan s with
  | .ok tokens => tokens.any Token.isTrig
  | .error _ => false

theorem hasTrig_of_read {s : String} {r : List Token × Expr} (h : read s = .ok r)
    (free : namesTrig s = false) : r.2.hasTrig = false := by
  obtain ⟨d, scans, tree⟩ := exists_derivation h
  rw [namesTrig, Token.scan, scans 0] at free
  obtain ⟨free, -⟩ := Bool.or_eq_false_iff.1 (List.any_append.symm.trans free)
  rw [← tree, d.hasTrig_tree]
  exact free

/-- The unit counts only in a text that names a function of an angle. -/
theorem evaluate_unit (lib : Elementary) (unit unit' : AngleUnit) {s : String}
    (free : namesTrig s = false) : evaluate lib unit s = evaluate lib unit' s := by
  rw [evaluate_eq, evaluate_eq]
  cases reads : read s with
  | error e => rfl
  | ok r =>
    change (r.2.evaluate lib unit).mapError _ = (r.2.evaluate lib unit').mapError _
    rw [Expr.evaluate_eq, Expr.evaluate_eq,
      r.2.value_unit lib unit unit' (hasTrig_of_read reads free)]

end Calculation

/-- Whether an action changes a setting: the unit of angles or the theme. -/
def Action.isSetting : Action → Bool
  | .setUnit _ | .toggleTheme => true
  | _ => false

namespace Session

/-- All that a session holds besides its settings. -/
structure Contents where
  display : String
  error : Option Fault
  history : List String
  memory : Float
  working : Working
  deriving DecidableEq

def contents (s : Session) : Contents := ⟨s.display, s.error, s.history, s.memory, s.working⟩

/-- What a session holds after every action of a run that changes no setting. -/
def contentsAlong (lib : Elementary) (s : Session) : List Action → List Contents
  | [] => []
  | action :: actions =>
    let after := s.apply lib action
    if action.isSetting then after.contentsAlong lib actions
    else after.contents :: after.contentsAlong lib actions

/-- No display that the run evaluates names a function of an angle. -/
def EvaluatesNoTrig (lib : Elementary) (s : Session) (actions : List Action) : Prop :=
  ∀ before after, actions = before ++ .evaluate :: after →
    Calculation.namesTrig (s.run lib before).display = false

variable {lib : Elementary} {s s' : Session}

theorem contents_apply_of_isSetting (lib : Elementary) {action : Action}
    (setting : action.isSetting) : (s.apply lib action).contents = s.contents := by
  cases action with
  | setUnit unit => rfl
  | toggleTheme => rfl
  | _ => cases setting

theorem outcome_eq_of_contents (same : s.contents = s'.contents)
    (free : Calculation.namesTrig s.display = false) : s.outcome lib = s'.outcome lib := by
  have display : s.display = s'.display := congrArg Contents.display same
  rw [outcome, outcome, ← display]
  exact Calculation.evaluate_unit lib s.unit s'.unit free

/-- The session with other settings. -/
def withSettings (s : Session) (unit : AngleUnit) (dark : Bool) : Session := { s with unit, dark }

theorem eq_withSettings (same : s.contents = s'.contents) :
    s' = s.withSettings s'.unit s'.dark := by
  obtain ⟨display, error, history, memory, working⟩ := Contents.mk.inj same
  rw [withSettings, display, error, history, memory, working]

theorem enter_withSettings (text : String) (unit : AngleUnit) (dark : Bool) :
    (s.withSettings unit dark).enter text = (s.enter text).withSettings unit dark := by
  change (if s.replaces text then _ else if s.refuses text then _ else _) = _
  unfold enter
  split
  · rfl
  · split <;> rfl

theorem remember_withSettings (fault : Fault) (value : Option Float) (unit : AngleUnit)
    (dark : Bool) : (s.withSettings unit dark).remember fault value =
      (s.remember fault value).withSettings unit dark := by
  cases value <;> rfl

/-- The settings are read in an evaluation only. -/
theorem apply_withSettings {action : Action} (common : action.isSetting = false)
    {unit : AngleUnit} {dark : Bool}
    (outcome : action = .evaluate → (s.withSettings unit dark).outcome lib = s.outcome lib) :
    (s.withSettings unit dark).apply lib action = (s.apply lib action).withSettings unit dark := by
  cases action with
  | enter text => exact enter_withSettings text unit dark
  | clear => rfl
  | clearAll => rfl
  | erase => rfl
  | evaluate =>
    simp only [apply, evaluate, outcome rfl]
    split <;> rfl
  | setUnit unit => cases common
  | toggleTheme => cases common
  | recallMemory => rfl
  | clearMemory => rfl
  | storeMemory => exact remember_withSettings ..
  | addToMemory => exact remember_withSettings ..
  | subtractFromMemory => exact remember_withSettings ..

theorem contents_apply (lib : Elementary) (same : s.contents = s'.contents) {action : Action}
    (common : action.isSetting = false)
    (free : action = .evaluate → Calculation.namesTrig s.display = false) :
    (s.apply lib action).contents = (s'.apply lib action).contents := by
  have eq := eq_withSettings same
  rw [eq, apply_withSettings common fun evaluates => ?_]
  · rfl
  · rw [← eq]
    exact (outcome_eq_of_contents same (free evaluates)).symm

theorem contentsAlong_cons_setting (lib : Elementary) (s : Session) {action : Action}
    (setting : action.isSetting) (actions : List Action) :
    s.contentsAlong lib (action :: actions) = (s.apply lib action).contentsAlong lib actions :=
  if_pos setting

theorem contentsAlong_cons_common (lib : Elementary) (s : Session) {action : Action}
    (common : action.isSetting = false) (actions : List Action) :
    s.contentsAlong lib (action :: actions) =
      (s.apply lib action).contents :: (s.apply lib action).contentsAlong lib actions :=
  if_neg (Bool.eq_false_iff.1 common)

theorem evaluatesNoTrig_nil : s.EvaluatesNoTrig lib [] := by
  intro before after split
  simp at split

theorem evaluatesNoTrig_cons {action : Action} {actions : List Action} :
    s.EvaluatesNoTrig lib (action :: actions) ↔
      (action = .evaluate → Calculation.namesTrig s.display = false) ∧
        (s.apply lib action).EvaluatesNoTrig lib actions := by
  constructor
  · intro free
    refine ⟨fun evaluates => free [] actions (by rw [evaluates]; rfl), ?_⟩
    intro before after split
    exact free (action :: before) after (by rw [split]; rfl)
  · rintro ⟨now, later⟩ before after split
    cases before with
    | nil => exact now (List.cons.inj split).1
    | cons first before =>
      obtain ⟨rfl, others⟩ := List.cons.inj split
      exact later before after others

theorem contents_run_of_isSetting (lib : Elementary) {settings : List Action}
    (all : ∀ action ∈ settings, action.isSetting) :
    (s.run lib settings).contents = s.contents := by
  induction settings generalizing s with
  | nil => rfl
  | cons action settings ih =>
    obtain ⟨first, others⟩ := List.forall_mem_cons.1 all
    rw [run_cons, ih others, contents_apply_of_isSetting lib first]

theorem contentsAlong_of_isSetting (lib : Elementary) {settings : List Action} (rest : List Action)
    (all : ∀ action ∈ settings, action.isSetting) :
    s.contentsAlong lib (settings ++ rest) = (s.run lib settings).contentsAlong lib rest := by
  induction settings generalizing s with
  | nil => rfl
  | cons action settings ih =>
    obtain ⟨first, others⟩ := List.forall_mem_cons.1 all
    rw [List.cons_append, contentsAlong_cons_setting lib s first, ih others, run_cons]

/-- Two sessions that differ in their settings at most hold the same after every action of two runs
that differ in changes of settings at most, if the first run evaluates no display with a function of
an angle in it. -/
theorem contentsAlong_eq_of_settings (lib : Elementary) {s s' : Session}
    (same : s.contents = s'.contents) {actions actions' : List Action}
    (common : actions.filter (!·.isSetting) = actions'.filter (!·.isSetting))
    (free : s.EvaluatesNoTrig lib actions) :
    s.contentsAlong lib actions = s'.contentsAlong lib actions' ∧
      (s.run lib actions).contents = (s'.run lib actions').contents := by
  induction actions generalizing s s' actions' with
  | nil =>
    have settings : ∀ action ∈ actions', action.isSetting := by
      simpa using List.filter_eq_nil_iff.1 common.symm
    have along := @contentsAlong_of_isSetting s' lib actions' [] settings
    rw [List.append_nil] at along
    exact ⟨along.symm, same.trans (contents_run_of_isSetting lib settings).symm⟩
  | cons action actions ih =>
    obtain ⟨now, later⟩ := evaluatesNoTrig_cons.1 free
    cases setting : action.isSetting with
    | true =>
      rw [List.filter_cons_of_neg (by simp [setting])] at common
      rw [contentsAlong_cons_setting lib s setting]
      exact ih ((contents_apply_of_isSetting lib setting).trans same) common later
    | false =>
      rw [List.filter_cons_of_pos (by simp [setting])] at common
      -- The other run first changes its settings, then does the same action.
      obtain ⟨settings, rest, rfl, all, -, common⟩ := List.filter_eq_cons_iff.1 common.symm
      have all : ∀ action ∈ settings, action.isSetting := by simpa using all
      have same := same.trans (contents_run_of_isSetting lib all).symm
      have next := contents_apply lib same setting now
      obtain ⟨along, final⟩ := ih next common.symm later
      rw [contentsAlong_of_isSetting lib _ all, run_append, contentsAlong_cons_common lib _ setting,
        contentsAlong_cons_common lib _ setting, next, along]
      exact ⟨rfl, final⟩

theorem contentsAlong_eq_of_settings_quotients :
    let lib : Elementary := { Elementary.native with log10 := fun _ => -0.6020599913279624 }
    let s : Session := {}
    let s' : Session := { unit := .radians, dark := true }
    let actions : List Action := [.enter "sqrt(4)", .toggleTheme, .enter "/(1-1)", .evaluate,
      .enter "1/4", .setUnit .radians, .evaluate, .addToMemory, .enter "+cos(0)"]
    let actions' : List Action := [.setUnit .degrees, .enter "sqrt(4)", .enter "/(1-1)", .evaluate,
      .enter "1/4", .evaluate, .toggleTheme, .addToMemory, .enter "+cos(0)", .setUnit .degrees]
    s.EvaluatesNoTrig lib actions ∧
      s.contentsAlong lib actions = s'.contentsAlong lib actions' := by
  intro lib s s' actions actions'
  have same : s.contents = s'.contents := rfl
  have common : actions.filter (!·.isSetting) = actions'.filter (!·.isSetting) := rfl
  have free : s.EvaluatesNoTrig lib actions := by
    simp only [actions, evaluatesNoTrig_cons, evaluatesNoTrig_nil, reduceCtorEq, false_implies,
      forall_const, true_and, and_true, lib, s]
    constructor
    · decide +kernel
    · decide +kernel
  exact ⟨free, (contentsAlong_eq_of_settings lib same common free).1⟩

end Session

end Calculator
