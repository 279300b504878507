import Calculator.Proofs.Reachable
import Calculator.Proofs.Trees
import Mathlib.Data.List.DropRight

/-! The history as a log. An unbounded log of the evaluations that have succeeded grows with every
run; the history is its newest part since everything was last cleared, and the working is that of
its last entry. -/
namespace Calculator

open Number Token

/-- Only white space and what a keyboard enters stands in a text that is scanned. -/
theorem Token.accepted_of_scanFrom (position : Nat) (cs : List Char) :
    ∀ tokens, scanFrom position cs = .ok tokens →
      ∀ c ∈ cs, Text.isBlank c ∨ isExpressionCharacter c := by
  fun_induction scanFrom position cs with
  | case1 position =>
    intro tokens h c mem
    cases mem
  | case2 position d rest blank ih =>
    exact fun tokens h => List.forall_mem_cons.2 ⟨.inl blank, ih tokens h⟩
  | case3 position d rest blank t symbol ih =>
    intro tokens h
    obtain ⟨after, scanned, -⟩ := map_eq_ok h
    refine List.forall_mem_cons.2 ⟨.inr ?_, ih after scanned⟩
    have all : symbols.all isExpressionCharacter := by decide
    exact List.all_eq_true.1 all d (mem_symbols_of_ofSymbol? symbol)
  | case4 position d rest blank symbol numeral lexeme ih =>
    intro tokens h
    obtain ⟨after, scanned, -⟩ := map_eq_ok h
    rw [← Numeral.split_append (d :: rest)]
    exact List.forall_mem_append.2
      ⟨fun c mem => .inr ((Numeral.formed_split numeral).isExpressionCharacter c mem),
        ih after scanned⟩
  | case5 position d rest blank symbol numeral letter letters w word ih =>
    intro tokens h
    obtain ⟨after, scanned, -⟩ := map_eq_ok h
    rw [← @List.takeWhile_append_dropWhile _ Char.isAlpha (d :: rest)]
    refine List.forall_mem_append.2 ⟨fun c mem => .inr ?_, ih after scanned⟩
    have alpha : c.isAlpha := List.mem_takeWhile_imp mem
    simp [isExpressionCharacter, Char.isAlphanum, alpha]
  | case6 | case7 =>
    intro tokens h
    cases h

namespace Calculation

variable {lib : Elementary} {unit : AngleUnit} {s : String} {tokens : List Token} {e : Expr}

theorem not_mem_equals_of_read (h : read s = .ok (tokens, e)) : '=' ∉ s.toList := by
  rw [read_eq] at h
  obtain ⟨scanned, ok, -⟩ := bind_eq_ok h
  intro mem
  have accepted := accepted_of_scanFrom 0 _ _ (mapError_eq_ok ok) '=' mem
  revert accepted
  decide

/-- The tree of a text that has a value is not shown as an empty text. -/
theorem text_ne_nil {x : Float} (h : read s = .ok (tokens, e))
    (value : e.evaluate lib unit = .ok x) : e.text ≠ [] := by
  cases e with
  | number y =>
    obtain ⟨z, checked, -⟩ := bind_eq_ok value
    obtain ⟨rfl, finite⟩ := isFinite_of_finite checked
    obtain ⟨n, lt, rfl⟩ := exists_nthFloat_of_read h (List.mem_singleton_self _) finite
    intro empty
    have starts := (isNumeral_plain lt).1
    rw [show plain (nthFloat n) = [] from empty] at starts
    cases starts
  | constant c => cases c <;> decide
  | negate operand => simp [Expr.text]
  | binary op left right => simp [Expr.text]
  | call f argument =>
    have name : f.name.toList ≠ [] := by rcases f with (_ | _ | _) | _ | _ | _ <;> decide
    simp [Expr.text, name]

end Calculation

structure Success where
  display : String
  unit : AngleUnit
  value : Float
  deriving DecidableEq

def Success.entry (lib : Elementary) (success : Success) : String :=
  Session.entry success.display (Session.shown lib success.value)

namespace Session

variable {lib : Elementary} {s : Session} {action : Action}

/-- The evaluation that an action is, if it succeeds. -/
def success? (lib : Elementary) (s : Session) : Action → Option Success
  | .evaluate => (s.outcome lib).toOption.map fun value => ⟨s.display, s.unit, value⟩
  | _ => none

/-- The evaluations that succeed in a run, the oldest first. -/
def successes (lib : Elementary) (s : Session) : List Action → List Success
  | [] => []
  | action :: actions =>
    (s.success? lib action).toList ++ (s.apply lib action).successes lib actions

theorem successes_append (lib : Elementary) (s : Session) (first second : List Action) :
    s.successes lib (first ++ second) =
      s.successes lib first ++ (s.run lib first).successes lib second := by
  induction first generalizing s with
  | nil => rfl
  | cons action first ih => simp [successes, ih]

theorem successes_concat (lib : Elementary) (s : Session) (actions : List Action)
    (action : Action) : s.successes lib (actions ++ [action]) =
      s.successes lib actions ++ ((s.run lib actions).success? lib action).toList := by
  rw [successes_append]
  simp [successes]

theorem success?_of_outcome {x : Float} (h : s.outcome lib = .ok x) :
    s.success? lib .evaluate = some ⟨s.display, s.unit, x⟩ := by
  simp [success?, h, Except.toOption]

theorem success?_of_error {e : CalcError} (h : s.outcome lib = .error e) :
    s.success? lib .evaluate = none := by
  simp [success?, h, Except.toOption]

theorem evaluate_of_success? {success : Success} (h : s.success? lib action = some success) :
    Calculation.evaluate lib success.unit success.display = .ok success.value := by
  cases action with
  | evaluate =>
    cases outcome : s.outcome lib with
    | error e =>
      rw [success?_of_error outcome] at h
      cases h
    | ok x =>
      rw [success?_of_outcome outcome] at h
      cases h
      exact outcome
  | _ => cases h

theorem evaluate_of_mem_successes {actions : List Action} {success : Success}
    (h : success ∈ s.successes lib actions) :
    Calculation.evaluate lib success.unit success.display = .ok success.value := by
  induction actions generalizing s with
  | nil => cases h
  | cons action actions ih =>
    rcases List.mem_append.1 h with first | later
    · exact evaluate_of_success? (Option.mem_toList.1 first)
    · exact ih later

theorem enter_frame (s : Session) (text : String) :
    (s.enter text).history = s.history ∧ (s.enter text).working = s.working := by
  unfold Session.enter
  split
  · exact ⟨rfl, rfl⟩
  · split <;> exact ⟨rfl, rfl⟩

theorem remember_frame (s : Session) (fault : Fault) (value : Option Float) :
    (s.remember fault value).history = s.history ∧
      (s.remember fault value).working = s.working := by
  cases value <;> exact ⟨rfl, rfl⟩

/-- What is not an evaluation that succeeds changes neither history nor working, but that clearing
everything clears the history. -/
theorem apply_frame (h : s.success? lib action = none) :
    (action ≠ .clearAll → (s.apply lib action).history = s.history) ∧
      (s.apply lib action).working = s.working := by
  cases action with
  | enter text => exact ⟨fun _ => (s.enter_frame text).1, (s.enter_frame text).2⟩
  | clearAll => exact ⟨fun other => absurd rfl other, rfl⟩
  | evaluate =>
    cases outcome : s.outcome lib with
    | error e => simp [apply, Session.evaluate, outcome, fail]
    | ok x =>
      rw [success?_of_outcome outcome] at h
      cases h
  | storeMemory | addToMemory | subtractFromMemory =>
    exact ⟨fun _ => (s.remember_frame _ _).1, (s.remember_frame _ _).2⟩
  | _ => exact ⟨fun _ => rfl, rfl⟩

theorem apply_of_success? {success : Success} (h : s.success? lib action = some success) :
    (s.apply lib action).history = (success.entry lib :: s.history).take historyLimit ∧
      (s.apply lib action).working = (Working.of success.display).toOption.getD {} := by
  cases action with
  | evaluate =>
    cases outcome : s.outcome lib with
    | error e =>
      rw [success?_of_error outcome] at h
      cases h
    | ok x =>
      rw [success?_of_outcome outcome] at h
      cases h
      simp [apply, Session.evaluate, outcome, succeed, Success.entry]
  | _ => cases h

/-- An action that does not clear everything adds what it evaluates in front. -/
theorem history_apply (bounded : s.history.length ≤ historyLimit) (other : action ≠ .clearAll) :
    (s.apply lib action).history =
      ((s.success? lib action).toList.map (·.entry lib) ++ s.history).take historyLimit := by
  cases success : s.success? lib action with
  | none =>
    rw [(apply_frame success).1 other]
    exact (List.take_of_length_le bounded).symm
  | some e => exact (apply_of_success? success).1

/-- The actions up to the last one that clears everything. -/
def untilClear (actions : List Action) : List Action := actions.rdropWhile (· != .clearAll)

/-- The actions after the last one that clears everything. -/
def sinceClear (actions : List Action) : List Action := actions.rtakeWhile (· != .clearAll)

/-- The evaluations that succeed after everything was last cleared, the oldest first. -/
def recent (lib : Elementary) (s : Session) (actions : List Action) : List Success :=
  (s.run lib (untilClear actions)).successes lib (sinceClear actions)

theorem untilClear_append_sinceClear (actions : List Action) :
    untilClear actions ++ sinceClear actions = actions :=
  List.rdropWhile_append_rtakeWhile

theorem untilClear_concat (other : action ≠ .clearAll) (actions : List Action) :
    untilClear (actions ++ [action]) = untilClear actions :=
  List.rdropWhile_concat_pos _ _ _ (by simpa using other)

theorem sinceClear_concat (other : action ≠ .clearAll) (actions : List Action) :
    sinceClear (actions ++ [action]) = sinceClear actions ++ [action] :=
  List.rtakeWhile_concat_pos _ _ _ (by simpa using other)

theorem recent_clear (lib : Elementary) (s : Session) (actions : List Action) :
    s.recent lib (actions ++ [.clearAll]) = [] := by
  rw [recent, sinceClear, List.rtakeWhile_concat_neg _ _ _ (by simp)]
  rfl

theorem recent_concat (other : action ≠ .clearAll) (actions : List Action) :
    s.recent lib (actions ++ [action]) =
      s.recent lib actions ++ ((s.run lib actions).success? lib action).toList := by
  rw [recent, sinceClear_concat other, untilClear_concat other, successes_concat, ← run_append,
    untilClear_append_sinceClear]
  rfl

theorem take_append_take {α : Type} (n : Nat) (first second : List α) :
    (first ++ second.take n).take n = (first ++ second).take n := by
  simp [List.take_append, List.take_take]

/-- The history is the newest part of the log, and what was there at the start comes last. -/
theorem history_run (bounded : s.history.length ≤ historyLimit) (actions : List Action) :
    (s.run lib actions).history = ((s.recent lib actions).reverse.map (·.entry lib) ++
      if .clearAll ∈ actions then [] else s.history).take historyLimit := by
  induction actions using List.reverseRecOn with
  | nil => exact (List.take_of_length_le bounded).symm
  | append_singleton actions action ih =>
    have before : (s.run lib actions).history.length ≤ historyLimit := by
      rw [ih]
      exact List.length_take_le _ _
    rw [run_append]
    by_cases clears : action = .clearAll
    · subst clears
      simp [recent_clear, apply, clearAll]
    · have same : Action.clearAll ∈ actions ++ [action] ↔ .clearAll ∈ actions := by
        simp [Ne.symm clears]
      rw [run_cons, run_nil, history_apply before clears, ih, take_append_take,
        recent_concat clears]
      simp only [same, List.reverse_append, List.map_append, List.append_assoc]
      cases (s.run lib actions).success? lib action <;> rfl

theorem working_run (lib : Elementary) (s : Session) (actions : List Action) :
    (s.run lib actions).working = (s.successes lib actions).getLast?.elim s.working
      fun success => (Working.of success.display).toOption.getD {} := by
  induction actions using List.reverseRecOn with
  | nil => rfl
  | append_singleton actions action ih =>
    rw [run_append, run_cons, run_nil, successes_concat]
    cases success : (s.run lib actions).success? lib action with
    | none => rw [(apply_frame success).2, ih]; simp
    | some e => rw [(apply_of_success? success).2]; simp

end Session

namespace Success

variable {lib : Elementary} {success : Success}

/-- The text of the display, then one sign of equality, then the result. -/
theorem toList_entry (lib : Elementary) (success : Success) :
    (success.entry lib).toList =
      success.display.toList ++ " = ".toList ++ Display.text lib success.value := by
  simp [entry, Session.entry, Session.shown, toString]

theorem exists_read
    (h : Calculation.evaluate lib success.unit success.display = .ok success.value) :
    ∃ tokens e, Calculation.read success.display = .ok (tokens, e) ∧
      e.evaluate lib success.unit = .ok success.value := by
  rw [Calculation.evaluate_eq] at h
  obtain ⟨⟨tokens, e⟩, reads, h⟩ := bind_eq_ok h
  exact ⟨tokens, e, reads, mapError_eq_ok h⟩

theorem count_equals_entry
    (h : Calculation.evaluate lib success.unit success.display = .ok success.value) :
    (success.entry lib).toList.count '=' = 1 := by
  obtain ⟨tokens, e, reads, -⟩ := exists_read h
  have shown := (Session.enterable_shown lib (Calculation.isFinite_of_evaluate h)).accepted
  rw [Session.shown, String.toList_ofList] at shown
  have result : '=' ∉ Display.text lib success.value := fun mem =>
    absurd (shown '=' mem) (by decide)
  rw [toList_entry, List.count_append, List.count_append,
    List.count_eq_zero_of_not_mem (Calculation.not_mem_equals_of_read reads),
    List.count_eq_zero_of_not_mem result]
  rfl

/-- The working after an evaluation is that of its display, and none is shown as empty. -/
theorem exists_working
    (h : Calculation.evaluate lib success.unit success.display = .ok success.value) :
    ∃ tokens e, Calculation.read success.display = .ok (tokens, e) ∧
      (Working.of success.display).toOption =
        some ⟨String.ofList (lineText tokens), String.ofList e.text⟩ ∧ e.text ≠ [] := by
  obtain ⟨tokens, e, reads, value⟩ := exists_read h
  refine ⟨tokens, e, reads, ?_, Calculation.text_ne_nil reads value⟩
  rw [Calculation.working_eq, reads]
  rfl

end Success

namespace Session

/-- A run adds to the log what it evaluates. The history is the newest part of the log, the working
is that of its last entry, and every entry has one sign of equality. Nothing else changes them. -/
theorem run_log (lib : Elementary) {s : Session} (bounded : s.history.length ≤ historyLimit)
    (actions : List Action) :
    let after := s.run lib actions
    after.history = ((s.recent lib actions).reverse.map (·.entry lib) ++
      if .clearAll ∈ actions then [] else s.history).take historyLimit ∧
    (∀ success ∈ s.successes lib actions,
      Calculation.evaluate lib success.unit success.display = .ok success.value ∧
      (success.entry lib).toList =
        success.display.toList ++ " = ".toList ++ Display.text lib success.value ∧
      (success.entry lib).toList.count '=' = 1) ∧
    (s.successes lib actions = [] → after.working = s.working) ∧
    (∀ success ∈ (s.successes lib actions).getLast?, ∃ tokens e,
      Calculation.read success.display = .ok (tokens, e) ∧
      after.working = ⟨String.ofList (lineText tokens), String.ofList e.text⟩ ∧
      after.working ≠ {}) ∧
    (∀ action, after.success? lib action = none →
      (action ≠ .clearAll → (after.apply lib action).history = after.history) ∧
        (after.apply lib action).working = after.working) := by
  intro after
  have working := working_run lib s actions
  refine ⟨history_run bounded actions, fun success mem => ?_, fun none => ?_,
    fun success last => ?_, fun action failed => apply_frame failed⟩
  · have value := evaluate_of_mem_successes mem
    exact ⟨value, success.toList_entry lib, Success.count_equals_entry value⟩
  · rw [none] at working
    exact working
  · obtain ⟨tokens, e, reads, shown, nonempty⟩ :=
      Success.exists_working (evaluate_of_mem_successes (List.mem_of_getLast? last))
    rw [Option.mem_def.1 last, Option.elim, shown] at working
    refine ⟨tokens, e, reads, working, fun empty => nonempty ?_⟩
    have tree := congrArg (·.tree.toList) (working.symm.trans empty)
    simpa using tree

theorem run_log_product :
    let start : Session := { display := "1+2", history := ["0 = 0"] }
    let after := start.run .native
      [.evaluate, .clearAll, .enter "2*3", .evaluate, .enter "/0", .evaluate]
    after.history = ["2*3 = 6"] ∧ after.working = ⟨"2 * 3", "(2 * 3)"⟩ := by
  intro start after
  have recent : start.recent .native
      [.evaluate, .clearAll, .enter "2*3", .evaluate, .enter "/0", .evaluate] =
        [⟨"2*3", .degrees, 6.0⟩] := by
    decide +kernel
  have all : start.successes .native
      [.evaluate, .clearAll, .enter "2*3", .evaluate, .enter "/0", .evaluate] =
        [⟨"1+2", .degrees, 3.0⟩, ⟨"2*3", .degrees, 6.0⟩] := by
    decide +kernel
  have reads : Calculation.read "2*3" = .ok
      ([.number 2.0, .operator .multiply, .number 3.0, .stop],
        .binary .multiply (.number 2.0) (.number 3.0)) := by
    decide +kernel
  obtain ⟨history, -, -, working, -⟩ := @run_log .native start (by decide)
    [.evaluate, .clearAll, .enter "2*3", .evaluate, .enter "/0", .evaluate]
  rw [recent] at history
  refine ⟨history.trans (by decide +kernel), ?_⟩
  obtain ⟨tokens, e, known, shown, -⟩ := working ⟨"2*3", .degrees, 6.0⟩ (by rw [all]; rfl)
  rw [reads] at known
  cases known
  exact shown.trans (by decide +kernel)

end Session

end Calculator
