import Calculator.Proofs.Restoring
import Calculator.Proofs.Typing

/-! What holds of a calculator in every state that it reaches. Display, memory and history stay in
their bounds, whatever is entered. A display that only the window has changed holds nothing but
characters that can be entered. -/
namespace Calculator

open Number Token

/-- Display, memory and history are in their bounds. -/
structure Session.Bounded (s : Session) : Prop where
  display : s.display.length ≤ displayLimit
  memory : s.memory.isFinite
  history : s.history.length ≤ historyLimit

/-- A text that can be entered: it has a character, and only characters that a keyboard enters. -/
structure Enterable (text : String) : Prop where
  nonempty : text ≠ ""
  accepted : ∀ c ∈ text.toList, isExpressionCharacter c

/-- The logarithm is right, but for one, about the first digit of a number that is shown without an
exponent. -/
def Elementary.LogsInRange (lib : Elementary) : Prop :=
  ∀ x : Float, x.isFinite → ¬Display.IsOuter |exact x| → -11 ≤ Display.magnitude lib x

namespace Session

variable {lib : Elementary} {s : Session} {x : Float}

theorem isFinite_zero : (0.0 : Float).isFinite := by decide +kernel

theorem length_shown_le (log : lib.LogsInRange) (finite : x.isFinite) :
    (shown lib x).length ≤ displayLimit := by
  have := Display.length_text_le lib finite (log x finite)
  rw [shown, String.length_ofList, displayLimit]
  omega

/-- What is shown of a finite number can be entered. -/
theorem enterable_shown (lib : Elementary) (finite : x.isFinite) : Enterable (shown lib x) := by
  obtain ⟨negative, numeral, text, isNumeral⟩ := Display.exists_isNumeral_text lib finite
  have list : (shown lib x).toList = withSign negative numeral := by
    rw [shown, text, String.toList_ofList]
  constructor
  · intro empty
    rw [empty] at list
    obtain rfl : numeral = [] := by cases negative <;> simp_all [withSign]
    cases isNumeral.1
  · rw [list]
    exact isExpressionCharacter_of_isNumeral isNumeral

theorem enterable_restingDisplay : Enterable restingDisplay := by
  have digit : restingDisplay.toList.all isExpressionCharacter := by decide
  exact ⟨by decide, List.all_eq_true.1 digit⟩

theorem Bounded.setDisplay (h : s.Bounded) {display : String} (error : Option Fault)
    (fits : display.length ≤ displayLimit) : Bounded { s with display, error } :=
  ⟨fits, h.memory, h.history⟩

theorem Bounded.remember (h : s.Bounded) (fault : Fault) {value : Option Float}
    (finite : ∀ y ∈ value, y.isFinite) : (s.remember fault value).Bounded := by
  cases value with
  | none => exact ⟨h.display, h.memory, h.history⟩
  | some y => exact ⟨h.display, finite y rfl, h.history⟩

theorem isFinite_of_mem_filter {value : Option Float} {y : Float}
    (mem : y ∈ value.filter (·.isFinite)) : y.isFinite :=
  (Option.filter_eq_some_iff.1 mem).2

theorem length_restingDisplay : restingDisplay.length ≤ displayLimit := by decide

theorem Bounded.enter (h : s.Bounded) (text : String) : (s.enter text).Bounded := by
  unfold Session.enter
  split
  · exact h.setDisplay none (by rw [length_fit]; exact Nat.min_le_left _ _)
  · rename_i goes
    split
    · exact h
    · rename_i accepted
      simp only [refuses, goes, Bool.not_false, Bool.true_and, decide_eq_true_eq, Nat.not_lt]
        at accepted
      exact ⟨by rwa [String.length_append], h.memory, h.history⟩

theorem Bounded.erase (h : s.Bounded) : s.erase.Bounded := by
  refine ⟨?_, h.memory, h.history⟩
  rw [Session.erase]
  split
  · exact length_restingDisplay
  · rw [String.length_ofList, List.length_dropLast, String.length_toList]
    exact Nat.le_trans (Nat.sub_le _ _) h.display

theorem Bounded.evaluate (h : s.Bounded) (log : lib.LogsInRange) : (s.evaluate lib).Bounded := by
  unfold Session.evaluate
  split
  · rename_i y success
    exact ⟨length_shown_le log (Calculation.isFinite_of_evaluate success), h.memory,
      List.length_take_le _ _⟩
  · exact ⟨h.display, h.memory, h.history⟩

/-- No action takes anything out of its bounds. -/
theorem Bounded.apply (h : s.Bounded) (log : lib.LogsInRange) (action : Action) :
    (s.apply lib action).Bounded := by
  cases action with
  | enter text => exact h.enter text
  | clear => exact h.setDisplay none length_restingDisplay
  | clearAll => exact ⟨length_restingDisplay, h.memory, Nat.zero_le _⟩
  | erase => exact h.erase
  | evaluate => exact h.evaluate log
  | setUnit unit => exact ⟨h.display, h.memory, h.history⟩
  | toggleTheme => exact ⟨h.display, h.memory, h.history⟩
  | storeMemory => exact h.remember _ fun y => isFinite_of_mem_filter
  | recallMemory => exact h.setDisplay none (length_shown_le log h.memory)
  | clearMemory => exact ⟨h.display, isFinite_zero, h.history⟩
  | addToMemory => exact h.remember _ fun y => isFinite_of_mem_filter
  | subtractFromMemory => exact h.remember _ fun y => isFinite_of_mem_filter

end Session

/-- The texts that an action enters can be entered on the keyboard. -/
def Action.FromWindow : Action → Prop
  | .enter text => Enterable text
  | _ => True

theorem Enterable.fit {text : String} (h : Enterable text) : Enterable (Session.fit text) := by
  refine ⟨Session.fit_ne_empty h.nonempty, fun c mem => ?_⟩
  rw [Session.fit, String.toList_ofList] at mem
  exact h.accepted c (List.mem_of_mem_take mem)

theorem Enterable.append {first second : String} (h : Enterable first) (h' : Enterable second) :
    Enterable (first ++ second) := by
  constructor
  · intro empty
    exact h.nonempty (String.append_eq_empty_iff.1 empty).1
  · intro c mem
    rw [String.toList_append, List.mem_append] at mem
    exact mem.elim (h.accepted c) (h'.accepted c)

namespace Session

variable {lib : Elementary} {s : Session}

theorem enterable_display_enter (h : Enterable s.display) {text : String} (h' : Enterable text) :
    Enterable (s.enter text).display := by
  unfold Session.enter
  split
  · exact h'.fit
  · split
    · exact h
    · exact h.append h'

theorem enterable_display_erase (h : Enterable s.display) : Enterable s.erase.display := by
  rw [Session.erase]
  split
  · exact enterable_restingDisplay
  · rename_i long
    constructor
    · intro empty
      have length := congrArg String.length empty
      rw [String.length_ofList, List.length_dropLast, String.length_toList, String.length_empty]
        at length
      omega
    · intro c mem
      rw [String.toList_ofList] at mem
      exact h.accepted c (List.mem_of_mem_dropLast mem)

theorem enterable_display_evaluate (h : Enterable s.display) :
    Enterable (s.evaluate lib).display := by
  unfold Session.evaluate
  split
  · rename_i y success
    exact enterable_shown lib (Calculation.isFinite_of_evaluate success)
  · exact h

theorem display_remember (s : Session) (fault : Fault) (value : Option Float) :
    (s.remember fault value).display = s.display := by
  cases value <;> rfl

/-- After an action of the window the display could have been entered. -/
theorem enterable_display_apply (h : Enterable s.display) (bounded : s.Bounded) {action : Action}
    (fromWindow : action.FromWindow) : Enterable (s.apply lib action).display := by
  cases action with
  | enter text => exact enterable_display_enter h fromWindow
  | clear | clearAll => exact enterable_restingDisplay
  | erase => exact enterable_display_erase h
  | evaluate => exact enterable_display_evaluate h
  | setUnit unit => exact h
  | toggleTheme => exact h
  | recallMemory => exact enterable_shown lib bounded.memory
  | clearMemory => exact h
  | storeMemory => exact (display_remember s _ _).symm ▸ h
  | addToMemory => exact (display_remember s _ _).symm ▸ h
  | subtractFromMemory => exact (display_remember s _ _).symm ▸ h

theorem Bounded.run (h : s.Bounded) (log : lib.LogsInRange) (actions : List Action) :
    (s.run lib actions).Bounded := by
  induction actions generalizing s with
  | nil => exact h
  | cons action actions ih => exact ih (h.apply log action)

theorem enterable_display_run (h : Enterable s.display) (bounded : s.Bounded)
    (log : lib.LogsInRange) {actions : List Action}
    (fromWindow : ∀ action ∈ actions, action.FromWindow) :
    Enterable (s.run lib actions).display := by
  induction actions generalizing s with
  | nil => exact h
  | cons action actions ih =>
    exact ih (enterable_display_apply h bounded (fromWindow action (List.mem_cons_self ..)))
      (bounded.apply log action) fun action mem => fromWindow action (List.mem_cons_of_mem _ mem)

end Session

theorem enterable_iff {text : String} :
    Enterable text ↔ (text != "" && text.toList.all isExpressionCharacter) := by
  rw [Bool.and_eq_true, bne_iff_ne, List.all_eq_true]
  exact ⟨fun h => ⟨h.1, h.2⟩, fun h => ⟨h.1, h.2⟩⟩

instance (text : String) : Decidable (Enterable text) := decidable_of_iff' _ enterable_iff

instance (action : Action) : Decidable action.FromWindow :=
  match action with
  | .enter text => inferInstanceAs (Decidable (Enterable text))
  | .clear | .clearAll | .erase | .evaluate | .setUnit _ | .toggleTheme | .storeMemory
  | .recallMemory | .clearMemory | .addToMemory | .subtractFromMemory => .isTrue trivial

theorem fromWindow_of_mem_keypad : ∀ key ∈ keypad, key.2.FromWindow := by decide +kernel

theorem fromWindow_of_click? {w : Window} {s : Session} {label : String} {action : Action}
    (h : w.click? s label = some (.act action)) : action.FromWindow := by
  obtain ⟨before, after, controls, -⟩ := List.lookup_eq_some_iff.1 h
  have mem : (label, Effect.act action) ∈ w.controls s := by
    rw [controls]
    simp
  simp only [Window.controls, Window.heading, List.mem_append, List.mem_cons, List.mem_map,
    Prod.mk.injEq, Effect.act.injEq, reduceCtorEq, and_false, false_or, List.not_mem_nil,
    or_false] at mem
  rcases mem with (⟨key, mem, -, rfl⟩ | mem) | mem
  · exact fromWindow_of_mem_keypad key mem
  · split at mem
    · simp only [Window.settingControls, List.mem_cons, Prod.mk.injEq, Effect.act.injEq,
        List.not_mem_nil, or_false] at mem
      rcases mem with ⟨-, rfl⟩ | ⟨-, rfl⟩ | ⟨-, rfl⟩ <;> trivial
    · cases mem
  · split at mem
    · rw [Window.historyControls] at mem
      split at mem
      · cases mem
      · obtain ⟨-, same⟩ := Prod.mk.inj (List.mem_singleton.1 mem)
        cases same
        trivial
    · cases mem

theorem fromWindow_of_action? {event : Event} {action : Action}
    (h : event.action? = some action) : action.FromWindow := by
  cases event with
  | text s =>
    rw [Event.action?] at h
    split at h
    · cases h
    · rename_i nonempty
      cases h
      refine ⟨nonempty, fun c mem => ?_⟩
      rw [expressionPart, String.toList_ofList] at mem
      exact (List.mem_filter.1 mem).2
  | key k pressed =>
    cases k <;> cases pressed <;>
      simp only [Event.action?, reduceCtorEq, Option.some.injEq] at h <;> subst h <;> trivial

theorem Session.bounded_default : Session.Bounded {} :=
  ⟨length_restingDisplay, isFinite_zero, Nat.zero_le _⟩

theorem Session.bounded_ofSnapshot (p : Snapshot) : (Session.ofSnapshot p).Bounded := by
  refine ⟨length_restingDisplay, ?_, List.length_take_le _ _⟩
  rw [Session.ofSnapshot]
  dsimp only
  split
  · assumption
  · exact isFinite_zero

/-- A calculator as it starts: new, from a snapshot, or from a stored text if there is one. -/
inductive Session.IsStart : Session → Prop
  | default : IsStart {}
  | ofSnapshot (p : Snapshot) : IsStart (.ofSnapshot p)
  | load (stored : Option String) : IsStart (Desk.load stored)

theorem Session.IsStart.bounded {s : Session} (h : s.IsStart) : s.Bounded := by
  cases h with
  | default => exact bounded_default
  | ofSnapshot p => exact bounded_ofSnapshot p
  | load stored =>
    unfold Desk.load
    split
    · exact bounded_ofSnapshot _
    · exact bounded_default

theorem Session.IsStart.display_eq {s : Session} (h : s.IsStart) : s.display = restingDisplay := by
  cases h with
  | default | ofSnapshot p => rfl
  | load stored =>
    unfold Desk.load
    split <;> rfl

theorem Session.IsStart.enterable {s : Session} (h : s.IsStart) : Enterable s.display := by
  rw [h.display_eq]
  exact enterable_restingDisplay

/-- Every step but the one that puts a text on the display as it is. -/
def Step.IsInput : Step → Prop
  | .setDisplay _ => False
  | _ => True

/-- The steps of the window, and what happens to the stored text. -/
def Step.FromWindow : Step → Prop
  | .act _ | .setDisplay _ => False
  | _ => True

theorem Step.FromWindow.isInput {step : Step} (h : step.FromWindow) : step.IsInput := by
  cases step <;> trivial

namespace Desk

variable {lib : Elementary} {d : Desk} {step : Step}

/-- What the session of a desk does in a step: it starts again, or does some actions, which are
those of the window if the step is. -/
theorem session_step (lib : Elementary) (d : Desk) (input : step.IsInput) :
    (d.step lib step).session.IsStart ∨
      ∃ actions, (d.step lib step).session = d.session.run lib actions ∧
        (step.FromWindow → ∀ action ∈ actions, action.FromWindow) := by
  cases step with
  | act action => exact .inr ⟨[action], rfl, nofun⟩
  | setDisplay text => exact input.elim
  | snapshot | save | store text | view => exact .inr ⟨[], rfl, fun _ => nofun⟩
  | restart hasStorage => exact .inl (.load _)
  | keyboard events =>
    refine .inr ⟨events.filterMap Event.action?, rfl, fun _ action mem => ?_⟩
    obtain ⟨event, -, eq⟩ := List.mem_filterMap.1 mem
    exact fromWindow_of_action? eq
  | click label =>
    right
    change ∃ actions, (d.click lib label).session = _ ∧ _
    rw [Desk.click]
    split
    · rename_i action found
      refine ⟨[action], rfl, fun _ other mem => ?_⟩
      rw [List.mem_singleton.1 mem]
      exact fromWindow_of_click? found
    · exact ⟨[], rfl, fun _ => nofun⟩
    · exact ⟨[], rfl, fun _ => nofun⟩

theorem bounded_step (h : d.session.Bounded) (log : lib.LogsInRange) (input : step.IsInput) :
    (d.step lib step).session.Bounded := by
  rcases session_step lib d input with start | ⟨actions, eq, -⟩
  · exact start.bounded
  · rw [eq]
    exact h.run log actions

theorem enterable_step (h : Enterable d.session.display) (bounded : d.session.Bounded)
    (log : lib.LogsInRange) (fromWindow : step.FromWindow) :
    Enterable (d.step lib step).session.display := by
  rcases session_step lib d fromWindow.isInput with start | ⟨actions, eq, actionsFromWindow⟩
  · exact start.enterable
  · rw [eq]
    exact Session.enterable_display_run h bounded log (actionsFromWindow fromWindow)

/-- The desk after a run of steps. -/
def run (lib : Elementary) (d : Desk) (steps : List Step) : Desk := steps.foldl (Desk.step lib) d

theorem bounded_run (h : d.session.Bounded) (log : lib.LogsInRange) {steps : List Step}
    (input : ∀ step ∈ steps, step.IsInput) : (d.run lib steps).session.Bounded := by
  induction steps generalizing d with
  | nil => exact h
  | cons step steps ih =>
    exact ih (bounded_step h log (input step (List.mem_cons_self ..)))
      fun step mem => input step (List.mem_cons_of_mem _ mem)

theorem enterable_run (h : Enterable d.session.display) (bounded : d.session.Bounded)
    (log : lib.LogsInRange) {steps : List Step} (fromWindow : ∀ step ∈ steps, step.FromWindow) :
    Enterable (d.run lib steps).session.display := by
  induction steps generalizing d with
  | nil => exact h
  | cons step steps ih =>
    have first := fromWindow step (List.mem_cons_self ..)
    exact ih (enterable_step h bounded log first) (bounded_step bounded log first.isInput)
      fun step mem => fromWindow step (List.mem_cons_of_mem _ mem)

end Desk

/-- Of the characters that a keyboard enters, only a point can stand where no token starts. -/
theorem Token.eq_point_of_scanFrom (position : Nat) (cs : List Char)
    (accepted : ∀ c ∈ cs, isExpressionCharacter c) {c : Char} {position' : Nat} :
    scanFrom position cs = .error (.unexpectedCharacter c position') → c = '.' := by
  fun_induction scanFrom position cs with
  | case1 position =>
    intro h
    cases h
  | case2 position d rest blank ih => exact ih fun c mem => accepted c (.tail _ mem)
  | case3 position d rest blank t symbol ih =>
    exact fun h => ih (fun c mem => accepted c (.tail _ mem)) (map_eq_error h)
  | case4 position d rest blank symbol numeral lexeme ih =>
    intro h
    refine ih (fun c mem => accepted c ?_) (map_eq_error h)
    rw [← Numeral.split_append (d :: rest)]
    exact List.mem_append_right _ mem
  | case5 position d rest blank symbol numeral letter letters w word ih =>
    intro h
    exact ih (fun c mem => accepted c ((List.dropWhile_sublist _).mem mem)) (map_eq_error h)
  | case6 position d rest blank symbol numeral letter letters word =>
    intro h
    cases h
  | case7 position d rest blank symbol numeral letter =>
    intro h
    obtain ⟨rfl, -⟩ := LexError.unexpectedCharacter.inj (Except.error.inj h)
    rcases Session.classes_of_isExpressionCharacter (accepted d (List.mem_cons_self ..)) with
      digit | point | alpha | ⟨t, known⟩
    · have ne : d ≠ '.' := by
        rintro rfl
        cases digit
      exact absurd ((Numeral.starts_cons ne).trans digit) numeral
    · exact point
    · exact absurd alpha letter
    · rw [symbol] at known
      cases known

theorem Calculation.scan_of_evaluate {lib : Elementary} {unit : AngleUnit} {s : String}
    {e : LexError} (h : evaluate lib unit s = .error (.lexical e)) : scan s = .error e := by
  rw [evaluate_eq] at h
  rcases bind_eq_error h with unread | ⟨r, -, value⟩
  · rw [read_eq] at unread
    rcases bind_eq_error unread with scanned | ⟨tokens, -, parsed⟩
    · obtain ⟨e', scanned, same⟩ := mapError_eq_error scanned
      cases same
      exact scanned
    · obtain ⟨e', -, same⟩ := mapError_eq_error (map_eq_error parsed)
      cases same
  · obtain ⟨e', -, same⟩ := mapError_eq_error value
    cases same

theorem Session.eq_point_of_evaluate {lib : Elementary} {s : Session} {c : Char} {position : Nat}
    (accepted : ∀ c ∈ s.display.toList, isExpressionCharacter c)
    (h : (s.evaluate lib).error =
      some (.calculation (.lexical (.unexpectedCharacter c position)))) : c = '.' := by
  unfold Session.evaluate at h
  split at h
  · cases h
  · rename_i e outcome
    obtain rfl := Fault.calculation.inj (Option.some.inj h)
    exact Token.eq_point_of_scanFrom 0 _ accepted (Calculation.scan_of_evaluate outcome)

namespace Desk

/-- What holds after any run of steps from any start. -/
theorem run_invariants (lib : Elementary) (log : lib.LogsInRange) {d : Desk}
    (start : d.session.IsStart) {steps : List Step} (input : ∀ step ∈ steps, step.IsInput) :
    let s := (d.run lib steps).session
    s.display.length ≤ Session.displayLimit ∧ s.memory.isFinite ∧
      s.history.length ≤ Session.historyLimit ∧
      ((∀ step ∈ steps, step.FromWindow) →
        s.display ≠ "" ∧ (∀ c ∈ s.display.toList, isExpressionCharacter c) ∧
          ¬"indéfini".toList <:+: s.display.toList ∧
          ∀ c position, (s.evaluate lib).error =
            some (.calculation (.lexical (.unexpectedCharacter c position))) → c = '.') := by
  intro s
  have bounded : s.Bounded := bounded_run start.bounded log input
  refine ⟨bounded.display, bounded.memory, bounded.history, fun fromWindow => ?_⟩
  have enterable : Enterable s.display :=
    enterable_run start.enterable start.bounded log fromWindow
  refine ⟨enterable.nonempty, enterable.accepted, fun shows => ?_, fun c position =>
    Session.eq_point_of_evaluate enterable.accepted⟩
  have accented := enterable.accepted 'é' (shows.subset (by decide))
  exact absurd accented (by decide)

theorem run_invariants_quotient :
    let lib : Elementary := { Elementary.native with log10 := fun _ => -0.6020599913279624 }
    let s := (run lib {} [.click "1", .click "÷", .click "4", .click "="]).session
    s.display.length ≤ Session.displayLimit ∧ s.memory.isFinite ∧
      s.history.length ≤ Session.historyLimit ∧ s.display ≠ "" ∧
      (∀ c ∈ s.display.toList, isExpressionCharacter c) ∧
      ¬"indéfini".toList <:+: s.display.toList ∧
      ∀ c position, (s.evaluate lib).error =
        some (.calculation (.lexical (.unexpectedCharacter c position))) → c = '.' := by
  intro lib s
  have log : lib.LogsInRange := by
    intro x _ _
    change -11 ≤ (Binary.ofFloat (-0.6020599913279624)).floor
    decide +kernel
  have clicks : ∀ step ∈ [Step.click "1", .click "÷", .click "4", .click "="],
      step.IsInput ∧ step.FromWindow := by
    simp [Step.IsInput, Step.FromWindow]
  obtain ⟨display, memory, history, window⟩ := @run_invariants lib log {} .default _
    fun step mem => (clicks step mem).1
  exact ⟨display, memory, history, window fun step mem => (clicks step mem).2⟩

end Desk

end Calculator
