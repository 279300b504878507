import Calculator.Proofs.Reachable

/-! Actions that fail. An evaluation fails with its text, an operation on the memory when the
display is no finite number or the new memory would not be finite, and no other action fails. What
fails changes nothing but the error, which stays until an action takes it away. -/
namespace Calculator

open Number

theorem LexError.message_ne_empty (e : LexError) : e.message ≠ "" := by
  unfold message
  split <;> simp [String.append_eq_empty_iff, toString]

theorem SyntaxError.message_ne_empty (e : SyntaxError) : e.message ≠ "" := by
  unfold message
  split <;> simp [String.append_eq_empty_iff, toString]

theorem EvalError.message_ne_empty (e : EvalError) : e.message ≠ "" := by
  unfold message
  split <;> simp [String.append_eq_empty_iff, toString]

theorem Fault.message_ne_empty (fault : Fault) : fault.message ≠ "" := by
  unfold message CalcError.message
  split
  · split
    · exact LexError.message_ne_empty _
    · exact SyntaxError.message_ne_empty _
    · exact EvalError.message_ne_empty _
  · simp
  · simp

/-- The operations that change the memory by the number on the display: what each of them makes of
the two, and its error. -/
inductive MemoryOperation : Action → (Float → Float → Float) → Fault → Prop
  | store : MemoryOperation .storeMemory (fun _ x => x) .storingMemory
  | add : MemoryOperation .addToMemory (· + ·) .changingMemory
  | subtract : MemoryOperation .subtractFromMemory (· - ·) .changingMemory

namespace Session

/-- Without the white space around it the display is a text of the finite number `x`. -/
def Reads (s : Session) (x : Float) : Prop :=
  read? (Text.trim s.display.toList) = some x ∧ x.isFinite

inductive Fails (lib : Elementary) (s : Session) : Action → Fault → Prop
  | evaluate {e : CalcError} (failed : Calculation.evaluate lib s.unit s.display = .error e) :
    s.Fails lib .evaluate (.calculation e)
  | memory {action : Action} {op : Float → Float → Float} {fault : Fault}
    (operation : MemoryOperation action op fault)
    (none : ¬∃ x, s.Reads x ∧ (op s.memory x).isFinite) : s.Fails lib action fault

/-- The error that an action gives: the one that it leaves where none was pending. -/
def fault? (lib : Elementary) (s : Session) (action : Action) : Option Fault :=
  (({ s with error := none } : Session).apply lib action).error

variable {lib : Elementary} {s : Session} {action : Action} {op : Float → Float → Float}
  {fault fault' : Fault} {x : Float}

theorem number?_eq_some_iff : s.number? = some x ↔ s.Reads x := Option.filter_eq_some_iff

theorem combined?_eq_some_iff {y : Float} :
    s.combined? op = some y ↔ ∃ x, s.Reads x ∧ op s.memory x = y ∧ y.isFinite := by
  simp only [combined?, Option.filter_eq_some_iff, Option.map_eq_some_iff, number?_eq_some_iff]
  constructor
  · rintro ⟨⟨x, reads, rfl⟩, finite⟩
    exact ⟨x, reads, rfl, finite⟩
  · rintro ⟨x, reads, rfl, finite⟩
    exact ⟨⟨x, reads, rfl⟩, finite⟩

theorem combined?_eq_none_iff :
    s.combined? op = none ↔ ¬∃ x, s.Reads x ∧ (op s.memory x).isFinite := by
  rw [Option.eq_none_iff_forall_ne_some, not_exists]
  constructor
  · rintro none x ⟨reads, finite⟩
    exact none _ (combined?_eq_some_iff.2 ⟨x, reads, rfl, finite⟩)
  · intro none y combined
    obtain ⟨x, reads, rfl, finite⟩ := combined?_eq_some_iff.1 combined
    exact none x ⟨reads, finite⟩

/-- What is read off the display is finite, so storing it needs no other check. -/
theorem combined?_store : s.combined? (fun _ x => x) = s.number? := by
  rw [combined?, Option.map_id', number?, Option.filter_filter]
  simp only [Bool.and_self]

theorem apply_of_operation (operation : MemoryOperation action op fault) :
    s.apply lib action = s.remember fault (s.combined? op) := by
  cases operation with
  | store => exact congrArg (s.remember .storingMemory) combined?_store.symm
  | add => rfl
  | subtract => rfl

theorem Fails.apply_eq (h : s.Fails lib action fault) : s.apply lib action = s.fail fault := by
  cases h with
  | evaluate failed => exact evaluate_of_outcome_error failed
  | memory operation none =>
    rw [apply_of_operation operation, combined?_eq_none_iff.2 none]
    rfl

/-- The pending error has no part in it. -/
theorem Fails.fault?_eq (h : s.Fails lib action fault) : s.fault? lib action = some fault := by
  have same : Fails lib { s with error := none } action fault := by
    cases h with
    | evaluate failed => exact .evaluate failed
    | memory operation none => exact .memory operation none
  rw [fault?, same.apply_eq]
  rfl

theorem fails_of_operation (operation : MemoryOperation action op fault)
    (h : s.fault? lib action = some fault') : s.Fails lib action fault' := by
  rw [fault?, apply_of_operation operation] at h
  change (remember _ fault (s.combined? op)).error = some fault' at h
  cases combined : s.combined? op with
  | none =>
    rw [combined] at h
    obtain rfl : fault = fault' := Option.some.inj h
    exact .memory operation (combined?_eq_none_iff.1 combined)
  | some y =>
    rw [combined] at h
    cases h

theorem error_enter (noError : s.error = none) (text : String) : (s.enter text).error = none := by
  unfold Session.enter
  split
  · rfl
  · split <;> exact noError

/-- Evaluations and operations on the memory are all that can fail. -/
theorem fault?_eq_some_iff : s.fault? lib action = some fault ↔ s.Fails lib action fault := by
  refine ⟨fun h => ?_, Fails.fault?_eq⟩
  cases action with
  | enter text =>
    have noError : s.fault? lib (.enter text) = none :=
      error_enter (s := { s with error := none }) rfl text
    rw [noError] at h
    cases h
  | evaluate =>
    cases value : s.outcome lib with
    | ok y =>
      have same : outcome lib { s with error := none } = .ok y := value
      rw [fault?, apply, Session.evaluate, same] at h
      cases h
    | error e =>
      have failed : s.Fails lib .evaluate (.calculation e) := .evaluate value
      rw [failed.fault?_eq] at h
      obtain rfl := Option.some.inj h
      exact failed
  | storeMemory => exact fails_of_operation .store h
  | addToMemory => exact fails_of_operation .add h
  | subtractFromMemory => exact fails_of_operation .subtract h
  | clear | clearAll | erase | setUnit unit | toggleTheme | recallMemory | clearMemory => cases h

/-- An operation on the memory that does not fail changes nothing but the memory. -/
theorem exists_memory_of_not_fails (operation : MemoryOperation action op fault)
    (succeeds : ¬∃ fault, s.Fails lib action fault) :
    ∃ x, s.Reads x ∧ (op s.memory x).isFinite ∧
      s.apply lib action = { s with memory := op s.memory x } := by
  have reads : ∃ x, s.Reads x ∧ (op s.memory x).isFinite := by
    by_contra none
    exact succeeds ⟨fault, .memory operation none⟩
  obtain ⟨x, reads, finite⟩ := reads
  refine ⟨x, reads, finite, ?_⟩
  rw [apply_of_operation operation, combined?_eq_some_iff.2 ⟨x, reads, rfl, finite⟩]
  rfl

/-- The actions that take a pending error away: entering, clearing, recalling the memory, and an
evaluation that succeeds. -/
def ClearsError (lib : Elementary) (s : Session) : Action → Prop
  | .enter _ | .clear | .clearAll | .recallMemory => True
  | .evaluate => ∃ x, Calculation.evaluate lib s.unit s.display = .ok x
  | _ => False

theorem error_remember (pending : s.error.isSome) (fault : Fault) (value : Option Float) :
    (s.remember fault value).error.isSome := by
  cases value with
  | none => rfl
  | some y => exact pending

theorem error_apply_eq_none_iff (pending : s.error.isSome) :
    (s.apply lib action).error = none ↔ s.ClearsError lib action := by
  have stays {o : Option Fault} (h : o.isSome) : o = none ↔ False := by
    simp [Option.isSome_iff_ne_none.1 h]
  cases action with
  | enter text =>
    have replaced : s.replaces text := by simp [replaces, pending]
    have entered : s.apply lib (.enter text) = _ := enter_of_replaces replaced
    rw [entered]
    exact iff_of_true rfl trivial
  | evaluate =>
    cases outcome : s.outcome lib with
    | ok y =>
      refine iff_of_true ?_ ⟨y, outcome⟩
      change (s.evaluate lib).error = none
      rw [Session.evaluate, outcome]
      rfl
    | error e =>
      have failed : s.apply lib .evaluate = _ := evaluate_of_outcome_error outcome
      have failing : Calculation.evaluate lib s.unit s.display = .error e := outcome
      simp [failed, fail, ClearsError, failing]
  | clear | clearAll | recallMemory => exact iff_of_true rfl trivial
  | erase | setUnit unit | toggleTheme | clearMemory => exact stays pending
  | storeMemory | addToMemory | subtractFromMemory => exact stays (error_remember pending _ _)

end Session

/-- What holds at the start of a run and not at its end is lost in one of the steps. -/
theorem exists_losing_step {σ α : Type} (step : σ → α → σ) (p : σ → Prop) {s : σ} {as : List α}
    (start : p s) (final : ¬p (as.foldl step s)) :
    ∃ before a after, as = before ++ a :: after ∧ p (before.foldl step s) ∧
      ¬p (step (before.foldl step s) a) := by
  induction as generalizing s with
  | nil => exact absurd start final
  | cons a as ih =>
    by_cases next : p (step s a)
    · obtain ⟨before, a', after, rfl, holds, lost⟩ := ih next final
      exact ⟨a :: before, a', after, rfl, holds, lost⟩
    · exact ⟨[], a, as, rfl, start, next⟩

namespace Desk

def actions (d : Desk) : Step → List Action
  | .act action => [action]
  | .keyboard events => events.filterMap Event.action?
  | .click label =>
    match d.openWindow.click? d.session label with
    | some (.act action) => [action]
    | _ => []
  | _ => []

/-- The steps that take a pending error away: starting again, and those with such an action, the
error being there until then. -/
def ClearsError (lib : Elementary) (d : Desk) (step : Step) : Prop :=
  (∃ hasStorage, step = .restart hasStorage) ∨
    ∃ before action after, d.actions step = before ++ action :: after ∧
      (d.session.run lib before).error.isSome ∧
        (d.session.run lib before).ClearsError lib action

variable {lib : Elementary} {d : Desk} {step : Step}

theorem error_step (restart : ¬∃ hasStorage, step = .restart hasStorage) :
    (d.step lib step).session.error = (d.session.run lib (d.actions step)).error := by
  cases step with
  | restart hasStorage => exact absurd ⟨hasStorage, rfl⟩ restart
  | click label =>
    change (d.click lib label).session.error = _
    simp only [Desk.click, actions]
    cases d.openWindow.click? d.session label with
    | none => rfl
    | some effect => cases effect <;> rfl
  | _ => rfl

theorem clearsError_of_error_step (pending : d.session.error.isSome)
    (gone : (d.step lib step).session.error = none) : d.ClearsError lib step := by
  by_cases restart : ∃ hasStorage, step = .restart hasStorage
  · exact .inl restart
  · rw [error_step restart] at gone
    obtain ⟨before, action, after, eq, still, lost⟩ :=
      exists_losing_step (Session.apply lib) (fun s => s.error.isSome) pending
        (Option.not_isSome_iff_eq_none.2 gone)
    refine .inr ⟨before, action, after, eq, still, ?_⟩
    exact (Session.error_apply_eq_none_iff still).1 (Option.not_isSome_iff_eq_none.1 lost)

end Desk

namespace Session

/-- Exactly the evaluations fail whose text has no value, and the operations on the memory for which
the display is no finite number or the new memory would not be finite. What fails changes nothing
but the error, and has a message; an operation on the memory that does not fail changes nothing but
the memory. Over any run a pending error goes away only in a step that clears it. -/
theorem fault?_laws (lib : Elementary) (s : Session) :
    (∀ action fault, s.fault? lib action = some fault ↔ s.Fails lib action fault) ∧
      (∀ action fault, s.Fails lib action fault →
        s.apply lib action = { s with error := some fault } ∧ fault.message ≠ "") ∧
      (∀ action op fault, MemoryOperation action op fault → (¬∃ fault, s.Fails lib action fault) →
        ∃ x, s.Reads x ∧ (op s.memory x).isFinite ∧
          s.apply lib action = { s with memory := op s.memory x }) ∧
      ∀ (d : Desk) (steps : List Step), d.session.error.isSome →
        (d.run lib steps).session.error = none →
          ∃ before step after, steps = before ++ step :: after ∧
            (d.run lib before).session.error.isSome ∧ (d.run lib before).ClearsError lib step := by
  refine ⟨fun action fault => fault?_eq_some_iff, ?_, ?_, ?_⟩
  · exact fun action fault fails => ⟨fails.apply_eq, fault.message_ne_empty⟩
  · exact fun action op fault => exists_memory_of_not_fails
  · intro d steps pending gone
    obtain ⟨before, step, after, eq, still, lost⟩ :=
      exists_losing_step (Desk.step lib) (fun d => d.session.error.isSome) pending
        (Option.not_isSome_iff_eq_none.2 gone)
    exact ⟨before, step, after, eq, still,
      Desk.clearsError_of_error_step still (Option.not_isSome_iff_eq_none.1 lost)⟩

/-- A number that is too large to be added to the memory, but not to be stored there. -/
theorem fault?_laws_overflow :
    let s : Session := { display := " 1e308\t", error := some .storingMemory, memory := 1.5e308 }
    s.apply .native .addToMemory = { s with error := some .changingMemory } ∧
      s.apply .native .storeMemory = { s with memory := 1e308 } := by
  intro s
  have reads : s.Reads 1e308 := by
    unfold Reads
    decide +kernel
  have only {x : Float} (h : s.Reads x) : x = 1e308 := Option.some.inj (h.1.symm.trans reads.1)
  obtain ⟨-, fails, stores, -⟩ := fault?_laws .native s
  constructor
  · refine (fails _ _ (.memory .add ?_)).1
    rintro ⟨x, h, finite⟩
    rw [only h] at finite
    exact absurd finite (by decide +kernel)
  · have succeeds : ¬∃ fault, s.Fails .native .storeMemory fault := by
      rintro ⟨fault, fails⟩
      cases fails with
      | memory operation none =>
        cases operation
        exact none ⟨1e308, reads, reads.2⟩
    obtain ⟨x, h, -, stored⟩ := stores _ _ _ .store succeeds
    rw [stored, only h]

end Session

end Calculator
