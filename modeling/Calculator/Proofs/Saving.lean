import Calculator.Proofs.Reachable
import Calculator.Proofs.Storing

/-! Calculators that are saved and started again. The text of a snapshot is read as that snapshot if
its memory is finite. In every state that is reached it is, and the history is not too long, so
nothing that is kept is lost or changed. -/
namespace Calculator

open Number Stored

namespace Snapshot

variable {p : Snapshot}

def fields (p : Snapshot) : List (Value × Value) :=
  [(.lexeme (.name "historique".toList), .list (p.history.map fun s => .lexeme (.text s.toList))),
    (.lexeme (.name "memoire".toList), .lexeme (.numeral (pointed p.memory))),
    (.lexeme (.name "mode_angle".toList), .lexeme (.name (unitName p.unit).toList)),
    (.lexeme (.name "theme_sombre".toList), .lexeme (.name (toString p.dark).toList))]

theorem history?_texts (history : List String) :
    history? (.list (history.map fun s => .lexeme (.text s.toList))) = some history := by
  change (history.map fun s => .lexeme (.text s.toList)).mapM text? = some history
  induction history with
  | nil => rfl
  | cons s history ih =>
    simp only [List.map_cons, List.mapM_cons, ih, text?, String.ofList_toList]
    rfl

theorem memory?_pointed {x : Float} (finite : x.isFinite) :
    memory? (.lexeme (.numeral (pointed x))) = some x := float?_pointed finite

theorem unit?_unitName (unit : AngleUnit) :
    unit? (.lexeme (.name (unitName unit).toList)) = some unit := by
  cases unit <;> decide

theorem dark?_toString (dark : Bool) :
    dark? (.lexeme (.name (toString dark).toList)) = some dark := by
  cases dark <;> decide

theorem ofFields?_fields (finite : p.memory.isFinite) : ofFields? p.fields = some p := by
  have names : p.fields.filterMap (key? ·.1) = fieldNames := by
    simp [fields, key?, name?, fieldNames]
  have distinct : (fieldNames.filter fieldNames.contains).Nodup := by decide
  rw [ofFields?, names]
  simp only [distinct, if_true, fields, List.foldlM_cons, List.foldlM_nil]
  simp [withField, key?, name?, history?_texts, memory?_pointed finite, unit?_unitName,
    dark?_toString]

theorem isMarked_quotes : IsMarked ['"', '\''] := by
  refine ⟨List.mem_cons_self .., ?_⟩
  simp only [List.mem_cons, List.not_mem_nil, or_false]
  rintro m (rfl | rfl) <;> rfl

theorem isSimpleName_unitName (unit : AngleUnit) : isSimpleName (unitName unit).toList := by
  cases unit <;> decide +kernel

theorem isSimpleName_toString (dark : Bool) : isSimpleName (toString dark).toList := by
  cases dark <;> decide +kernel

/-- The lexemes of a snapshot's text after its opening parenthesis. -/
def lexemes (p : Snapshot) : List Stored.Lexeme :=
  .name "historique".toList :: .mark ':' :: .mark '[' ::
    textItems (p.history.map (·.toList)) (.mark ',' ::
      .name "memoire".toList :: .mark ':' :: .numeral (pointed p.memory) :: .mark ',' ::
      .name "mode_angle".toList :: .mark ':' :: .name (unitName p.unit).toList :: .mark ',' ::
      .name "theme_sombre".toList :: .mark ':' :: .name (toString p.dark).toList :: [.mark ')'])

theorem toList_text (p : Snapshot) : p.text.toList =
    '(' :: ("historique".toList ++ ':' :: '[' ::
      ([','].intercalate ((p.history.map (·.toList)).map (Text.quote ['"', '\''])) ++ ']' :: ',' ::
      ("memoire".toList ++ ':' :: (pointed p.memory ++ ',' ::
      ("mode_angle".toList ++ ':' :: ((unitName p.unit).toList ++ ',' ::
      ("theme_sombre".toList ++ ':' :: ((toString p.dark).toList ++ [')'])))))))) := by
  -- Each piece of the written text is split where a lexeme ends.
  have text : p.text.toList = '(' :: ("historique".toList ++ [':']) ++ historyText p.history ++
      ',' :: ("memoire".toList ++ [':']) ++ pointed p.memory ++
      ',' :: ("mode_angle".toList ++ [':']) ++ (unitName p.unit).toList ++
      ',' :: ("theme_sombre".toList ++ [':']) ++ (toString p.dark).toList ++ [')'] :=
    String.toList_ofList
  have texts : p.history.map quoted = (p.history.map (·.toList)).map (Text.quote ['"', '\'']) := by
    rw [List.map_map]
    rfl
  simpa only [historyText, texts, List.append_assoc, List.cons_append, List.nil_append] using text

theorem lexemes?_text (finite : p.memory.isFinite) :
    ∃ after, lexemes? p.text.toList = some (.opening after :: p.lexemes) := by
  have simple : ∀ name ∈ fieldNames, isSimpleName name.toList := by decide +kernel
  have number := fun c => @isPointed_of_mem_pointed p.memory c finite
  rw [toList_text, lexemes?_opening (by simp),
    lexemes?_field (simple "historique" (by decide)), lexemes?_mark (by decide),
    lexemes?_intercalate isMarked_quotes, lexemes?_mark (by decide), lexemes?_mark (by decide),
    lexemes?_field (simple "memoire" (by decide)),
    lexemes?_numeral (pointed_ne_nil finite) number (Avoids.cons_iff.2 (by decide)),
    lexemes?_mark (by decide),
    lexemes?_field (simple "mode_angle" (by decide)),
    lexemes?_name (isSimpleName_unitName _) (Avoids.cons_iff.2 (by decide)),
    lexemes?_mark (by decide),
    lexemes?_field (simple "theme_sombre" (by decide)),
    lexemes?_name (isSimpleName_toString _) (Avoids.cons_iff.2 (by decide)),
    lexemes?_mark (by decide), lexemes?_nil]
  exact ⟨_, rfl⟩

theorem record?_text (finite : p.memory.isFinite) :
    record? "EtatPersistant" p.text.toList = some p.fields := by
  obtain ⟨after, scanned⟩ := lexemes?_text finite
  have names (dark : Bool) : (toString dark).toList ≠ "Some".toList := by cases dark <;> decide
  have units (unit : AngleUnit) : (unitName unit).toList ≠ "Some".toList := by
    cases unit <;> decide
  refine record?_of_gives scanned ?_
  have history : p.history.map (fun s => .lexeme (.text s.toList)) =
      (p.history.map (·.toList)).map (Value.lexeme ∘ .text) := by
    rw [List.map_map]
    rfl
  rw [fields, history]
  refine gives_entry (gives_list _ _) ?_
  refine gives_entry (gives_numeral (isNumber_pointed finite) _) ?_
  refine gives_entry (gives_name (units _) _ _) ?_
  exact gives_lastEntry (gives_name (names _) _ _)

/-- What is written of a snapshot is read as that snapshot. -/
theorem ofText?_text (finite : p.memory.isFinite) : ofText? p.text = some p := by
  rw [ofText?, record?_text finite, Option.bind_some, ofFields?_fields finite]

end Snapshot

/-- Nothing of what is kept is lost when the calculator starts again. -/
structure Session.Storable (s : Session) : Prop where
  memory : s.memory.isFinite
  history : s.history.length ≤ historyLimit

/-- A calculator as it is after it was saved and started again. -/
def Session.reopened (s : Session) : Session :=
  { display := "0", error := none, history := s.history, memory := s.memory, unit := s.unit,
    dark := s.dark, working := {} }

namespace Session

variable {lib : Elementary} {s : Session}

theorem Storable.ofSnapshot_snapshot (h : s.Storable) : ofSnapshot s.snapshot = s.reopened := by
  simp only [ofSnapshot, snapshot, h.memory, if_true, List.take_of_length_le h.history]
  rfl

/-- The stored text of a session gives the session back. -/
theorem Storable.load_text (h : s.Storable) : Desk.load (some s.snapshot.text) = s.reopened := by
  have read : Snapshot.ofText? s.snapshot.text = some s.snapshot := Snapshot.ofText?_text h.memory
  rw [Desk.load, Option.bind_some, read]
  exact h.ofSnapshot_snapshot

theorem Storable.remember (h : s.Storable) (fault : Fault) {value : Option Float}
    (finite : ∀ y ∈ value, y.isFinite) : (s.remember fault value).Storable := by
  cases value with
  | none => exact ⟨h.memory, h.history⟩
  | some y => exact ⟨finite y rfl, h.history⟩

/-- Unlike the bound on the display this needs nothing of the logarithm. -/
theorem Storable.apply (h : s.Storable) (action : Action) : (s.apply lib action).Storable := by
  cases action with
  | enter text =>
    change (s.enter text).Storable
    unfold Session.enter
    split_ifs <;> exact ⟨h.memory, h.history⟩
  | clearAll => exact ⟨h.memory, Nat.zero_le _⟩
  | evaluate =>
    change (s.evaluate lib).Storable
    unfold Session.evaluate
    split
    · exact ⟨h.memory, List.length_take_le _ _⟩
    · exact ⟨h.memory, h.history⟩
  | storeMemory => exact h.remember _ fun y => isFinite_of_mem_filter
  | clearMemory => exact ⟨isFinite_zero, h.history⟩
  | addToMemory => exact h.remember _ fun y => isFinite_of_mem_filter
  | subtractFromMemory => exact h.remember _ fun y => isFinite_of_mem_filter
  | clear | erase | setUnit unit | toggleTheme | recallMemory => exact ⟨h.memory, h.history⟩

theorem Storable.run (h : s.Storable) (actions : List Action) : (s.run lib actions).Storable := by
  induction actions generalizing s with
  | nil => exact h
  | cons action actions ih => exact ih (h.apply action)

theorem IsStart.storable (h : s.IsStart) : s.Storable := ⟨h.bounded.memory, h.bounded.history⟩

end Session

namespace Desk

variable {lib : Elementary} {d : Desk}

theorem storable_step (h : d.session.Storable) (step : Step) :
    (d.step lib step).session.Storable := by
  by_cases input : step.IsInput
  · rcases session_step lib d input with start | ⟨actions, eq, -⟩
    · exact start.storable
    · rw [eq]
      exact h.run actions
  · cases step with
    | setDisplay text => exact ⟨h.memory, h.history⟩
    | _ => exact absurd trivial input

theorem storable_run (h : d.session.Storable) (steps : List Step) :
    (d.run lib steps).session.Storable := by
  induction steps generalizing d with
  | nil => exact h
  | cons step steps ih => exact ih (storable_step h step)

/-- A desk that is saved and started again after any run keeps history, memory, unit and theme and
rests otherwise, and what it saves then is what it saved before. -/
theorem run_save_restart (lib : Elementary) {d : Desk} (start : d.session.IsStart)
    (steps : List Step) :
    let before := d.run lib steps
    let after := before.run lib [.save, .restart true]
    after.session =
        { display := "0", error := none, history := before.session.history,
          memory := before.session.memory, unit := before.session.unit,
          dark := before.session.dark, working := {} } ∧
      (after.run lib [.save]).stored = (before.run lib [.save]).stored := by
  intro before after
  have storable : before.session.Storable := storable_run start.storable steps
  have reopened : after.session = before.session.reopened := storable.load_text
  refine ⟨reopened, ?_⟩
  change some after.session.snapshot.text = some before.session.snapshot.text
  rw [reopened]
  rfl

/-- A history with a tabulator and a wide space, and a memory of minus zero. -/
theorem run_save_restart_minus_zero :
    let d : Desk := { session := .ofSnapshot { history := ["\t1\u3000+ 1 = 2"], unit := .radians } }
    let before := d.run .native [.setDisplay "-0", .act .storeMemory]
    let after := before.run .native [.save, .restart true]
    after.session =
        { history := ["\t1\u3000+ 1 = 2"], memory := -0.0, unit := .radians } ∧
      (after.run .native [.save]).stored = (before.run .native [.save]).stored := by
  intro d before after
  have kept : before.session =
      { display := "-0", history := ["\t1\u3000+ 1 = 2"], memory := -0.0, unit := .radians } := by
    decide +kernel
  obtain ⟨session, stored⟩ := run_save_restart .native (.ofSnapshot _)
    [.setDisplay "-0", .act .storeMemory] (d := d)
  refine ⟨session.trans ?_, stored⟩
  change before.session.reopened = _
  rw [kept]
  rfl

end Desk

end Calculator
