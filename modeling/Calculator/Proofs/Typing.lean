import Calculator.Desk
import Calculator.Proofs.Continuing

/-! Typing a text on the keyboard and evaluating it. The display at rest gives way to the first
character, so the zeros that a text starts with are not seen. -/
namespace Calculator

namespace Session

open Number Numeral Token Grammar

variable {lib : Elementary} {s : Session}

def typeOf (c : Char) : Action := .enter (.singleton c)

/-- What typing a text leaves on a display at rest, apart from what it has no room for. -/
def typed (cs : List Char) : List Char :=
  match cs.dropWhile (· == '0') with
  | [] => ['0']
  | '.' :: rest => '0' :: '.' :: rest
  | rest => rest

theorem length_fit (text : String) : (fit text).length = min displayLimit text.length := by
  rw [fit, String.length_ofList, List.length_take, String.length_toList]

theorem fit_ne_empty {text : String} (h : text ≠ "") : fit text ≠ "" := by
  intro empty
  have length := congrArg String.length empty
  have pos : text.length ≠ 0 := mt String.length_eq_zero_iff.1 h
  rw [length_fit, String.length_empty, displayLimit] at length
  omega

theorem take_take_append {α : Type} (n : Nat) (first second : List α) :
    (first.take n ++ second).take n = (first ++ second).take n := by
  rw [List.take_append, List.take_append, List.take_take, Nat.min_self, List.length_take]
  congr 2
  omega

theorem fit_append (first : String) (c : Char) (cs : List Char) :
    fit (fit (first ++ .singleton c) ++ .ofList cs) = fit (first ++ .ofList (c :: cs)) := by
  simp only [fit, String.toList_ofList, String.toList_append, String.toList_singleton,
    take_take_append, List.append_assoc, List.singleton_append]

structure Going (s : Session) : Prop where
  error : s.error = none
  nonempty : 0 < s.display.length
  notRest : s.display ≠ restingDisplay
  fits : s.display.length ≤ displayLimit

theorem Going.enter (h : s.Going) (c : Char) :
    s.enter (.singleton c) = { s with display := fit (s.display ++ .singleton c) } := by
  have goes := not_replaces h.error h.notRest (.singleton c)
  by_cases room : s.display.length + (String.singleton c).length ≤ displayLimit
  · rw [enter_of_not_replaces goes room, fit_of_length_le (by rwa [String.length_append])]
  · have full : s.refuses (.singleton c) := by simpa [refuses, goes] using room
    have same : fit (s.display ++ .singleton c) = s.display := by
      have le := h.fits
      rw [String.length_singleton] at room
      have length : s.display.toList.length = displayLimit := by
        rw [String.length_toList]
        omega
      rw [fit, String.toList_append, ← length, List.take_left', String.ofList_toList]
      rfl
    rw [same]
    simp [Session.enter, goes, full]

theorem Going.enter_going (h : s.Going) (c : Char) : (s.enter (.singleton c)).Going := by
  rw [h.enter]
  have length := length_fit (s.display ++ .singleton c)
  have nonempty := h.nonempty
  have large : 2 ≤ displayLimit := by decide
  rw [String.length_append, String.length_singleton] at length
  refine ⟨h.error, ?_, ?_, ?_⟩
  · change 0 < (fit _).length
    omega
  · intro same
    have one := congrArg String.length same
    change (fit _).length = 1 at one
    omega
  · change (fit _).length ≤ _
    omega

theorem Going.run (h : s.Going) (cs : List Char) :
    s.run lib (cs.map typeOf) = { s with display := fit (s.display ++ .ofList cs) } := by
  induction cs generalizing s with
  | nil =>
    simp [fit_of_length_le h.fits]
  | cons c cs ih =>
    rw [List.map_cons, run_cons]
    change (s.enter (.singleton c)).run lib _ = _
    rw [ih (h.enter_going c), h.enter]
    simp only [fit_append]

theorem typed_zero (cs : List Char) : typed ('0' :: cs) = typed cs := rfl

theorem typed_point (cs : List Char) : typed ('.' :: cs) = '0' :: '.' :: cs := rfl

theorem typed_cons {c : Char} (zero : c ≠ '0') (point : c ≠ '.') (cs : List Char) :
    typed (c :: cs) = c :: cs := by
  have first : (c :: cs).dropWhile (· == '0') = c :: cs := by simp [zero]
  simp [typed, first, point]

theorem typed_symbol (op : Operator) (rest : List Char) :
    typed (op.symbol :: rest) = op.symbol :: rest := by
  cases op <;> rfl

theorem typed_dropWhile (cs : List Char) : typed (cs.dropWhile (· == '0')) = typed cs := by
  induction cs with
  | nil => rfl
  | cons c cs ih =>
    by_cases zero : c = '0'
    · subst zero
      exact ih
    · simp [zero]

/-- The display at rest keeps its zero in front of a point. -/
theorem enter_point (noError : s.error = none) (rest : s.display = restingDisplay) :
    s.enter (.singleton '.') = { s with display := "0." } := by
  have goes : s.replaces (.singleton '.') = false := by simp [replaces, noError]
  rw [enter_of_not_replaces goes (by rw [rest]; decide), rest]
  rfl

theorem going_point (noError : s.error = none) : Going { s with display := "0." } := by
  have length : "0.".length = 2 := by decide
  constructor
  · exact noError
  · simp [length]
  · simp [restingDisplay]
  · simp [displayLimit, length]

theorem going_singleton (noError : s.error = none) {c : Char} (zero : c ≠ '0') :
    Going { s with display := .singleton c } := by
  constructor
  · exact noError
  · simp
  · intro same
    exact zero (by simpa [restingDisplay] using congrArg String.toList same)
  · simp [displayLimit]

/-- Only the zeros in front of a text are lost, and what there is no room for. -/
theorem run_typed (lib : Elementary) (noError : s.error = none)
    (rest : s.display = restingDisplay) (cs : List Char) :
    s.run lib (cs.map typeOf) = { s with display := fit (.ofList (typed cs)) } := by
  induction cs with
  | nil =>
    have zeroDisplay : fit (.ofList ['0']) = s.display := by rw [rest]; decide
    rw [typed, List.dropWhile_nil, zeroDisplay]
    rfl
  | cons c cs ih =>
    rw [List.map_cons, run_cons]
    change (s.enter (.singleton c)).run lib _ = _
    by_cases point : c = '.'
    · subst point
      have text : "0." ++ String.ofList cs = .ofList ('0' :: '.' :: cs) := by
        apply String.toList_inj.1
        simp
      rw [enter_point noError rest, (going_point noError).run, typed_point, ← text]
    · rw [enter_at_rest noError rest point]
      by_cases zero : c = '0'
      · subst zero
        -- The zero gives way to itself.
        have same : { s with display := String.singleton '0' } = s := by
          rw [show String.singleton '0' = s.display from rest.symm]
        rw [same, ih, typed_zero]
      · have text : String.singleton c ++ String.ofList cs = .ofList (c :: cs) := by
          apply String.toList_inj.1
          simp
        rw [(going_singleton noError zero).run, typed_cons zero point, ← text]

theorem length_typed_le (cs : List Char) : (typed cs).length ≤ cs.length + 1 := by
  induction cs with
  | nil => decide
  | cons c cs ih =>
    by_cases zero : c = '0'
    · subst zero
      exact Nat.le_succ_of_le ih
    by_cases point : c = '.'
    · subst point
      exact Nat.le_refl _
    · rw [typed_cons zero point]
      exact Nat.le_succ _

/-- The characters that mean something else without the zeros in front of them: the operators that
are no signs, and the exponent marks. -/
def needsZero (c : Char) : Bool := "+*/^eE".toList.contains c

theorem exists_operator_after_number {d : Sum} {x : Float} {t : Token} {rest : List Token}
    (h : d.tokens = .number x :: t :: rest) : ∃ op, t = .operator op := by
  have read : Expr.ofTokens (d.tokens ++ []) = .ok d.tree := Expr.ofTokens_tokens d rfl
  rw [List.append_nil] at read
  have accepted := (Automaton.exists_ofTokens_iff d.tokens).1 ⟨_, read⟩
  have stop := d.not_stop t (by simp [h])
  rw [h, line_cons_of_not_stop rfl, line_cons_of_not_stop stop] at accepted
  cases t with
  | operator op => exact ⟨op, rfl⟩
  | stop => cases stop
  | _ => cases accepted

theorem symbol_of_ofSymbol? {c : Char} {op : Operator} (h : ofSymbol? c = some (.operator op)) :
    c = op.symbol := by
  have all : Operator.all.all fun op => symbols.all fun c =>
      ofSymbol? c != some (.operator op) || c == op.symbol := by decide
  have known := List.all_eq_true.1 (List.all_eq_true.1 all op (by cases op <;> decide)) c
    (mem_symbols_of_ofSymbol? h)
  simpa [h] using known

theorem classes_of_isExpressionCharacter {c : Char} (h : isExpressionCharacter c) :
    c.isDigit ∨ c = '.' ∨ c.isAlpha ∨ ∃ t, ofSymbol? c = some t := by
  simp only [isExpressionCharacter, Bool.or_eq_true] at h
  rcases h with alphanum | other
  · rcases Text.isAlphanum_iff.1 alphanum with alpha | digit
    · exact .inr (.inr (.inl alpha))
    · exact .inl digit
  · have all : "+-*/^().".toList.all fun c => c == '.' || (ofSymbol? c).isSome := by decide
    have known := List.all_eq_true.1 all c (List.contains_iff_mem.1 other)
    rw [Bool.or_eq_true] at known
    rcases known with point | symbol
    · exact .inr (.inl (eq_of_beq point))
    · exact .inr (.inr (.inr (Option.isSome_iff_exists.1 symbol)))

/-- A zero in front of a text that goes on with neither a digit nor a point is a number of its own,
and an operator follows it. -/
theorem exists_operator_of_zero {d : Sum} {c : Char} {cs : List Char}
    (scans : Scans ('0' :: c :: cs) d.tokens) (accepted : isExpressionCharacter c)
    (digit : c.isDigit = false) (point : c ≠ '.') (mark : isExponentMark c = false) :
    ∃ op after, c = op.symbol ∧ d.tokens = .number 0.0 :: .operator op :: after ∧
      Scans cs after := by
  have zero : IsNumeral ['0'] := ⟨rfl, rfl⟩
  have avoids : Avoids continuesNumeral (c :: cs) :=
    Avoids.cons_iff.2 (by simp [continuesNumeral, digit, point, mark])
  obtain ⟨after, tokens, scans⟩ := Scans.of_numeral zero avoids scans
  rw [numberOf_zeroDigit] at tokens
  rcases classes_of_isExpressionCharacter accepted with isDigit | isPoint | letter | ⟨t, symbol⟩
  · rw [digit] at isDigit
    cases isDigit
  · exact absurd isPoint point
  · obtain ⟨w, after, rfl⟩ := scans.of_letter letter
    obtain ⟨op, other⟩ := exists_operator_after_number tokens
    cases other
  · obtain ⟨rest, rfl, final⟩ := scans.of_symbol symbol
    obtain ⟨op, rfl⟩ := exists_operator_after_number tokens
    exact ⟨op, rest, symbol_of_ofSymbol? symbol, tokens, final⟩

theorem minus_of_needsZero {op : Operator} (h : needsZero op.symbol = false) : op = .subtract := by
  cases op with
  | subtract => rfl
  | _ => cases h

theorem isExponentMark_of_needsZero {c : Char} (h : needsZero c = false) :
    isExponentMark c = false := by
  cases mark : isExponentMark c with
  | false => rfl
  | true => rcases isExponentMark_iff.1 mark with rfl | rfl <;> cases h

/-- One zero in front of a text has the tokens that many have. -/
theorem scans_one_zero {cs : List Char} {tokens : List Token} (scans : Scans ('0' :: cs) tokens) :
    Scans ('0' :: cs.dropWhile (· == '0')) tokens := by
  induction cs with
  | nil => exact scans
  | cons c cs ih =>
    by_cases zero : c = '0'
    · subst zero
      exact ih ((scans_zero_iff (starts_cons (by decide))).1 scans)
    · simpa [zero] using scans

/-- A text that is typed keeps its tokens, unless it is a zero before a minus that is lost. -/
theorem scans_typed {d : Sum} {cs : List Char} (scans : Scans cs d.tokens)
    (accepted : ∀ c ∈ cs, isExpressionCharacter c)
    (zeros : cs.head? = some '0' → Avoids needsZero (cs.dropWhile (· == '0'))) :
    Scans (typed cs) d.tokens ∨ ∃ rest, d.tokens = .number 0.0 :: .operator .subtract :: rest ∧
      Scans (typed cs) (.operator .subtract :: rest) := by
  cases cs with
  | nil =>
    obtain ⟨t, rest, eq, -⟩ := d.tokens_eq_cons
    rw [eq] at scans
    cases scans.unique .nil
  | cons c cs =>
    by_cases zero : c = '0'
    · subst zero
      have one := scans_one_zero scans
      have avoids : Avoids needsZero (cs.dropWhile (· == '0')) := zeros rfl
      have first : Avoids (· == '0') (cs.dropWhile (· == '0')) := .dropWhile cs
      have mem : ∀ c ∈ cs.dropWhile (· == '0'), isExpressionCharacter c := fun c mem =>
        accepted c (List.mem_cons_of_mem _ ((List.dropWhile_sublist _).mem mem))
      rw [typed_zero, ← typed_dropWhile]
      generalize cs.dropWhile (· == '0') = rest at one avoids first mem
      match rest with
      | [] => exact .inl one
      | c :: rest =>
        by_cases point : c = '.'
        · subst point
          exact .inl one
        rw [typed_cons (by simpa using Avoids.cons_iff.1 first) point]
        by_cases digit : c.isDigit
        · exact .inl ((scans_zero_iff ((starts_cons point).trans digit)).1 one)
        · obtain ⟨op, after, rfl, tokens, final⟩ := exists_operator_of_zero one
            (mem c (List.mem_cons_self ..)) (by simpa using digit) point
            (isExponentMark_of_needsZero (Avoids.cons_iff.1 avoids))
          obtain rfl := minus_of_needsZero (Avoids.cons_iff.1 avoids)
          exact .inr ⟨after, tokens, Calculation.scans_operator final⟩
    · by_cases point : c = '.'
      · subst point
        exact .inl ((scans_zero_iff scans.starts_point).2 scans)
      · rw [typed_cons zero point]
        exact .inl scans

variable {unit : AngleUnit} {text : String} {v : Float}

/-- A text that is typed has the value of the text, unless a zero is lost that it needs. -/
theorem evaluate_typed (h : Calculation.evaluate lib unit text = .ok v)
    (accepted : ∀ c ∈ text.toList, isExpressionCharacter c)
    (zeros : text.toList.head? = some '0' →
      Avoids needsZero (text.toList.dropWhile (· == '0'))) :
    ∃ w, Calculation.evaluate lib unit (.ofList (typed text.toList)) = .ok w ∧ Alike v w := by
  obtain ⟨d, scans, value⟩ := Calculation.exists_derivation_of_evaluate h
  rcases scans_typed scans accepted zeros with same | ⟨rest, tokens, minus⟩
  · rw [← String.toList_ofList (l := typed text.toList)] at same
    rw [Calculation.evaluate_of_derivation same, value]
    exact ⟨v, rfl, .refl v⟩
  · obtain ⟨d', tokens', follows⟩ := d.exists_without_zero tokens
    rw [← tokens', ← String.toList_ofList (l := typed text.toList)] at minus
    obtain ⟨w, value', alike⟩ :=
      follows.bind (fun a b alike => follows_finite alike .result) v value
    rw [Calculation.evaluate_of_derivation minus, Expr.evaluate_eq, value']
    exact ⟨w, rfl, alike⟩

/-- Without its zeros a text that goes on with another operator than minus makes no expression. -/
theorem evaluate_typed_operator (h : Calculation.evaluate lib unit text = .ok v)
    {op : Operator} {rest : List Char} (other : op ≠ .subtract)
    (zero : text.toList.head? = some '0')
    (after : text.toList.dropWhile (· == '0') = op.symbol :: rest) :
    Calculation.evaluate lib unit (.ofList (typed text.toList)) =
      .error (.syntactic (.expected .operand (.operator op))) := by
  obtain ⟨d, scans, -⟩ := Calculation.exists_derivation_of_evaluate h
  have one : Scans ('0' :: op.symbol :: rest) d.tokens := by
    cases eq : text.toList with
    | nil => rw [eq] at zero; cases zero
    | cons c cs =>
      rw [eq] at zero after scans
      obtain rfl : c = '0' := Option.some.inj zero
      have dropped := scans_one_zero scans
      rwa [show cs.dropWhile (· == '0') = op.symbol :: rest from after] at dropped
  obtain ⟨op', tokens, -, -, final⟩ := exists_operator_of_zero one (by cases op <;> decide)
    (by cases op <;> rfl) (by cases op <;> decide) (by cases op <;> rfl)
  refine Calculation.evaluate_operator other final ?_
  rw [String.toList_ofList, ← typed_dropWhile, after, typed_symbol]

end Session

/-- The events of typing a text and pressing Enter. -/
def typing (text : String) : List Event :=
  text.toList.map (fun c => .text (.singleton c)) ++ [.key .enter true]

theorem action?_text {c : Char} (h : isExpressionCharacter c) :
    Event.action? (.text (.singleton c)) = some (Session.typeOf c) := by
  have part : expressionPart (.singleton c) = .singleton c := by
    simp [expressionPart, h]
  simp [Event.action?, part, Session.typeOf]

theorem filterMap_texts {cs : List Char} (h : ∀ c ∈ cs, isExpressionCharacter c) :
    (cs.map fun c => Event.text (.singleton c)).filterMap Event.action? =
      cs.map Session.typeOf := by
  induction cs with
  | nil => rfl
  | cons c cs ih =>
    rw [List.map_cons, List.filterMap_cons, action?_text (h c (List.mem_cons_self ..)),
      ih fun c mem => h c (List.mem_cons_of_mem _ mem)]
    rfl

theorem filterMap_typing {text : String} (h : ∀ c ∈ text.toList, isExpressionCharacter c) :
    (typing text).filterMap Event.action? = text.toList.map Session.typeOf ++ [.evaluate] := by
  rw [typing, List.filterMap_append, filterMap_texts h]
  rfl

namespace Desk

open Session

/-- The desk after some frames of keyboard events. -/
def afterFrames (lib : Elementary) (d : Desk) (frames : List (List Event)) : Desk :=
  frames.foldl (fun d events => d.step lib (.keyboard events)) d

/-- How events are grouped into frames does not count. -/
theorem session_afterFrames (lib : Elementary) (d : Desk) (frames : List (List Event)) :
    (d.afterFrames lib frames).session =
      d.session.run lib (frames.flatten.filterMap Event.action?) := by
  induction frames generalizing d with
  | nil => rfl
  | cons events frames ih =>
    rw [List.flatten_cons, List.filterMap_append, run_append]
    exact ih (d.step lib (.keyboard events))

/-- A text of any length that is typed on a display at rest, whatever the frames: the zeros in front
of it are lost, one of them is kept if nothing or a point comes after them, and the display takes as
much as it holds. Nothing but the display changes. -/
theorem session_afterFrames_typed (lib : Elementary) (d : Desk) {text : String}
    {frames : List (List Event)} (noError : d.session.error = none)
    (rest : d.session.display = restingDisplay)
    (accepted : ∀ c ∈ text.toList, isExpressionCharacter c)
    (events : frames.flatten = text.toList.map fun c => .text (.singleton c)) :
    (d.afterFrames lib frames).session =
      { d.session with display := fit (.ofList (typed text.toList)) } := by
  rw [session_afterFrames, events, filterMap_texts accepted, run_typed lib noError rest]

/-- Two of the three zeros are lost, and so are the nines after the first 254. -/
theorem session_afterFrames_typed_long :
    let d : Desk := { session := { memory := 2.5, unit := .radians } }
    let digits := List.replicate 300 '9'
    let keys := ("000.".toList ++ digits).map fun c => Event.text (.singleton c)
    (d.afterFrames .native [keys.take 2, [], keys.drop 2]).session =
      { d.session with display := .ofList ('0' :: '.' :: List.replicate 254 '9') } := by
  intro d digits keys
  have text : (String.ofList ("000.".toList ++ digits)).toList = "000.".toList ++ digits :=
    String.toList_ofList
  have accepted : ∀ c ∈ "000.".toList ++ digits, isExpressionCharacter c := by
    intro c mem
    rcases List.mem_append.1 mem with zeros | nines
    · exact List.all_eq_true.1 (by decide : "000.".toList.all isExpressionCharacter) c zeros
    · rw [List.eq_of_mem_replicate nines]
      rfl
  have flat : [keys.take 2, [], keys.drop 2].flatten = keys := by
    simp [List.take_append_drop]
  have shown : fit (.ofList (typed ("000.".toList ++ digits))) =
      .ofList ('0' :: '.' :: List.replicate 254 '9') := by
    rw [fit, String.toList_ofList]
    exact congrArg (fun nines => String.ofList ('0' :: '.' :: nines)) List.take_replicate
  rw [session_afterFrames_typed .native d rfl rfl (by rw [text]; exact accepted)
    (by rw [text]; exact flat), text, shown]

/-- A text that is typed on a display at rest and evaluated. -/
theorem type_and_evaluate (lib : Elementary) (d : Desk) {text : String} {v : Float}
    {frames : List (List Event)} (noError : d.session.error = none)
    (rest : d.session.display = restingDisplay)
    (accepted : ∀ c ∈ text.toList, isExpressionCharacter c) (short : text.length ≤ 255)
    (success : Calculation.evaluate lib d.session.unit text = .ok v)
    (events : frames.flatten = typing text) :
    let final := (d.afterFrames lib frames).session
    let display := String.ofList (typed text.toList)
    final = Session.evaluate lib { d.session with display } ∧
      ((text.toList.head? = some '0' →
          Number.Avoids needsZero (text.toList.dropWhile (· == '0'))) →
        final.error = none ∧ final.display = shown lib v ∧
          final.history.head? = some (entry display (shown lib v))) ∧
        ∀ op after, op ≠ Operator.subtract → text.toList.head? = some '0' →
          text.toList.dropWhile (· == '0') = op.symbol :: after →
            final.display = .ofList (op.symbol :: after) ∧
              final.error = some (.calculation (.syntactic (.expected .operand (.operator op)))) := by
  intro final display
  have fits : display.length ≤ displayLimit := by
    have := length_typed_le text.toList
    rw [String.length_toList] at this
    rw [String.length_ofList]
    exact Nat.le_trans this (Nat.succ_le_succ short)
  have evaluated : final = Session.evaluate lib { d.session with display } := by
    simp only [final, session_afterFrames, events, filterMap_typing accepted, run_append,
      run_typed lib noError rest]
    rw [fit_of_length_le fits]
    rfl
  refine ⟨evaluated, ?_, ?_⟩
  · intro zeros
    obtain ⟨w, value, alike⟩ := evaluate_typed success accepted zeros
    have outcome : Session.outcome lib { d.session with display } = .ok w := value
    have same : shown lib w = shown lib v := by
      rw [shown, shown, Display.text_eq_of_alike lib alike]
    rw [evaluated, Session.evaluate, outcome, ← same]
    exact ⟨rfl, rfl, rfl⟩
  · intro op after other zero eq
    have outcome : Session.outcome lib { d.session with display } = _ :=
      evaluate_typed_operator success other zero eq
    have text : display = .ofList (op.symbol :: after) := by
      simp only [display]
      rw [← typed_dropWhile, eq, typed_symbol]
    rw [evaluated, Session.evaluate, outcome]
    exact ⟨text, rfl⟩

theorem type_and_evaluate_difference :
    let frames := [(typing "0-2*3").take 2, (typing "0-2*3").drop 2]
    let final := (afterFrames .native {} frames).session
    final.error = none ∧ final.display = shown .native (-6.0) ∧
      final.history.head? = some (entry "-2*3" (shown .native (-6.0))) := by
  have success : Calculation.evaluate .native .degrees "0-2*3" = .ok (-6.0) := by decide +kernel
  have accepted : "0-2*3".toList.all isExpressionCharacter := by decide
  exact (type_and_evaluate .native {} rfl rfl (List.all_eq_true.1 accepted) (by decide) success rfl).2.1
    fun _ => Number.Avoids.cons_iff.2 rfl

/-- Texts that have a value, but none without the zero that they start with. -/
theorem type_and_evaluate_loses_zero :
    let lib : Elementary := { Elementary.native with power := fun a _ => a * a }
    ∀ text ∈ ["0+5", "0*5", "0/5", "0^5", "0e5", "0E5"],
      text.toList.all isExpressionCharacter ∧
        (Calculation.evaluate lib .degrees text).isOk ∧
          (afterFrames lib {} [typing text]).session.error.isSome := by
  decide +kernel

end Desk

end Calculator
