import Calculator.Session
import Calculator.Proofs.Texts
import Calculator.Proofs.Values

/-! Going on with a result: an operator and a number are entered after it and the whole is
evaluated. -/
namespace Calculator.Session

open Number Numeral Token Grammar

variable {lib : Elementary} {s : Session} {text : String}

theorem fit_of_length_le (h : text.length ≤ displayLimit) : fit text = text := by
  rw [fit, List.take_of_length_le (by rw [String.length_toList]; exact h), String.ofList_toList]

theorem enter_of_replaces (h : s.replaces text) :
    s.enter text = { s with display := fit text, error := none } := by
  simp [enter, h]

theorem enter_of_not_replaces (h : s.replaces text = false)
    (fits : s.display.length + text.length ≤ displayLimit) :
    s.enter text = { s with display := s.display ++ text } := by
  have accepted : s.refuses text = false := by
    simp [refuses, Nat.not_lt.2 fits]
  simp [enter, h, accepted]

theorem not_replaces (noError : s.error = none) (notRest : s.display ≠ restingDisplay)
    (text : String) : s.replaces text = false := by
  simp only [replaces, noError, beq_eq_false_iff_ne.2 notRest, Option.isSome_none, Bool.false_and,
    Bool.or_false]

theorem enter_at_rest (noError : s.error = none) (rest : s.display = restingDisplay) {c : Char}
    (point : c ≠ '.') : s.enter (.singleton c) = { s with display := .singleton c } := by
  have other : (String.singleton c != ".") = true := by
    apply bne_iff_ne.2
    intro same
    exact point (by simpa using congrArg String.toList same)
  have replaced : s.replaces (.singleton c) := by
    simp only [replaces, rest, other, beq_self_eq_true, Bool.and_true, Bool.or_true]
  rw [enter_of_replaces replaced, fit_of_length_le (by simp [displayLimit]), ← noError]

/-- The text before an operator that is entered after a result. A zero gives way to it. -/
def kept (display : String) : String := if display = restingDisplay then "" else display

/-- The state in which an operator and an operand stand on the display, after what was kept of it. -/
def withOperation (s : Session) (op : Operator) (operand : String) : Session :=
  { s with display := kept s.display ++ .singleton op.symbol ++ operand }

theorem enter_operation (h : s.error = none) (op : Operator) {operand : String}
    (fits : s.display.length + 1 + operand.length ≤ displayLimit) :
    (s.enter (.singleton op.symbol)).enter operand = s.withOperation op operand := by
  have first : s.enter (.singleton op.symbol) =
      { s with display := kept s.display ++ .singleton op.symbol } := by
    by_cases rest : s.display = restingDisplay
    · rw [enter_at_rest h rest (by cases op <;> decide)]
      simp [kept, rest]
    · rw [enter_of_not_replaces (not_replaces h rest _)
        (by simp only [String.length_singleton]; omega)]
      simp [kept, rest]
  rw [first]
  have going : kept s.display ++ .singleton op.symbol ≠ restingDisplay := by
    intro same
    have last := congrArg (fun display => display.toList.getLast?) same
    simp [restingDisplay] at last
    cases op <;> cases last
  have goes : Session.replaces { s with display := kept s.display ++ .singleton op.symbol }
      operand = false := by
    apply not_replaces
    · exact h
    · exact going
  have short : (kept s.display).length ≤ s.display.length := by
    rw [kept]
    split <;> simp
  rw [enter_of_not_replaces goes (by simp; omega), withOperation]

section Operation

variable {negative : Bool} {n : List Char} {op : Operator} {operand : String} {x : Float}

def signed (negative : Bool) (x : Float) : Signed :=
  if negative then .minus (.primary (.number x)) else .primary (.number x)

theorem avoids_operator (op : Operator) (rest : List Char) :
    Avoids continuesNumeral (op.symbol :: rest) :=
  Avoids.cons_iff.2 (by cases op <;> rfl)

theorem scans_signed {rest : List Char} {tokens : List Token} (h : IsNumeral n)
    (avoids : Avoids continuesNumeral rest) (after : Scans rest tokens) :
    Scans (withSign negative n ++ rest) ((signed negative (numberOf n)).tokens ++ tokens) := by
  have numeral := Scans.numeral h avoids after
  cases negative with
  | false => exact numeral
  | true => exact .symbol (ofSymbol?_operator .subtract) numeral

theorem scans_operation (h : IsNumeral n) (right : Scans operand.toList [.number x]) :
    Scans (withSign negative n ++ op.symbol :: operand.toList)
      ((signed negative (numberOf n)).tokens ++ [.operator op, .number x]) :=
  scans_signed h (avoids_operator op _) (Calculation.scans_operator right)

/-- A number after an operator takes the number before it along with its sign, unless the operator
is that of powers. -/
theorem outcome_operation (h : IsNumeral n) (right : Scans operand.toList [.number x])
    (binds : op = .power → negative = false)
    (display : s.display.toList = withSign negative n ++ op.symbol :: operand.toList) :
    s.outcome lib = ((Expr.binary op (signed negative (numberOf n)).tree (.number x)).evaluate lib
      s.unit).mapError .evaluation := by
  have scans := @scans_operation negative _ op _ _ h right
  rw [← display] at scans
  obtain ⟨d, tokens, tree⟩ : ∃ d : Sum,
      d.tokens = (signed negative (numberOf n)).tokens ++ [.operator op, .number x] ∧
        d.tree = .binary op (signed negative (numberOf n)).tree (.number x) := by
    by_cases power : op = .power
    · rw [binds power]
      exact exists_operation_of_primaries op (.number _) (.number x)
    · exact exists_operation power _ (.primary (.number x))
  rw [← tokens] at scans
  rw [outcome, Calculation.evaluate_of_derivation scans, tree]

/-- A power takes the number before it along without its sign. -/
theorem outcome_power (h : IsNumeral n) (right : Scans operand.toList [.number x])
    (display : s.display.toList = '-' :: n ++ Operator.power.symbol :: operand.toList) :
    s.outcome lib = ((Expr.negate (.binary .power (.number (numberOf n)) (.number x))).evaluate lib
      s.unit).mapError .evaluation := by
  have scans := @scans_operation true _ .power _ _ h right
  change Scans (_ :: n ++ _) _ at scans
  rw [← display] at scans
  let d : Sum := .product (.signed (.minus (.power (.number (numberOf n)) (.primary (.number x)))))
  exact @Calculation.evaluate_of_derivation _ _ _ d scans

def negatedPower (base exponent : String) : String :=
  "-(" ++ Calculation.grouped base .power exponent ++ ")"

theorem scans_display {display : String} (h : IsNumeral n)
    (eq : display.toList = withSign negative n) :
    Scans display.toList (Sum.product (.signed (signed negative (numberOf n)))).tokens := by
  have scans := @scans_signed negative _ _ _ h (.nil _) .nil
  rw [List.append_nil, List.append_nil] at scans
  rw [eq]
  exact scans

theorem evaluate_grouped_display {unit : AngleUnit} {display : String} (h : IsNumeral n)
    (eq : display.toList = withSign negative n) (right : Scans operand.toList [.number x]) :
    Calculation.evaluate lib unit (Calculation.grouped display op operand) =
      ((Expr.binary op (signed negative (numberOf n)).tree (.number x)).evaluate lib unit).mapError
        .evaluation :=
  @Calculation.evaluate_grouped _ _ _ _ _ (.product (.signed (.primary (.number x)))) op
    (scans_display h eq) right

theorem evaluate_negatedPower {unit : AngleUnit} {base : String} (h : IsNumeral n)
    (eq : base.toList = n) (right : Scans operand.toList [.number x]) :
    Calculation.evaluate lib unit (negatedPower base operand) =
      ((Expr.negate (.binary .power (.number (numberOf n)) (.number x))).evaluate lib unit).mapError
        .evaluation := by
  have inner := @Calculation.scans_grouped base operand _
    (.product (.signed (.primary (.number x)))) .power (@scans_display false _ _ h eq) right
  obtain ⟨d, tokens, tree⟩ := exists_operation_of_primaries .power
    (.group (.product (.signed (signed false (numberOf n)))))
    (.group (.product (.signed (.primary (.number x)))))
  rw [← tokens] at inner
  have scans : Scans (negatedPower base operand).toList
      (Sum.product (.signed (.minus (.primary (.group d))))).tokens := by
    have all := @Calculation.scans_operator .subtract _ _ (Calculation.scans_group inner .nil)
    simpa [negatedPower, Sum.tokens, Product.tokens, Signed.tokens, Primary.tokens, Operator.symbol]
      using all
  rw [Calculation.evaluate_of_derivation scans]
  simp only [Sum.tree, Product.tree, Signed.tree, Primary.tree, tree]
  rfl

/-- A number that is entered with a minus after a zero has its sign turned, as when it is taken
from zero. -/
theorem outcome_minus (right : Scans operand.toList [.number x])
    (display : s.display.toList = '-' :: operand.toList) :
    s.outcome lib = ((Expr.negate (.number x)).evaluate lib s.unit).mapError .evaluation := by
  have scans := @Calculation.scans_operator .subtract _ _ right
  change Scans ('-' :: _) _ at scans
  rw [← display] at scans
  let d : Sum := .product (.signed (.minus (.primary (.number x))))
  exact @Calculation.evaluate_of_derivation _ _ _ d scans

end Operation

/-- The display shows this outcome, or the error is that of it. -/
def Answers (lib : Elementary) (s : Session) : Except CalcError Float → Prop
  | .ok x => s.error = none ∧ s.display = shown lib x
  | .error e => s.error = some (.calculation e)

instance (lib : Elementary) (s : Session) (outcome : Except CalcError Float) :
    Decidable (s.Answers lib outcome) :=
  match outcome with
  | .ok _ => inferInstanceAs (Decidable (_ ∧ _))
  | .error _ => inferInstanceAs (Decidable (_ = _))

theorem evaluate_of_outcome {x : Float} (h : s.outcome lib = .ok x) :
    s.evaluate lib = s.succeed lib x := by
  rw [evaluate, h]

theorem evaluate_of_outcome_error {e : CalcError} (h : s.outcome lib = .error e) :
    s.evaluate lib = s.fail (.calculation e) := by
  rw [evaluate, h]

theorem answers_evaluate (lib : Elementary) (s : Session) :
    (s.evaluate lib).Answers lib (s.outcome lib) := by
  cases outcome : s.outcome lib with
  | ok x =>
    rw [evaluate_of_outcome outcome]
    exact ⟨rfl, rfl⟩
  | error e =>
    rw [evaluate_of_outcome_error outcome]
    rfl

theorem evaluate_negate_number {unit : AngleUnit} {x : Float} (h : x.isFinite) :
    (Expr.negate (.number x)).evaluate lib unit = .ok (-x) := by
  rw [Expr.evaluate_eq, Expr.value_negate, Expr.value_number, finite_eq_ok h]
  exact finite_eq_ok ((isFinite_neg x).trans h)

theorem evaluate_zero_sub_number {unit : AngleUnit} {x : Float} (h : x.isFinite) :
    (Expr.binary .subtract (.number 0.0) (.number x)).evaluate lib unit = .ok (0.0 - x) := by
  have difference : (0.0 - x).isFinite := by
    rw [(zero_sub_alike x).isFinite_eq, isFinite_neg]
    exact h
  have applied : Operator.subtract.apply lib 0.0 x = .ok (0.0 - x) := finite_eq_ok difference
  rw [Expr.evaluate_eq, Expr.value_binary, Expr.value_zero, Expr.value_number, finite_eq_ok h]
  change (Operator.subtract.apply lib 0.0 x).bind _ = _
  rw [applied]
  exact finite_eq_ok difference

/-- Taken from zero, a number is shown as with its sign turned. -/
theorem answers_zero_sub {unit : AngleUnit} {x : Float}
    (h : s.Answers lib (((Expr.negate (.number x)).evaluate lib unit).mapError .evaluation)) :
    s.Answers lib (((Expr.binary .subtract (.number 0.0) (.number x)).evaluate lib unit).mapError
      .evaluation) := by
  cases hx : x.isFinite with
  | true =>
    rw [evaluate_negate_number hx] at h
    rw [evaluate_zero_sub_number hx]
    refine ⟨h.1, h.2.trans ?_⟩
    rw [shown, shown, Display.text_eq_of_alike lib (zero_sub_alike x)]
  | false =>
    -- Both fail at the literal.
    rw [Expr.evaluate_eq, Expr.value_negate, Expr.value_number, finite_eq_error hx] at h
    rw [Expr.evaluate_eq, Expr.value_binary, Expr.value_zero, Expr.value_number, finite_eq_error hx]
    exact h

theorem parts_of_rest {negative : Bool} {n : List Char}
    (h : restingDisplay.toList = withSign negative n) : negative = false ∧ n = ['0'] := by
  cases negative with
  | false => exact ⟨rfl, h.symm⟩
  | true => cases h

/-- A minus that a result starts with is its sign, as no numeral starts with one. -/
theorem parts_of_minus {negative : Bool} {n size : List Char} (isNumeral : IsNumeral n)
    (h : '-' :: size = withSign negative n) : negative = true ∧ n = size := by
  cases negative with
  | true => exact ⟨rfl, (List.cons.inj h).2.symm⟩
  | false =>
    have first := isNumeral.1
    change _ = n at h
    rw [← h, starts_cons (by decide)] at first
    cases first

theorem run_operation (lib : Elementary) {t : Session} (h : t.error = none) (op : Operator)
    {operand : String} (fits : t.display.length + 1 + operand.length ≤ displayLimit) :
    t.run lib [.enter (.singleton op.symbol), .enter operand, .evaluate] =
      (t.withOperation op operand).evaluate lib := by
  simp only [run_cons, run_nil, apply]
  rw [enter_operation h op fits]

/-- An operator and a number that are entered after a result. -/
theorem run_continue (lib : Elementary) (s : Session) {v x : Float} (op : Operator)
    {operand : String} (success : s.outcome lib = .ok v)
    (number : scan operand = .ok [.number x, .stop])
    (fits : (s.evaluate lib).display.length + 1 + operand.length ≤ displayLimit) :
    let t := s.evaluate lib
    let after := t.run lib [.enter (.singleton op.symbol), .enter operand, .evaluate]
    ((t.display = restingDisplay → op = .subtract) →
        (∀ size, t.display = "-" ++ size → op ≠ .power) →
          after.Answers lib (Calculation.evaluate lib s.unit
            (Calculation.grouped t.display op operand))) ∧
      (t.display = restingDisplay → op ≠ .subtract →
        after.display = .singleton op.symbol ++ operand ∧
          after.error = some (.calculation (.syntactic (.expected .operand (.operator op))))) ∧
      ∀ size, t.display = "-" ++ size → op = .power →
        after.Answers lib (Calculation.evaluate lib s.unit (negatedPower size operand)) := by
  intro t after
  have right : Scans operand.toList [.number x] := Scans.of_scanFrom number
  have ht : t = s.succeed lib v := by
    simp only [t, evaluate, success]
  have noError : t.error = none := by rw [ht]; rfl
  have sameUnit : (t.withOperation op operand).unit = s.unit := by rw [ht]; rfl
  obtain ⟨negative, n, shownText, isNumeral⟩ :=
    Display.exists_isNumeral_text lib (Calculation.isFinite_of_evaluate success)
  have display : t.display.toList = withSign negative n := by
    rw [ht, ← shownText]
    exact String.toList_ofList
  have run : after = (t.withOperation op operand).evaluate lib := run_operation lib noError op fits
  have answers : after.Answers lib ((t.withOperation op operand).outcome lib) := by
    rw [run]
    exact answers_evaluate lib _
  refine ⟨?_, ?_, ?_⟩
  · intro atRest minus
    rw [evaluate_grouped_display isNumeral display right]
    by_cases zero : t.display = restingDisplay
    · obtain rfl := atRest zero
      obtain ⟨rfl, rfl⟩ := parts_of_rest (zero ▸ display)
      rw [numberOf_zeroDigit]
      apply answers_zero_sub
      rw [outcome_minus right (by simp [withOperation, kept, zero, Operator.symbol]), sameUnit]
        at answers
      exact answers
    · have binds : op = .power → negative = false := by
        intro power
        cases negative with
        | false => rfl
        | true =>
          refine absurd power (minus (.ofList n) ?_)
          exact String.toList_inj.1 (display.trans (by simp [withSign]))
      rw [outcome_operation isNumeral right binds (by simp [withOperation, kept, zero, display]),
        sameUnit] at answers
      exact answers
  · intro atRest other
    have whole : (t.withOperation op operand).display = .singleton op.symbol ++ operand := by
      simp [withOperation, kept, atRest]
    have failed : (t.withOperation op operand).outcome lib =
        .error (.syntactic (.expected .operand (.operator op))) :=
      Calculation.evaluate_operator other right (by rw [whole]; simp)
    rw [run, evaluate_of_outcome_error failed]
    exact ⟨whole, rfl⟩
  · intro size eq power
    subst power
    have minus : '-' :: size.toList = withSign negative n := by
      rw [← display, eq]
      simp
    obtain ⟨rfl, rfl⟩ := parts_of_minus isNumeral minus
    have notZero : t.display ≠ restingDisplay := by
      rw [eq]
      intro same
      have := congrArg String.toList same
      simp [restingDisplay] at this
    have whole : kept t.display = "-" ++ size := (if_neg notZero).trans eq
    rw [evaluate_negatedPower isNumeral rfl right]
    rw [outcome_power isNumeral right (by simp [withOperation, whole]), sameUnit] at answers
    exact answers

theorem run_continue_quotient :
    let t := ({ display := "8*3" } : Session).evaluate .native
    let zero := ({ display := "8-8" } : Session).evaluate .native
    let sum := zero.run .native [.enter (.singleton '+'), .enter "4", .evaluate]
    (t.run .native [.enter (.singleton '/'), .enter "4", .evaluate]).Answers .native
        (Calculation.evaluate .native .degrees (Calculation.grouped t.display .divide "4")) ∧
      sum.display = "+4" ∧
      sum.error = some (.calculation (.syntactic (.expected .operand (.operator .add)))) := by
  have number : scan "4" = .ok [.number 4.0, .stop] := by decide +kernel
  constructor
  · have success : Session.outcome .native { display := "8*3" } = .ok 24.0 := by decide +kernel
    refine (run_continue .native { display := "8*3" } .divide success number (by decide +kernel)).1
      (by decide +kernel) fun size _ => ?_
    decide
  · have success : Session.outcome .native { display := "8-8" } = .ok 0.0 := by decide +kernel
    have rest := (run_continue .native { display := "8-8" } .add success number
      (by decide +kernel)).2.1 (by decide +kernel) (by decide)
    exact rest

/-- A result of zero gives way to the operator, and a power leaves out the sign of the result. -/
theorem run_continue_ne_grouped :
    let lib : Elementary := { Elementary.native with power := fun a _ => a * a }
    let zero := ({ display := "0" } : Session).evaluate lib
    let minusTwo := ({ display := "0-2" } : Session).evaluate lib
    zero.error = none ∧ minusTwo.error = none ∧
      scan "5" = .ok [.number 5.0, .stop] ∧ scan "2" = .ok [.number 2.0, .stop] ∧
      ¬(zero.run lib [.enter "+", .enter "5", .evaluate]).Answers lib
        (Calculation.evaluate lib .degrees (Calculation.grouped zero.display .add "5")) ∧
      ¬(minusTwo.run lib [.enter "^", .enter "2", .evaluate]).Answers lib
        (Calculation.evaluate lib .degrees (Calculation.grouped minusTwo.display .power "2")) := by
  decide +kernel

end Calculator.Session
