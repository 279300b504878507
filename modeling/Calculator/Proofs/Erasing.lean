import Calculator.Proofs.Typing

/-! Erasing what was entered. Every erasure takes a character off the display, and the last one puts
the display to rest; as many erasures as a text has characters undo its entering, whether the text
went on with the display or replaced its zero. -/
namespace Calculator.Session

variable {lib : Elementary} {s : Session}

/-- What `n` erasures leave of a display. -/
def remaining (n : Nat) (display : String) : String :=
  if n < display.length then .ofList (display.toList.take (display.length - n))
  else restingDisplay

theorem remaining_zero {display : String} (nonempty : display ≠ "") :
    remaining 0 display = display := by
  have pos : 0 < display.length := Nat.pos_of_ne_zero (mt String.length_eq_zero_iff.1 nonempty)
  rw [remaining, if_pos pos, Nat.sub_zero, ← String.length_toList, List.take_length,
    String.ofList_toList]

theorem length_remaining {n : Nat} {display : String} (h : n < display.length) :
    (remaining n display).length = display.length - n := by
  rw [remaining, if_pos h, String.length_ofList, List.length_take, String.length_toList]
  exact Nat.min_eq_left (Nat.sub_le _ _)

/-- More erasures than there are characters leave the display at rest. -/
theorem remaining_of_length_le {n : Nat} {display : String} (h : display.length ≤ n) :
    remaining n display = restingDisplay := if_neg (Nat.not_lt.2 h)

theorem remaining_append {display text : String} (nonempty : display ≠ "") :
    remaining text.length (display ++ text) = display := by
  have pos : 0 < display.length := Nat.pos_of_ne_zero (mt String.length_eq_zero_iff.1 nonempty)
  rw [remaining, String.length_append, if_pos (by omega), Nat.add_sub_cancel, String.toList_append,
    ← String.length_toList, List.take_left, String.ofList_toList]

theorem erase_remaining (n : Nat) (display : String) :
    Session.erase { s with display := remaining n display } =
      { s with display := remaining (n + 1) display } := by
  have next : (if (remaining n display).length ≤ 1 then restingDisplay
      else .ofList (remaining n display).toList.dropLast) = remaining (n + 1) display := by
    by_cases before : n < display.length
    · rw [length_remaining before]
      by_cases last : display.length ≤ n + 1
      · rw [if_pos (by omega), remaining_of_length_le last]
      · have fewer : min (display.length - n - 1) (display.length - n) =
            display.length - (n + 1) := by omega
        rw [if_neg (by omega), List.dropLast_eq_take, String.length_toList,
          length_remaining before, remaining, if_pos before, String.toList_ofList, List.take_take,
          fewer, remaining, if_pos (by omega)]
    · rw [remaining_of_length_le (Nat.not_lt.1 before), remaining_of_length_le (by omega)]
      rfl
  exact congrArg (fun display => { s with display }) next

theorem run_erase (lib : Elementary) (nonempty : s.display ≠ "") (n : Nat) :
    s.run lib (List.replicate n .erase) = { s with display := remaining n s.display } := by
  induction n with
  | zero =>
    rw [remaining_zero nonempty]
    rfl
  | succ n ih =>
    rw [List.replicate_succ', run_append, ih]
    exact erase_remaining n s.display

/-- A text replaces a display without error only at rest. -/
theorem rest_of_replaces {text : String} (noError : s.error = none) (h : s.replaces text) :
    s.display = restingDisplay := by
  simp only [replaces, noError, Option.isSome_none, Bool.false_or, Bool.and_eq_true,
    beq_iff_eq] at h
  exact h.1

theorem run_enter_erase (lib : Elementary) {text : String} (noError : s.error = none)
    (nonempty : s.display ≠ "") (entered : text ≠ "") (accepted : s.refuses text = false) :
    s.run lib (.enter text :: List.replicate text.length .erase) = s := by
  rw [run_cons]
  change (s.enter text).run lib _ = s
  cases replaced : s.replaces text with
  | true =>
    -- The text stands in place of a zero, and as many erasures follow as it has characters or more.
    have shorter : (fit text).length ≤ text.length := by
      rw [length_fit]
      exact Nat.min_le_right _ _
    rw [enter_of_replaces replaced, run_erase lib (fit_ne_empty entered),
      remaining_of_length_le shorter, ← rest_of_replaces noError replaced, ← noError]
  | false =>
    have fits : s.display.length + text.length ≤ displayLimit := by
      simpa [refuses, replaced] using accepted
    have longer : s.display ++ text ≠ "" :=
      fun empty => nonempty (String.append_eq_empty_iff.1 empty).1
    rw [enter_of_not_replaces replaced fits, run_erase lib longer, remaining_append nonempty]

/-- More characters than the display holds, each of them two units of its encoding long, are entered
at rest. -/
theorem run_enter_erase_long :
    let s : Session := { history := ["1+1 = 2"], memory := -2.5, unit := .radians }
    let text := String.ofList (List.replicate 300 'é')
    s.refuses text = false ∧
      s.run .native (.enter text :: List.replicate text.length .erase) = s := by
  intro s text
  have accepted : s.refuses text = false := by decide +kernel
  have entered : text ≠ "" := by
    intro empty
    have length := congrArg String.length empty
    rw [String.length_ofList, List.length_replicate] at length
    cases length
  exact ⟨accepted, run_enter_erase .native rfl (by decide) entered accepted⟩

end Calculator.Session
