import Calculator.Number.Numeral
import Calculator.Display

/-! Numerals at the front of a text. What is cut off does not depend on the text that follows, as
long as this goes on with no character of a numeral. -/
namespace Calculator.Number

/-- The text does not start with a character of the class `p`. -/
def Avoids (p : Char → Bool) (rest : List Char) : Prop := ∀ c ∈ rest.head?, p c = false

theorem isExponentMark_iff {c : Char} : isExponentMark c ↔ c = 'e' ∨ c = 'E' := by
  simp only [isExponentMark, Bool.or_eq_true, beq_iff_eq]

theorem isSign_iff {c : Char} : isSign c ↔ c = '+' ∨ c = '-' := by
  simp only [isSign, Bool.or_eq_true, beq_iff_eq]

/-- The characters that a numeral may go on with after a digit. -/
def continuesNumeral (c : Char) : Bool := c.isDigit || c == '.' || isExponentMark c

namespace Avoids

variable {p q : Char → Bool} {c : Char} {rest : List Char}

theorem nil (p : Char → Bool) : Avoids p [] := nofun

theorem cons_iff : Avoids p (c :: rest) ↔ p c = false := by simp [Avoids]

theorem mono (h : Avoids q rest) (sub : ∀ c, q c = false → p c = false) : Avoids p rest :=
  fun c mem => sub c (h c mem)

theorem takeWhile_append (h : Avoids p rest) (cs : List Char) :
    (cs ++ rest).takeWhile p = cs.takeWhile p := by
  induction cs with
  | nil =>
    cases rest with
    | nil => rfl
    | cons c rest => simp [cons_iff.1 h]
  | cons c cs ih => simp only [List.cons_append, List.takeWhile_cons, ih]

theorem dropWhile_append (h : Avoids p rest) (cs : List Char) :
    (cs ++ rest).dropWhile p = cs.dropWhile p ++ rest := by
  induction cs with
  | nil =>
    cases rest with
    | nil => rfl
    | cons c rest => simp [cons_iff.1 h]
  | cons c cs ih =>
    simp only [List.cons_append, List.dropWhile_cons, ih]
    split <;> rfl

theorem takeWhile_run (h : Avoids p rest) {run : List Char} (all : ∀ c ∈ run, p c) :
    (run ++ rest).takeWhile p = run := by
  rw [List.takeWhile_append_of_pos all, ← List.nil_append rest, h.takeWhile_append,
    List.takeWhile_nil, List.append_nil]

theorem dropWhile_run (h : Avoids p rest) {run : List Char} (all : ∀ c ∈ run, p c) :
    (run ++ rest).dropWhile p = rest := by
  rw [List.dropWhile_append_of_pos all, ← List.nil_append rest, h.dropWhile_append]
  rfl

theorem dropWhile (cs : List Char) : Avoids p (cs.dropWhile p) := by
  intro c mem
  have := List.head?_dropWhile_not p cs
  rw [Option.mem_def.1 mem] at this
  simpa using this

theorem append (h : Avoids p rest) {cs : List Char} (h' : Avoids p cs) : Avoids p (cs ++ rest) := by
  cases cs with
  | nil => exact h
  | cons c cs => exact cons_iff.2 (cons_iff.1 h')

theorem digit (h : Avoids continuesNumeral rest) : Avoids Char.isDigit rest :=
  h.mono fun c free => by simp_all [continuesNumeral]

theorem point (h : Avoids continuesNumeral rest) : Avoids (· == '.') rest :=
  h.mono fun c free => by simp_all [continuesNumeral]

theorem mark (h : Avoids continuesNumeral rest) : Avoids isExponentMark rest :=
  h.mono fun c free => by simp_all [continuesNumeral]

end Avoids

theorem signed?_of_not_isSign {c : Char} (h : isSign c = false) (cs : List Char) :
    signed? (c :: cs) = (natural? (c :: cs)).map Int.ofNat := by
  unfold signed?
  split
  · rename_i eq
    obtain ⟨rfl, -⟩ := List.cons.inj eq
    cases h
  · rename_i eq
    obtain ⟨rfl, -⟩ := List.cons.inj eq
    cases h
  · rfl

namespace Numeral

variable {c : Char} {cs rest : List Char}

theorem starts_point : starts ('.' :: cs) = cs.head?.any Char.isDigit := by
  cases cs <;> rfl

theorem starts_cons (h : c ≠ '.') : starts (c :: cs) = c.isDigit := by
  cases cs <;> simp [starts, h]

theorem starts_append (h : cs ≠ []) (avoids : Avoids Char.isDigit rest) :
    starts (cs ++ rest) = starts cs := by
  cases cs with
  | nil => exact absurd rfl h
  | cons c cs =>
    by_cases point : c = '.'
    · subst point
      rw [List.cons_append, starts_point, starts_point]
      cases cs with
      | nil =>
        cases rest with
        | nil => rfl
        | cons d rest => exact Avoids.cons_iff.1 avoids
      | cons d cs => rfl
    · rw [List.cons_append, starts_cons point, starts_cons point]

theorem splitDigits_point (h : cs.dropWhile Char.isDigit = '.' :: rest) :
    splitDigits cs = (cs.takeWhile Char.isDigit ++ '.' :: rest.takeWhile Char.isDigit,
      rest.dropWhile Char.isDigit) := by
  simp [splitDigits, h]

theorem splitDigits_noPoint (h : Avoids (· == '.') (cs.dropWhile Char.isDigit)) :
    splitDigits cs = (cs.takeWhile Char.isDigit, cs.dropWhile Char.isDigit) := by
  unfold splitDigits
  dsimp only
  split
  · rename_i rest eq
    rw [eq] at h
    cases Avoids.cons_iff.1 h
  · rfl

theorem splitDigits_append_of_avoids (h : Avoids continuesNumeral rest) (cs : List Char) :
    splitDigits (cs ++ rest) = ((splitDigits cs).1, (splitDigits cs).2 ++ rest) := by
  have after := h.digit.dropWhile_append cs
  by_cases point : Avoids (· == '.') (cs.dropWhile Char.isDigit)
  · rw [splitDigits_noPoint point, splitDigits_noPoint (by rw [after]; exact h.point.append point),
      after, h.digit.takeWhile_append]
  · obtain ⟨tail, eq⟩ : ∃ tail, cs.dropWhile Char.isDigit = '.' :: tail := by
      cases eq : cs.dropWhile Char.isDigit with
      | nil => exact absurd (eq ▸ Avoids.nil _) point
      | cons c tail =>
        rw [eq, Avoids.cons_iff] at point
        exact ⟨tail, by simpa using point⟩
    rw [eq, List.cons_append] at after
    rw [splitDigits_point eq, splitDigits_point after, h.digit.takeWhile_append,
      h.digit.takeWhile_append, h.digit.dropWhile_append]

theorem splitSign_append_of_avoids (h : Avoids isSign rest ∨ cs ≠ []) :
    splitSign (cs ++ rest) = ((splitSign cs).1, (splitSign cs).2 ++ rest) := by
  cases cs with
  | nil =>
    have avoids := h.resolve_right (absurd rfl)
    cases rest with
    | nil => rfl
    | cons c rest => simp [splitSign, Avoids.cons_iff.1 avoids]
  | cons c cs =>
    simp only [List.cons_append, splitSign]
    split <;> rfl

theorem splitFraction_of_ne_point (h : c ≠ '.') (cs : List Char) :
    splitFraction (c :: cs) = ([], c :: cs) := by
  simp [splitFraction, h]

theorem splitFraction_avoids (h : Avoids (· == '.') rest) : splitFraction rest = ([], rest) := by
  cases rest with
  | nil => rfl
  | cons c rest => exact splitFraction_of_ne_point (by simpa using Avoids.cons_iff.1 h) rest

theorem splitExponent_avoids (h : Avoids isExponentMark rest) :
    splitExponent rest = ([], rest) := by
  cases rest with
  | nil => rfl
  | cons c rest => simp [splitExponent, Avoids.cons_iff.1 h]

theorem splitExponent_append_of_avoids (h : Avoids continuesNumeral rest)
    (sign : Avoids isSign rest ∨ (splitExponent cs).2 = []) :
    splitExponent (cs ++ rest) = ((splitExponent cs).1, (splitExponent cs).2 ++ rest) := by
  cases cs with
  | nil => exact splitExponent_avoids h.mark
  | cons c cs =>
    -- A sign after a lone mark would go on with the exponent.
    have complete : Avoids isSign rest ∨ cs ≠ [] := by
      rcases sign with avoids | complete
      · exact .inl avoids
      · right
        rintro rfl
        simp [splitExponent, splitSign] at complete
    simp only [List.cons_append, splitExponent, splitSign_append_of_avoids complete,
      h.digit.takeWhile_append, h.digit.dropWhile_append]
    split <;> rfl

/-- What is cut off a text does not depend on what follows it, if this goes on with no character of
a numeral. A sign goes on where the text ends in an exponent mark. -/
theorem split_append_of_avoids (h : Avoids continuesNumeral rest)
    (sign : Avoids isSign rest ∨ (split cs).2 = []) :
    split (cs ++ rest) = ((split cs).1, (split cs).2 ++ rest) := by
  simp only [split, splitDigits_append_of_avoids h] at sign ⊢
  rw [splitExponent_append_of_avoids h sign]

/-- The text is one numeral from its first to its last character. -/
def IsNumeral (cs : List Char) : Prop := starts cs ∧ split cs = (cs, [])

theorem IsNumeral.split_append (h : IsNumeral cs) (avoids : Avoids continuesNumeral rest) :
    split (cs ++ rest) = (cs, rest) := by
  rw [split_append_of_avoids avoids (.inr (by rw [h.2])), h.2]
  rfl

theorem avoids_of_splitExponent {exponent : List Char} {p : Char → Bool}
    (complete : splitExponent exponent = (exponent, []))
    (marks : ∀ c, isExponentMark c → p c = false) : Avoids p exponent := by
  cases exponent with
  | nil => exact .nil p
  | cons c cs =>
    have mark : isExponentMark c := by
      simp only [splitExponent] at complete
      split at complete <;> simp_all
    exact Avoids.cons_iff.2 (marks c mark)

theorem isDigit_of_isExponentMark {c : Char} (h : isExponentMark c) : c.isDigit = false := by
  rcases isExponentMark_iff.1 h with rfl | rfl <;> rfl

theorem ne_point_of_isExponentMark {c : Char} (h : isExponentMark c) : (c == '.') = false := by
  rcases isExponentMark_iff.1 h with rfl | rfl <;> rfl

/-- Digits with a fraction and an exponent are a numeral. -/
theorem isNumeral_of_parts {whole fraction exponent : List Char}
    (nonempty : whole ≠ []) (digits : ∀ c ∈ whole, c.isDigit)
    (fractionDigits : ∀ c ∈ fraction, c.isDigit)
    (complete : splitExponent exponent = (exponent, [])) :
    IsNumeral (whole ++ withPoint fraction ++ exponent) := by
  have noDigit := avoids_of_splitExponent complete fun _ => isDigit_of_isExponentMark
  have noPoint := avoids_of_splitExponent complete fun _ => ne_point_of_isExponentMark
  have first : starts (whole ++ withPoint fraction ++ exponent) := by
    cases whole with
    | nil => exact absurd rfl nonempty
    | cons c cs =>
      have digit := digits c (List.mem_cons_self ..)
      simp only [List.cons_append]
      rw [starts_cons (by rintro rfl; cases digit), digit]
  have cut : splitDigits (whole ++ withPoint fraction ++ exponent) =
      (whole ++ withPoint fraction, exponent) := by
    cases fraction with
    | nil =>
      simp only [withPoint, List.append_nil]
      rw [splitDigits_noPoint (by rw [noDigit.dropWhile_run digits]; exact noPoint),
        noDigit.takeWhile_run digits, noDigit.dropWhile_run digits]
    | cons c cs =>
      have point : Avoids Char.isDigit (withPoint (c :: cs) ++ exponent) := Avoids.cons_iff.2 rfl
      have after : (whole ++ (withPoint (c :: cs) ++ exponent)).dropWhile Char.isDigit =
          '.' :: (c :: cs ++ exponent) := point.dropWhile_run digits
      rw [List.append_assoc, splitDigits_point after, point.takeWhile_run digits,
        noDigit.takeWhile_run fractionDigits, noDigit.dropWhile_run fractionDigits]
      rfl
  refine ⟨first, ?_⟩
  rw [split, cut]
  dsimp only
  rw [complete]

theorem isSign_of_isDigit {c : Char} (h : c.isDigit) : isSign c = false := by
  cases sign : isSign c with
  | false => rfl
  | true =>
    rcases isSign_iff.1 sign with rfl | rfl <;> cases h

/-- A sign in front of digits, or its absence, is found. -/
theorem splitSign_signed {sign digits : List Char}
    (hs : sign = [] ∨ ∃ c, isSign c ∧ sign = [c]) (nonempty : digits ≠ [])
    (all : ∀ c ∈ digits, c.isDigit) (rest : List Char) :
    splitSign (sign ++ (digits ++ rest)) = (sign, digits ++ rest) := by
  rcases hs with rfl | ⟨c, hc, rfl⟩
  · cases digits with
    | nil => exact absurd rfl nonempty
    | cons d ds => simp [splitSign, isSign_of_isDigit (all d (List.mem_cons_self ..))]
  · simp [splitSign, hc]

theorem splitExponent_signed {mark : Char} {sign digits : List Char} (hm : isExponentMark mark)
    (hs : sign = [] ∨ ∃ c, isSign c ∧ sign = [c]) (nonempty : digits ≠ [])
    (all : ∀ c ∈ digits, c.isDigit) :
    splitExponent (mark :: sign ++ digits) = (mark :: sign ++ digits, []) := by
  have run := (Avoids.nil Char.isDigit).takeWhile_run all
  have done := (Avoids.nil Char.isDigit).dropWhile_run all
  have signs := splitSign_signed hs nonempty all []
  rw [List.append_nil] at run done signs
  simp only [List.cons_append, splitExponent, signs, run, done, hm]
  simp [nonempty]

end Numeral

open Numeral

theorem isDigit_of_mem_toDigits {n : Nat} {c : Char} (h : c ∈ Nat.toDigits 10 n) : c.isDigit :=
  Nat.isDigit_of_mem_toDigits (by decide) (by decide) h

theorem mem_of_mem_dropZeros {digits : List Char} {c : Char} (h : c ∈ dropZeros digits) :
    c ∈ digits := by
  rw [dropZeros, List.mem_reverse] at h
  exact List.mem_reverse.1 ((List.dropWhile_sublist _).mem h)

theorem isNumeral_shortText (d : Decimal) : IsNumeral d.shortText := by
  have fraction : ∀ c ∈ dropZeros d.fraction, c.isDigit := fun c mem =>
    isDigit_of_mem_lowDigits (mem_of_mem_dropZeros mem)
  have parts := @isNumeral_of_parts d.whole _ [] Nat.toDigits_ne_nil
    (fun c mem => isDigit_of_mem_toDigits mem) fraction rfl
  rw [List.append_nil] at parts
  exact parts

theorem splitExponent_integerText (n : Int) :
    splitExponent ('e' :: integerText n) = ('e' :: integerText n, []) := by
  have digits : ∀ c ∈ Nat.toDigits 10 n.natAbs, c.isDigit :=
    fun c mem => isDigit_of_mem_toDigits mem
  rw [integerText, withSign]
  split
  · exact @splitExponent_signed 'e' ['-'] _ rfl (.inr ⟨'-', rfl, rfl⟩) Nat.toDigits_ne_nil digits
  · exact @splitExponent_signed 'e' [] _ rfl (.inl rfl) Nat.toDigits_ne_nil digits

theorem isNumeral_scientificDigits (places : Nat) (d : Decimal) :
    IsNumeral (scientificDigits places d) := by
  rw [scientificDigits]
  exact isNumeral_of_parts Nat.toDigits_ne_nil (fun c mem => isDigit_of_mem_toDigits mem)
    (fun c mem => isDigit_of_mem_lowDigits mem) (splitExponent_integerText _)

theorem isNaN_of_isFinite {x : Float} (h : x.isFinite) : x.isNaN = false := by
  change x.toModel.unpack.isFinite = true at h
  change x.toModel.unpack.isNaN = false
  generalize x.toModel.unpack = u at h
  cases u with
  | notANumber => cases h
  | _ => rfl

theorem isInf_of_isFinite {x : Float} (h : x.isFinite) : x.isInf = false := by
  change x.toModel.unpack.isFinite = true at h
  change x.toModel.unpack.isInf = false
  generalize x.toModel.unpack = u at h
  cases u with
  | infinity s => cases h
  | _ => rfl

end Calculator.Number

namespace Calculator.Display

open Number Numeral

/-- A result is shown as a numeral after its sign. -/
theorem exists_isNumeral_text (lib : Elementary) {x : Float} (h : x.isFinite) :
    ∃ negative numeral, text lib x = withSign negative numeral ∧ IsNumeral numeral := by
  simp only [text, h, Bool.not_true]
  rw [if_neg (by decide)]
  split
  · exact ⟨false, ['0'], rfl, rfl, rfl⟩
  · split
    · rw [scientific, write, isNaN_of_isFinite h, isInf_of_isFinite h]
      exact ⟨_, _, rfl, isNumeral_scientificDigits 6 _⟩
    · exact ⟨_, _, rfl, isNumeral_shortText _⟩

end Calculator.Display
