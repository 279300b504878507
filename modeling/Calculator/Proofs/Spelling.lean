import Calculator.Proofs.Agreement

/-! How a text is spelled. White space parts two texts completely: each of them has the tokens or
the error that it has alone. The case of letters does not matter: the scanner answers the same to a
text in small letters, and with it the whole calculation. -/
namespace Calculator

open Number Numeral Token

namespace Token

/-- Behind white space a text is scanned as if it stood alone. -/
theorem scanFrom_blank_between {w : Char} (blank : Text.isBlank w) (cs after : List Char) :
    scanFrom 0 (cs ++ w :: after) = (scanFrom 0 cs).bind fun ts =>
      ((scanFrom 0 after).mapError (LexError.shift (cs.length + 1))).map (line ts ++ ·) := by
  have avoids : Avoids joins (w :: after) := Avoids.cons_iff.2 (Text.joins_of_isBlank blank)
  rw [scanFrom_append avoids, scanFrom_blank blank, ← scanFrom_shift, Nat.zero_add, Nat.zero_add]

/-- White space parts two texts completely. The answer to both is the tokens of the first and then
those of the second, or the first error, in the second text counted from the start of the first.
There are no other cases, since a list of tokens ends with a stop mark. -/
theorem scan_separated (s t : String) {w : Char} (blank : Text.isBlank w) :
    (∀ a, scan s = .ok (a ++ [.stop]) →
      (∀ b, scan t = .ok (b ++ [.stop]) → scan (s.push w ++ t) = .ok (a ++ b ++ [.stop])) ∧
      ∀ e, scan t = .error e → scan (s.push w ++ t) = .error (e.shift (s.length + 1))) ∧
    (∀ e, scan s = .error e → scan (s.push w ++ t) = .error e) ∧
    ∀ u tokens, scan u = .ok tokens → ∃ a, tokens = a ++ [.stop] := by
  have whole : scan (s.push w ++ t) = (scan s).bind fun ts =>
      ((scan t).mapError (LexError.shift (s.length + 1))).map (line ts ++ ·) := by
    have chars : (s.push w ++ t).toList = s.toList ++ w :: t.toList := by simp
    rw [scan, chars, scanFrom_blank_between blank, String.length_toList]
    rfl
  refine ⟨fun a first => ?_, fun e first => ?_, fun u tokens scanned => ?_⟩
  · have tokens : line (a ++ [.stop]) = a :=
      (List.append_cancel_right (eq_line_of_scanFrom first)).symm
    constructor
    · intro b second
      rw [whole, first, second, List.append_assoc]
      exact congrArg (fun ts => Except.ok (ts ++ (b ++ [.stop]))) tokens
    · intro e second
      rw [whole, first, second]
      rfl
  · rw [whole, first]
    rfl
  · exact ⟨_, eq_line_of_scanFrom scanned⟩

/-- A lone exponent mark, and behind the white space a sign and a digit that would complete it. -/
theorem scan_separated_exponent :
    Text.isBlank '\u2003' ∧
    scan ("1e".push '\u2003' ++ "+5") =
      .ok [.number 1.0, .word (.constant .e), .operator .add, .number 5.0, .stop] ∧
    scan ("1e".push '\u2003' ++ "+5x") = .error (.unknownWord ['x'] 5) ∧
    scan ("+5x".push '\u2003' ++ "1e") = .error (.unknownWord ['x'] 2) := by
  have blank : Text.isBlank '\u2003' := by decide
  have first : scan "1e" = .ok ([.number 1.0, .word (.constant .e)] ++ [.stop]) := by
    decide +kernel
  have second : scan "+5" = .ok ([.operator .add, .number 5.0] ++ [.stop]) := by decide +kernel
  have failed : scan "+5x" = .error (.unknownWord ['x'] 2) := by decide +kernel
  obtain ⟨after, -, -⟩ := scan_separated "1e" "+5" blank
  obtain ⟨after', -, -⟩ := scan_separated "1e" "+5x" blank
  obtain ⟨-, stopped, -⟩ := scan_separated "+5x" "1e" blank
  exact ⟨blank, (after _ first).1 _ second, (after' _ first).2 _ failed, stopped _ failed⟩

end Token

namespace Text

variable {c d : Char}

theorem toLower_of_not_isAlpha (h : c.isAlpha = false) : c.toLower = c := by
  simp only [Char.isAlpha, Bool.or_eq_false_iff] at h
  exact Char.toLower_eq_of_not_isUpper (by simp [h.1])

/-- What is the same for all letters does not see their case. -/
theorem eq_toLower {α : Type} {f : Char → α} {a : α} (letters : ∀ c, c.isAlpha → f c = a)
    (c : Char) : f c.toLower = f c := by
  cases letter : c.isAlpha with
  | false => rw [toLower_of_not_isAlpha letter]
  | true =>
    rw [letters c letter, letters]
    rwa [Char.isAlpha_toLower_eq_isAlpha]

theorem isDigit_toLower (c : Char) : c.toLower.isDigit = c.isDigit :=
  eq_toLower (fun _ => isDigit_of_isAlpha) c

theorem isBlank_toLower (c : Char) : isBlank c.toLower = isBlank c :=
  eq_toLower (fun _ letter => isBlank_of_isAlphanum (isAlphanum_iff.2 (.inl letter))) c

theorem isDigit_comp_toLower : Char.isDigit ∘ Char.toLower = Char.isDigit :=
  funext isDigit_toLower

theorem isAlpha_comp_toLower : Char.isAlpha ∘ Char.toLower = Char.isAlpha :=
  funext Char.isAlpha_toLower_eq_isAlpha

theorem toLower_eq_iff (h : d.isAlpha = false) : c.toLower = d ↔ c = d := by
  constructor
  · rintro rfl
    rw [Char.isAlpha_toLower_eq_isAlpha] at h
    exact (toLower_of_not_isAlpha h).symm
  · rintro rfl
    exact toLower_of_not_isAlpha h

theorem map_toLower_of_isDigit {cs : List Char} (all : ∀ c ∈ cs, c.isDigit) :
    cs.map Char.toLower = cs := by
  refine (List.map_congr_left fun c mem => toLower_of_not_isAlpha ?_).trans (List.map_id cs)
  cases letter : c.isAlpha with
  | false => rfl
  | true => exact absurd (all c mem) (by simp [isDigit_of_isAlpha letter])

theorem map_toLower_map_toLower (cs : List Char) :
    (cs.map Char.toLower).map Char.toLower = cs.map Char.toLower := by
  simp

end Text

namespace Number

open Text

theorem isSign_toLower (c : Char) : isSign c.toLower = isSign c := by
  have letters (c : Char) (letter : c.isAlpha) : isSign c = false := by
    cases sign : isSign c with
    | false => rfl
    | true =>
      rcases isSign_iff.1 sign with rfl | rfl <;> cases letter
  exact eq_toLower letters c

theorem isExponentMark_toLower (c : Char) : isExponentMark c.toLower = isExponentMark c := by
  cases upper : c.isUpper with
  | false => rw [Char.toLower_eq_of_not_isUpper (by simp [upper])]
  | true =>
    -- A capital letter is the capital of its small letter.
    have capital : c.toLower.toUpper = c := by
      rw [Char.toUpper_toLower_eq_toUpper, Char.toUpper_eq_of_not_isLower]
      exact Char.not_isLower_of_isUpper upper
    rw [Bool.eq_iff_iff, isExponentMark_iff, isExponentMark_iff]
    constructor
    · rintro (small | small)
      · rw [small] at capital
        exact .inr capital.symm
      · have := Char.isUpper_toLower_eq_false c
        rw [small] at this
        cases this
    · rintro (rfl | rfl)
      · cases upper
      · exact .inl rfl

theorem natural?_toLower (cs : List Char) : natural? (cs.map Char.toLower) = natural? cs := by
  rw [natural?, natural?, List.isEmpty_map, List.all_map, isDigit_comp_toLower]
  split
  · rfl
  · rename_i digits
    simp only [Bool.or_eq_true, Bool.not_eq_true', not_or, Bool.not_eq_false] at digits
    rw [map_toLower_of_isDigit (List.all_eq_true.1 digits.2)]

theorem signed?_toLower (cs : List Char) : signed? (cs.map Char.toLower) = signed? cs := by
  cases cs with
  | nil => rfl
  | cons c cs =>
    cases sign : isSign c with
    | false =>
      rw [signed?_of_not_isSign sign, List.map_cons,
        signed?_of_not_isSign (by rw [isSign_toLower, sign]), ← List.map_cons, natural?_toLower]
    | true =>
      rcases isSign_iff.1 sign with rfl | rfl
      · change signed? ('+' :: cs.map Char.toLower) = _
        rw [signed?, signed?, natural?_toLower]
      · change signed? ('-' :: cs.map Char.toLower) = _
        rw [signed?, signed?, natural?_toLower]

namespace Numeral

/-- Both parts of a cut in small letters. -/
def lowerBoth (cut : List Char × List Char) : List Char × List Char :=
  (cut.1.map Char.toLower, cut.2.map Char.toLower)

theorem takeWhile_isDigit_toLower (cs : List Char) :
    (cs.map Char.toLower).takeWhile Char.isDigit =
      (cs.takeWhile Char.isDigit).map Char.toLower := by
  rw [List.takeWhile_map, isDigit_comp_toLower]

theorem dropWhile_isDigit_toLower (cs : List Char) :
    (cs.map Char.toLower).dropWhile Char.isDigit =
      (cs.dropWhile Char.isDigit).map Char.toLower := by
  rw [List.dropWhile_map, isDigit_comp_toLower]

theorem exponent?_toLower (cs : List Char) : exponent? (cs.map Char.toLower) = exponent? cs := by
  cases cs with
  | nil => rfl
  | cons c cs =>
    rw [List.map_cons, exponent?, exponent?, isExponentMark_toLower, signed?_toLower]

theorem isDigit_of_mem_splitFraction {c : Char} {cs : List Char}
    (mem : c ∈ (splitFraction cs).1) : c.isDigit := by
  unfold splitFraction at mem
  split at mem
  · exact List.mem_takeWhile_imp mem
  · cases mem

theorem splitFraction_toLower (cs : List Char) :
    splitFraction (cs.map Char.toLower) = lowerBoth (splitFraction cs) := by
  cases cs with
  | nil => rfl
  | cons c cs =>
    by_cases point : c = '.'
    · subst point
      change splitFraction ('.' :: cs.map Char.toLower) = _
      rw [splitFraction, splitFraction, takeWhile_isDigit_toLower, dropWhile_isDigit_toLower]
      rfl
    · have point' : c.toLower ≠ '.' := mt (toLower_eq_iff rfl).1 point
      rw [List.map_cons, splitFraction_of_ne_point point', splitFraction_of_ne_point point]
      rfl

theorem read?_toLower (cs : List Char) :
    Numeral.read? (cs.map Char.toLower) = Numeral.read? cs := by
  have whole : (cs.takeWhile Char.isDigit).map Char.toLower = cs.takeWhile Char.isDigit :=
    map_toLower_of_isDigit fun _ mem => List.mem_takeWhile_imp mem
  have fraction : (splitFraction (cs.dropWhile Char.isDigit)).1.map Char.toLower =
      (splitFraction (cs.dropWhile Char.isDigit)).1 :=
    map_toLower_of_isDigit fun _ => isDigit_of_mem_splitFraction
  simp only [Numeral.read?, takeWhile_isDigit_toLower, dropWhile_isDigit_toLower,
    splitFraction_toLower, lowerBoth, exponent?_toLower, whole, fraction]

theorem starts_toLower (cs : List Char) : starts (cs.map Char.toLower) = starts cs := by
  cases cs with
  | nil => rfl
  | cons c cs =>
    by_cases point : c = '.'
    · subst point
      change starts ('.' :: cs.map Char.toLower) = _
      rw [starts_point, starts_point]
      cases cs with
      | nil => rfl
      | cons d cs => exact isDigit_toLower d
    · rw [List.map_cons, starts_cons (mt (toLower_eq_iff rfl).1 point), starts_cons point,
        isDigit_toLower]

theorem splitDigits_toLower (cs : List Char) :
    splitDigits (cs.map Char.toLower) = lowerBoth (splitDigits cs) := by
  have after : (splitDigits (cs.map Char.toLower)).2 = (splitDigits cs).2.map Char.toLower := by
    rw [splitDigits_snd, splitDigits_snd, dropWhile_isDigit_toLower, splitFraction_toLower]
    rfl
  have whole := congrArg (List.map Char.toLower) (splitDigits_append cs)
  rw [List.map_append, ← after] at whole
  exact Prod.ext (List.append_cancel_right ((splitDigits_append _).trans whole.symm)) after

theorem splitSign_toLower (cs : List Char) :
    splitSign (cs.map Char.toLower) = lowerBoth (splitSign cs) := by
  cases cs with
  | nil => rfl
  | cons c cs =>
    rw [List.map_cons, splitSign, splitSign, isSign_toLower]
    split <;> rfl

theorem splitExponent_toLower (cs : List Char) :
    splitExponent (cs.map Char.toLower) = lowerBoth (splitExponent cs) := by
  cases cs with
  | nil => rfl
  | cons c cs =>
    simp only [List.map_cons, splitExponent, splitSign_toLower, lowerBoth,
      takeWhile_isDigit_toLower, dropWhile_isDigit_toLower, isExponentMark_toLower,
      List.isEmpty_map]
    split <;> simp

theorem split_toLower (cs : List Char) : split (cs.map Char.toLower) = lowerBoth (split cs) := by
  simp only [split, splitDigits_toLower, lowerBoth, splitExponent_toLower, List.map_append]

end Numeral

end Number

namespace Token

open Text

theorem ofSymbol?_toLower (c : Char) : ofSymbol? c.toLower = ofSymbol? c :=
  eq_toLower (fun _ letter => ofSymbol?_eq_none (.inl (isAlphanum_iff.2 (.inl letter)))) c

theorem numberOf_toLower (cs : List Char) : numberOf (cs.map Char.toLower) = numberOf cs := by
  rw [numberOf, read?_toLower, numberOf]

theorem scanFrom_word_toLower {position : Nat} {c : Char} {rest : List Char} (h : c.isAlpha) :
    scanFrom position ((c :: rest).map Char.toLower) =
      scanWord position (((c :: rest).takeWhile Char.isAlpha).map Char.toLower)
        (((c :: rest).dropWhile Char.isAlpha).map Char.toLower) := by
  rw [List.map_cons, scanFrom_word (by rwa [Char.isAlpha_toLower_eq_isAlpha]), ← List.map_cons,
    List.takeWhile_map, List.dropWhile_map, isAlpha_comp_toLower]

/-- A text in small letters has the same tokens, or the same error. -/
theorem scanFrom_toLower (position : Nat) (cs : List Char) :
    scanFrom position (cs.map Char.toLower) = scanFrom position cs := by
  fun_induction scanFrom position cs with
  | case1 position => exact scanFrom_nil position
  | case2 position c rest blank ih =>
    rw [List.map_cons, scanFrom_blank (by rw [isBlank_toLower, blank]), ih]
  | case3 position c rest blank t symbol ih =>
    rw [List.map_cons, scanFrom_symbol (by rw [ofSymbol?_toLower, symbol]), ih]
  | case4 position c rest blank symbol numeral lexeme ih =>
    rw [scanFrom_number (by rw [starts_toLower, numeral]), split_toLower, lowerBoth,
      List.length_map, ih, numberOf_toLower]
  | case5 position c rest blank symbol numeral letter letters w word ih =>
    simp only [letters] at word
    rw [scanFrom_word_toLower letter, scanWord, List.length_map, map_toLower_map_toLower, word, ih]
  | case6 position c rest blank symbol numeral letter letters word =>
    simp only [letters] at word
    rw [scanFrom_word_toLower letter, scanWord, map_toLower_map_toLower, word]
  | case7 position c rest blank symbol numeral letter =>
    have numeral' : starts ((c :: rest).map Char.toLower) = false := by
      rw [starts_toLower]
      exact Bool.eq_false_iff.2 numeral
    rw [List.map_cons, toLower_of_not_isAlpha (Bool.eq_false_iff.2 letter)] at numeral' ⊢
    exact scanFrom_unexpected (Bool.eq_false_iff.2 blank) symbol numeral'
      (Bool.eq_false_iff.2 letter)

end Token

/-- The same character, or the same ASCII letter in another case. -/
def Text.SameLetter (c c' : Char) : Prop := c' = c ∨ c.isAlpha ∧ (c' = c.toLower ∨ c' = c.toUpper)

/-- The texts differ in the case of ASCII letters only. -/
def Text.SameButCase (s s' : String) : Prop := List.Forall₂ SameLetter s.toList s'.toList

instance : DecidableRel Text.SameLetter := fun c c' =>
  inferInstanceAs (Decidable (c' = c ∨ c.isAlpha ∧ (c' = c.toLower ∨ c' = c.toUpper)))

instance : DecidableRel Text.SameButCase := fun s s' =>
  inferInstanceAs (Decidable (List.Forall₂ Text.SameLetter s.toList s'.toList))

theorem Text.SameLetter.toLower_eq {c c' : Char} (h : SameLetter c c') :
    c.toLower = c'.toLower := by
  rcases h with rfl | ⟨-, rfl | rfl⟩
  · rfl
  · exact (Char.toLower_toLower_eq_toLower c).symm
  · exact (Char.toLower_toUpper_eq_toLower c).symm

theorem Text.SameButCase.map_toLower {s s' : String} (h : SameButCase s s') :
    s.toList.map Char.toLower = s'.toList.map Char.toLower := by
  rw [← List.forall₂_eq_eq_eq, List.forall₂_map_left_iff, List.forall₂_map_right_iff]
  exact h.imp fun _ _ letter => letter.toLower_eq

theorem Text.SameButCase.scan_eq {s s' : String} (h : SameButCase s s') : scan s = scan s' := by
  rw [scan, ← scanFrom_toLower, h.map_toLower, scanFrom_toLower, scan]

/-- White space apart, no token starts or goes on with a character outside ASCII. -/
theorem Token.scanFrom_outside {c : Char} (outside : 128 ≤ c.toNat)
    (blank : Text.isBlank c = false) (before after : List Char) :
    scanFrom 0 (before ++ c :: after) =
      (scanFrom 0 before).bind fun _ => .error (.unexpectedCharacter c before.length) := by
  have ne_of_lt {d : Char} (lt : d.toNat < 128) : c ≠ d := by
    rintro rfl
    omega
  have noAlpha : c.isAlpha = false := by
    rw [Bool.eq_false_iff, ne_eq, Text.isAlpha_iff]
    omega
  have noDigit : c.isDigit = false := by
    refine Bool.eq_false_iff.2 fun digit => ?_
    have bounds : 48 ≤ c.toNat ∧ c.toNat ≤ 57 := Char.isDigit_iff_toNat.1 digit
    omega
  have noSymbol : ofSymbol? c = none := by
    have ascii : symbols.all (·.toNat < 128) := by decide
    refine Option.eq_none_iff_forall_ne_some.2 fun t symbol => ?_
    have lt := List.all_eq_true.1 ascii c (mem_symbols_of_ofSymbol? symbol)
    exact ne_of_lt (of_decide_eq_true lt) rfl
  have avoids : Avoids joins (c :: after) := by
    have point : c ≠ '.' := ne_of_lt (by decide)
    have plus : c ≠ '+' := ne_of_lt (by decide)
    have minus : c ≠ '-' := ne_of_lt (by decide)
    rw [Avoids.cons_iff]
    simp [joins, isSign, Char.isAlphanum, noAlpha, noDigit, point, plus, minus]
  have noNumeral : starts (c :: after) = false := by
    rw [starts_cons (ne_of_lt (by decide)), noDigit]
  rw [scanFrom_append avoids, scanFrom_unexpected blank noSymbol noNumeral noAlpha, Nat.zero_add]
  rfl

namespace Calculation

/-- Texts that differ in the case of letters only are the same to a calculation, whether they are
accepted or not. Letters outside ASCII are no letters here: each is an unexpected character. -/
theorem answers_of_sameButCase (lib : Elementary) {s s' : String} (same : Text.SameButCase s s') :
    scan s = scan s' ∧ Working.of s = Working.of s' ∧
    (∀ unit, evaluate lib unit s = evaluate lib unit s') ∧
    ∀ before c after, s.toList = before ++ c :: after → 128 ≤ c.toNat → Text.isBlank c = false →
      ∀ tokens, scan (.ofList before) = .ok tokens →
        scan s = .error (.unexpectedCharacter c before.length) ∧
        scan s' = .error (.unexpectedCharacter c before.length) := by
  have reads : read s = read s' := by rw [read_eq, same.scan_eq, read_eq]
  refine ⟨same.scan_eq, ?_, fun unit => ?_, ?_⟩
  · rw [working_eq, reads, working_eq]
  · rw [evaluate_eq, reads, evaluate_eq]
  · intro before c after text outside blank tokens scanned
    rw [scan, String.toList_ofList] at scanned
    have unexpected : scan s = .error (.unexpectedCharacter c before.length) := by
      rw [scan, text, scanFrom_outside outside blank, scanned]
      rfl
    exact ⟨unexpected, same.scan_eq ▸ unexpected⟩

/-- An exponent, a function and a constant in either case, and the Kelvin sign, whose small letter
is the `k` of ASCII. -/
theorem answers_of_sameButCase_kelvin :
    (Text.SameButCase "Sin(3E1)*Pi" "sIN(3e1)*pI" ∧
      scan "Sin(3E1)*Pi" = scan "sIN(3e1)*pI" ∧
      Working.of "Sin(3E1)*Pi" = Working.of "sIN(3e1)*pI" ∧
      evaluate .native .degrees "Sin(3E1)*Pi" = evaluate .native .degrees "sIN(3e1)*pI") ∧
    Text.SameButCase "LOG(\u212A)" "Log(\u212A)" ∧
      scan "LOG(\u212A)" = .error (.unexpectedCharacter '\u212A' 4) ∧
      scan "Log(\u212A)" = .error (.unexpectedCharacter '\u212A' 4) := by
  have same : Text.SameButCase "Sin(3E1)*Pi" "sIN(3e1)*pI" := by decide
  have same' : Text.SameButCase "LOG(\u212A)" "Log(\u212A)" := by decide
  have before : scan (.ofList "LOG(".toList) =
      .ok [.word (.function .log), .opening, .stop] := by decide +kernel
  obtain ⟨tokens, working, value, -⟩ := answers_of_sameButCase .native same
  obtain ⟨-, -, -, unexpected⟩ := answers_of_sameButCase .native same'
  exact ⟨⟨same, tokens, working, value .degrees⟩, same',
    unexpected "LOG(".toList '\u212A' [')'] (by decide) (by decide) (by decide) _ before⟩

end Calculation

end Calculator
