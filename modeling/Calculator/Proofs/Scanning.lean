import Calculator.Proofs.Numerals
import Calculator.Proofs.Outcome
import Calculator.Token.Lexer

/-! The scanner, one token at a time. A text is scanned the same wherever it stands, and two texts
are scanned one after the other if no token goes on from the first into the second. -/
namespace Calculator.Text

theorem bounds_of_isBlank {c : Char} (h : isBlank c) : c.toNat ≤ 32 ∨ 133 ≤ c.toNat := by
  simp only [isBlank, inRanges, blankRanges, List.any_cons, List.any_nil, Bool.or_eq_true,
    Bool.and_eq_true, decide_eq_true_eq, Bool.false_eq_true, or_false] at h
  omega

theorem isAlpha_iff {c : Char} :
    c.isAlpha ↔ (65 ≤ c.toNat ∧ c.toNat ≤ 90) ∨ (97 ≤ c.toNat ∧ c.toNat ≤ 122) := by
  change ((decide (c.val ≥ 65 ∧ c.val ≤ 90)) || (decide (c.val ≥ 97) && decide (c.val ≤ 122)))
    = true ↔ _
  simp only [Bool.or_eq_true, Bool.and_eq_true, decide_eq_true_eq, ge_iff_le,
    UInt32.le_iff_toNat_le]
  rfl

theorem isAlphanum_iff {c : Char} : c.isAlphanum ↔ c.isAlpha ∨ c.isDigit := by
  simp [Char.isAlphanum]

theorem isDigit_of_isAlpha {c : Char} (h : c.isAlpha) : c.isDigit = false := by
  cases digit : c.isDigit with
  | false => rfl
  | true =>
    have letter := isAlpha_iff.1 h
    have bounds : 48 ≤ c.toNat ∧ c.toNat ≤ 57 := Char.isDigit_iff_toNat.1 digit
    omega

theorem isBlank_of_isAlphanum {c : Char} (h : c.isAlphanum) : isBlank c = false := by
  cases blank : isBlank c with
  | false => rfl
  | true =>
    have outside := bounds_of_isBlank blank
    rcases isAlphanum_iff.1 h with alpha | digit
    · have letter := isAlpha_iff.1 alpha
      omega
    · have bounds : 48 ≤ c.toNat ∧ c.toNat ≤ 57 := Char.isDigit_iff_toNat.1 digit
      omega

end Calculator.Text

namespace Calculator.Token

open Number Numeral

variable {position : Nat} {c : Char} {cs rest : List Char}

/-- The characters that are tokens by themselves. -/
def symbols : List Char := "()+-*/^".toList

theorem mem_symbols_of_ofSymbol? {t : Token} (h : ofSymbol? c = some t) : c ∈ symbols := by
  unfold ofSymbol? at h
  split at h
  · decide
  · decide
  · obtain ⟨op, found, -⟩ := Option.map_eq_some_iff.1 h
    have same := List.find?_some found
    simp only [beq_iff_eq] at same
    subst same
    cases op <;> decide

theorem not_stop_of_ofSymbol? {t : Token} (h : ofSymbol? c = some t) : t.isStop = false := by
  unfold ofSymbol? at h
  split at h
  · cases h; rfl
  · cases h; rfl
  · obtain ⟨op, -, rfl⟩ := Option.map_eq_some_iff.1 h
    rfl

/-- A symbol is no white space, no digit and no letter, and starts no numeral. -/
theorem classes_of_mem_symbols (h : c ∈ symbols) :
    Text.isBlank c = false ∧ c.isAlphanum = false ∧ c ≠ '.' := by
  have all : symbols.all fun c => !Text.isBlank c && !c.isAlphanum && c != '.' := by decide
  simpa [and_assoc] using List.all_eq_true.1 all c h

theorem ofSymbol?_eq_none (h : c.isAlphanum ∨ c = '.') : ofSymbol? c = none := by
  cases symbol : ofSymbol? c with
  | none => rfl
  | some t =>
    have classes := classes_of_mem_symbols (mem_symbols_of_ofSymbol? symbol)
    rcases h with h | h
    · rw [classes.2.1] at h
      cases h
    · exact absurd h classes.2.2

theorem first_of_starts (h : starts (c :: rest)) : c.isDigit ∨ c = '.' := by
  by_cases point : c = '.'
  · exact .inr point
  · rw [starts_cons point] at h
    exact .inl h

theorem scanFrom_nil (position : Nat) : scanFrom position [] = .ok [.stop] := by rw [scanFrom]

theorem scanFrom_blank (h : Text.isBlank c) :
    scanFrom position (c :: rest) = scanFrom (position + 1) rest := by
  rw [scanFrom, if_pos h]

theorem scanFrom_symbol {t : Token} (h : ofSymbol? c = some t) :
    scanFrom position (c :: rest) = (scanFrom (position + 1) rest).map (t :: ·) := by
  have classes := classes_of_mem_symbols (mem_symbols_of_ofSymbol? h)
  rw [scanFrom, if_neg (by simp [classes.1]), h]

theorem scanFrom_number (h : starts cs) :
    scanFrom position cs = (scanFrom (position + (split cs).1.length) (split cs).2).map
      (.number (numberOf (split cs).1) :: ·) := by
  cases cs with
  | nil => cases h
  | cons c rest =>
    have classes : Text.isBlank c = false ∧ ofSymbol? c = none := by
      rcases first_of_starts h with digit | rfl
      · have alphanum : c.isAlphanum := Text.isAlphanum_iff.2 (.inr digit)
        exact ⟨Text.isBlank_of_isAlphanum alphanum, ofSymbol?_eq_none (.inl alphanum)⟩
      · decide
    rw [scanFrom, if_neg (by simp [classes.1]), classes.2]
    simp only [dif_pos h]

/-- The answer to a run of letters in front of `rest`. -/
def scanWord (position : Nat) (letters rest : List Char) : Except LexError (List Token) :=
  match wordOf? (letters.map Char.toLower) with
  | some w => (scanFrom (position + letters.length) rest).map (.word w :: ·)
  | none => .error (.unknownWord (letters.map Char.toLower) position)

theorem scanFrom_word (h : c.isAlpha) :
    scanFrom position (c :: rest) = scanWord position ((c :: rest).takeWhile Char.isAlpha)
      ((c :: rest).dropWhile Char.isAlpha) := by
  have alphanum : c.isAlphanum := Text.isAlphanum_iff.2 (.inl h)
  have noNumeral : starts (c :: rest) = false := by
    rw [starts_cons (by rintro rfl; cases h)]
    exact Text.isDigit_of_isAlpha h
  rw [scanFrom, if_neg (by simp [Text.isBlank_of_isAlphanum alphanum]),
    ofSymbol?_eq_none (.inl alphanum)]
  simp only [noNumeral, Bool.false_eq_true, dite_false, dif_pos h]
  rfl

theorem scanFrom_unexpected (blank : Text.isBlank c = false) (symbol : ofSymbol? c = none)
    (numeral : starts (c :: rest) = false) (letter : c.isAlpha = false) :
    scanFrom position (c :: rest) = .error (.unexpectedCharacter c position) := by
  rw [scanFrom, if_neg (by simp [blank]), symbol]
  simp [numeral, letter]

/-- Where a text stands counts for the positions of errors only. -/
theorem scanFrom_shift (n position : Nat) (cs : List Char) :
    scanFrom (position + n) cs = (scanFrom position cs).mapError (LexError.shift n) := by
  fun_induction scanFrom position cs with
  | case1 position => rw [scanFrom_nil]; rfl
  | case2 position c rest blank ih =>
    rw [scanFrom_blank blank, ← ih, Nat.add_right_comm]
  | case3 position c rest blank t symbol ih =>
    rw [scanFrom_symbol symbol, mapError_map, ← ih, Nat.add_right_comm]
  | case4 position c rest blank symbol numeral lexeme ih =>
    rw [scanFrom_number numeral, mapError_map, ← ih, Nat.add_right_comm]
  | case5 position c rest blank symbol numeral letter letters w word ih =>
    rw [scanFrom_word letter, scanWord, mapError_map, ← ih, Nat.add_right_comm]
    simp only [letters] at word
    rw [word]
  | case6 position c rest blank symbol numeral letter letters word =>
    rw [scanFrom_word letter, scanWord]
    simp only [letters] at word
    rw [word]
    rfl
  | case7 position c rest blank symbol numeral letter =>
    rw [scanFrom_unexpected (by simpa using blank) symbol (by simpa using numeral)
      (by simpa using letter)]
    rfl

@[simp] theorem line_cons_of_not_stop {t : Token} (h : t.isStop = false) (tokens : List Token) :
    line (t :: tokens) = t :: line tokens := by
  simp [line, h]

/-- The characters with which a token may go on after another character. -/
def joins (c : Char) : Bool := c.isAlphanum || c == '.' || isSign c

theorem joins_of_continuesNumeral (h : continuesNumeral c) : joins c := by
  simp only [continuesNumeral, Bool.or_eq_true, beq_iff_eq, isExponentMark_iff] at h
  rcases h with (digit | rfl) | rfl | rfl
  · simp [joins, Char.isAlphanum, digit]
  · decide
  · decide
  · decide

theorem avoids_of_joins {after : List Char} (h : Avoids joins after) :
    Avoids continuesNumeral after ∧ Avoids isSign after ∧ Avoids Char.isAlpha after := by
  refine ⟨h.mono fun c free => ?_, h.mono fun c free => ?_, h.mono fun c free => ?_⟩
  · cases goes : continuesNumeral c with
    | false => rfl
    | true => rw [joins_of_continuesNumeral goes] at free; cases free
  · simp_all [joins]
  · simp_all [joins, Char.isAlphanum]

/-- A token in front of one text is in front of both. -/
theorem map_cons_append {t : Token} (h : t.isStop = false)
    (first second : Except LexError (List Token)) :
    ((first.map (t :: ·)).bind fun ts => second.map (line ts ++ ·)) =
      (first.bind fun ts => second.map (line ts ++ ·)).map (t :: ·) := by
  cases first with
  | error e => rfl
  | ok ts =>
    cases second with
    | error e => rfl
    | ok ts' => simp [Except.map, Except.bind, h]

/-- Two texts are scanned one after the other if no token can go on from one into the other. -/
theorem scanFrom_append {after : List Char} (h : Avoids joins after) (position : Nat)
    (cs : List Char) :
    scanFrom position (cs ++ after) = (scanFrom position cs).bind fun ts =>
      (scanFrom (position + cs.length) after).map (line ts ++ ·) := by
  have avoids := avoids_of_joins h
  fun_induction scanFrom position cs with
  | case1 position =>
    rw [List.nil_append, List.length_nil, Nat.add_zero]
    cases scanFrom position after <;> rfl
  | case2 position c rest blank ih =>
    rw [List.cons_append, scanFrom_blank blank, ih, List.length_cons, Nat.add_right_comm]
    rfl
  | case3 position c rest blank t symbol ih =>
    rw [List.cons_append, scanFrom_symbol symbol, ih, List.length_cons, Nat.add_right_comm,
      Nat.add_assoc position, map_cons_append (not_stop_of_ofSymbol? symbol)]
  | case4 position c rest blank symbol numeral lexeme ih =>
    have first : starts (c :: rest ++ after) := by
      rw [starts_append (List.cons_ne_nil c rest) avoids.1.digit]
      exact numeral
    have whole := congrArg List.length (split_append (c :: rest))
    rw [List.length_append] at whole
    rw [scanFrom_number first, split_append_of_avoids avoids.1 (.inl avoids.2.1), ih, ← whole,
      Nat.add_assoc, map_cons_append rfl]
  | case5 position c rest blank symbol numeral letter letters w word ih =>
    have whole := congrArg List.length (@List.takeWhile_append_dropWhile _ Char.isAlpha (c :: rest))
    rw [List.length_append] at whole
    rw [List.cons_append, scanFrom_word letter, ← List.cons_append, avoids.2.2.takeWhile_append,
      avoids.2.2.dropWhile_append, scanWord, ih, ← whole, Nat.add_assoc]
    simp only [letters] at word
    rw [word]
    exact (map_cons_append rfl _ _).symm
  | case6 position c rest blank symbol numeral letter letters word =>
    rw [List.cons_append, scanFrom_word letter, ← List.cons_append, avoids.2.2.takeWhile_append,
      avoids.2.2.dropWhile_append, scanWord]
    simp only [letters] at word
    rw [word]
    rfl
  | case7 position c rest blank symbol numeral letter =>
    have first : starts (c :: (rest ++ after)) = false := by
      rw [← List.cons_append, starts_append (List.cons_ne_nil c rest) avoids.1.digit]
      simpa using numeral
    rw [List.cons_append, scanFrom_unexpected (by simpa using blank) symbol first
      (by simpa using letter)]
    rfl

/-- The text has these tokens, wherever it stands. -/
def Scans (cs : List Char) (tokens : List Token) : Prop :=
  ∀ position, scanFrom position cs = .ok (tokens ++ [.stop])

theorem eq_line_of_scanFrom {tokens : List Token} (h : scanFrom position cs = .ok tokens) :
    tokens = line tokens ++ [.stop] := by
  -- A text with a stop mark scanned after it: the line of the first is what remains of it.
  have after := scanFrom_append (Avoids.nil joins) position cs
  rw [List.append_nil, h, scanFrom_nil] at after
  exact Except.ok.inj after

theorem Scans.of_scanFrom {tokens : List Token} (h : scanFrom position cs = .ok tokens) :
    Scans cs (line tokens) := by
  intro position'
  have zero : scanFrom 0 cs = .ok tokens := by
    rw [← Nat.zero_add position, scanFrom_shift] at h
    exact mapError_eq_ok h
  rw [← Nat.zero_add position', scanFrom_shift, zero, ← eq_line_of_scanFrom h]
  rfl

theorem Scans.line_eq {tokens : List Token} (h : Scans cs tokens) :
    line (tokens ++ [.stop]) = tokens :=
  (List.append_cancel_right (eq_line_of_scanFrom (h 0))).symm

theorem Scans.nil : Scans [] [] := scanFrom_nil

theorem Scans.symbol {t : Token} {tokens : List Token} (h : ofSymbol? c = some t)
    (after : Scans rest tokens) : Scans (c :: rest) (t :: tokens) := by
  intro position
  rw [scanFrom_symbol h, after]
  rfl

theorem scanFrom_numeral (h : IsNumeral cs) (avoids : Avoids continuesNumeral rest)
    (position : Nat) : scanFrom position (cs ++ rest) =
      (scanFrom (position + cs.length) rest).map (.number (numberOf cs) :: ·) := by
  have nonempty : cs ≠ [] := by
    rintro rfl
    cases h.1
  have first : starts (cs ++ rest) := by
    rw [starts_append nonempty avoids.digit]
    exact h.1
  rw [scanFrom_number first, h.split_append avoids]

theorem Scans.numeral {tokens : List Token} (h : IsNumeral cs)
    (avoids : Avoids continuesNumeral rest) (after : Scans rest tokens) :
    Scans (cs ++ rest) (.number (numberOf cs) :: tokens) := by
  intro position
  rw [scanFrom_numeral h avoids, after]
  rfl

/-- The tokens after the first are those of the text after it. -/
theorem Scans.of_map_cons {t : Token} {tokens : List Token}
    (h : (scanFrom position rest).map (t :: ·) = .ok (tokens ++ [.stop])) :
    ∃ after, tokens = t :: after ∧ Scans rest after := by
  obtain ⟨ts, scanned, eq⟩ := map_eq_ok h
  refine ⟨line ts, ?_, .of_scanFrom scanned⟩
  rw [eq_line_of_scanFrom scanned] at eq
  exact (List.append_cancel_right eq).symm

theorem Scans.of_numeral {tokens : List Token} (h : IsNumeral cs)
    (avoids : Avoids continuesNumeral rest) (scans : Scans (cs ++ rest) tokens) :
    ∃ after, tokens = .number (numberOf cs) :: after ∧ Scans rest after :=
  Scans.of_map_cons ((scanFrom_numeral h avoids 0).symm.trans (scans 0))

theorem Scans.of_symbol {t : Token} {tokens : List Token} (h : ofSymbol? c = some t)
    (scans : Scans (c :: rest) tokens) : ∃ after, tokens = t :: after ∧ Scans rest after :=
  Scans.of_map_cons ((scanFrom_symbol h).symm.trans (scans 0))

theorem Scans.of_letter {tokens : List Token} (h : c.isAlpha) (scans : Scans (c :: rest) tokens) :
    ∃ w after, tokens = .word w :: after := by
  have scanned := scans 0
  rw [scanFrom_word h, scanWord] at scanned
  split at scanned
  · rename_i w word
    obtain ⟨after, eq, -⟩ := Scans.of_map_cons scanned
    exact ⟨w, after, eq⟩
  · cases scanned

theorem Scans.starts_point {tokens : List Token} (scans : Scans ('.' :: rest) tokens) :
    starts ('.' :: rest) := by
  cases numeral : starts ('.' :: rest) with
  | true => rfl
  | false =>
    have scanned := scans 0
    rw [scanFrom_unexpected (by decide) rfl numeral rfl] at scanned
    cases scanned

theorem Scans.append {first second : List Token} {after : List Char} (h : Scans cs first)
    (avoids : Avoids joins after) (h' : Scans after second) :
    Scans (cs ++ after) (first ++ second) := by
  intro position
  rw [scanFrom_append avoids, h, h']
  simp [Except.bind, Except.map, h.line_eq]

theorem Scans.unique {first second : List Token} (h : Scans cs first) (h' : Scans cs second) :
    first = second :=
  List.append_cancel_right (Except.ok.inj ((h 0).symm.trans (h' 0)))

theorem splitDigits_zero (cs : List Char) :
    splitDigits ('0' :: cs) = ('0' :: (splitDigits cs).1, (splitDigits cs).2) := by
  have digit : ('0' : Char).isDigit = true := rfl
  simp only [splitDigits, List.takeWhile_cons, List.dropWhile_cons, digit, if_true]
  split <;> rfl

theorem split_zero (cs : List Char) : split ('0' :: cs) = ('0' :: (split cs).1, (split cs).2) := by
  simp only [split, splitDigits_zero, List.cons_append]

theorem read?_zero (h : starts cs) : Numeral.read? ('0' :: cs) = Numeral.read? cs := by
  have digit : ('0' : Char).isDigit = true := rfl
  have nonempty : (cs.takeWhile Char.isDigit ++
      (splitFraction (cs.dropWhile Char.isDigit)).1).isEmpty = false := by
    cases cs with
    | nil => cases h
    | cons c cs =>
      rcases first_of_starts h with digit | rfl
      · simp [digit]
      · rw [starts_point] at h
        cases cs with
        | nil => cases h
        | cons d cs =>
          have digit : d.isDigit := h
          simp [show ('.' : Char).isDigit = false from rfl, splitFraction, digit]
  simp only [Numeral.read?, List.takeWhile_cons, List.dropWhile_cons, digit, if_true,
    List.cons_append, List.isEmpty_cons, nonempty]
  rfl

theorem numberOf_zeroDigit : numberOf ['0'] = 0.0 := by decide +kernel

theorem numberOf_zero (h : starts cs) : numberOf ('0' :: cs) = numberOf cs := by
  rw [numberOf, numberOf, read?_zero h]

theorem starts_split (h : starts cs) : starts (split cs).1 := by
  cases cs with
  | nil => cases h
  | cons c cs =>
    rcases first_of_starts h with digit | rfl
    · have whole := split_append (c :: cs)
      cases lexeme : (split (c :: cs)).1 with
      | nil => exact absurd lexeme (split_fst_ne_nil h)
      | cons d tail =>
        rw [lexeme] at whole
        obtain ⟨rfl, -⟩ := List.cons.inj whole
        rw [starts_cons (by rintro rfl; cases digit)]
        exact digit
    · rw [starts_point] at h
      cases cs with
      | nil => cases h
      | cons d cs =>
        have digit : d.isDigit := h
        have cut := splitDigits_point (rfl : List.dropWhile Char.isDigit ('.' :: d :: cs) = _)
        simp [split, cut, digit, starts]

/-- A zero in front of a numeral is read with it and changes nothing. -/
theorem scanFrom_zero (h : starts cs) (position : Nat) :
    scanFrom position ('0' :: cs) = scanFrom (position + 1) cs := by
  have first : starts ('0' :: cs) := by
    rw [starts_cons (by decide)]
    rfl
  rw [scanFrom_number first, split_zero, numberOf_zero (starts_split h), scanFrom_number h,
    List.length_cons, Nat.add_assoc, Nat.add_comm 1]

theorem scans_zero_iff {tokens : List Token} (h : starts cs) :
    Scans ('0' :: cs) tokens ↔ Scans cs tokens := by
  constructor
  · intro scans
    have after := scans 0
    rw [scanFrom_zero h] at after
    rw [← scans.line_eq]
    exact .of_scanFrom after
  · intro scans position
    rw [scanFrom_zero h]
    exact scans (position + 1)

end Calculator.Token
