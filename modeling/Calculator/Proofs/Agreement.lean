import Calculator.Proofs.Restoring
import Calculator.Proofs.Trees

/-! Two readers of the display. The memory takes the whole text for a number, an evaluation takes it
for an expression, whose tokens it cuts off from the left. A text that the one takes for a number is
one token for the other, after a minus if the number is negative, and it is the same number. -/
namespace Calculator

open Number Numeral

namespace Number

namespace Numeral

variable {cs : List Char}

theorem isSome_natural?_iff : (natural? cs).isSome ↔ cs ≠ [] ∧ ∀ c ∈ cs, c.isDigit := by
  simp [natural?, ← List.all_eq_true]

theorem isSome_signed?_iff : (signed? cs).isSome ↔ (natural? (splitSign cs).2).isSome := by
  cases cs with
  | nil => rfl
  | cons c cs =>
    cases sign : isSign c with
    | false => rw [signed?_of_not_isSign sign, Option.isSome_map, splitSign, sign]; rfl
    | true =>
      -- Only a minus changes the number, and neither sign decides whether there is one.
      rcases isSign_iff.1 sign with rfl | rfl
      · change ((natural? cs).map Int.ofNat).isSome ↔ (natural? cs).isSome
        rw [Option.isSome_map]
      · change (signed? ('-' :: cs)).isSome ↔ (natural? cs).isSome
        rw [signed?]
        cases natural? cs <;> simp

theorem isSome_exponent?_iff : (exponent? cs).isSome ↔ splitExponent cs = (cs, []) := by
  cases cs with
  | nil => exact iff_of_true rfl rfl
  | cons c cs =>
    have whole := splitSign_append cs
    rw [exponent?, splitExponent]
    cases mark : isExponentMark c with
    | false => simp
    | true =>
      rw [if_pos rfl, isSome_signed?_iff, isSome_natural?_iff]
      generalize splitSign cs = parts at *
      obtain ⟨sign, digits⟩ := parts
      dsimp only at *
      subst whole
      rw [Bool.true_and]
      constructor
      · rintro ⟨nonempty, all⟩
        rw [List.takeWhile_eq_self_iff.2 all, List.dropWhile_eq_nil_iff.2 all,
          if_pos (by simp [nonempty])]
        rfl
      · intro complete
        split at complete
        · rename_i some
          refine ⟨?_, List.dropWhile_eq_nil_iff.1 (Prod.mk.inj complete).2⟩
          rintro rfl
          cases some
        · cases (Prod.mk.inj complete).1

theorem starts_iff : starts cs ↔ cs.takeWhile Char.isDigit ++
    (splitFraction (cs.dropWhile Char.isDigit)).1 ≠ [] := by
  have noDigit : ('.' : Char).isDigit = false := rfl
  cases cs with
  | nil => simp [starts, splitFraction]
  | cons c cs =>
    by_cases point : c = '.'
    · subst point
      rw [starts_point]
      cases cs with
      | nil => simp [splitFraction, noDigit]
      | cons d cs => cases digit : d.isDigit <;> simp [splitFraction, noDigit, digit]
    · rw [starts_cons point]
      cases digit : c.isDigit <;> simp [splitFraction, digit, point]

theorem splitDigits_snd (cs : List Char) :
    (splitDigits cs).2 = (splitFraction (cs.dropWhile Char.isDigit)).2 := by
  unfold splitDigits splitFraction
  dsimp only
  split <;> rfl

theorem split_eq_self_iff :
    split cs = (cs, []) ↔ splitExponent (splitDigits cs).2 = ((splitDigits cs).2, []) := by
  have whole := splitDigits_append cs
  change ((splitDigits cs).1 ++ (splitExponent (splitDigits cs).2).1,
    (splitExponent (splitDigits cs).2).2) = (cs, []) ↔ _
  rw [Prod.mk.injEq, Prod.ext_iff]
  refine and_congr_left fun _ => ⟨fun eq => ?_, fun eq => ?_⟩
  · exact List.append_cancel_left (eq.trans whole.symm)
  · rw [eq, whole]

/-- A whole text is read as a numeral if all of it is cut off as one. -/
theorem isSome_read?_iff : (read? cs).isSome ↔ IsNumeral cs := by
  rw [IsNumeral, starts_iff, split_eq_self_iff, ← isSome_exponent?_iff, splitDigits_snd, read?]
  dsimp only
  by_cases none : cs.takeWhile Char.isDigit ++ (splitFraction (cs.dropWhile Char.isDigit)).1 = []
  · rw [none]
    simp
  · rw [if_neg (by rwa [List.isEmpty_iff]), Option.isSome_map]
    exact (and_iff_right none).symm

end Numeral

theorem Avoids.append_of_ne_nil {p : Char → Bool} {cs : List Char} (h : Avoids p cs)
    (nonempty : cs ≠ []) (rest : List Char) : Avoids p (cs ++ rest) := by
  cases cs with
  | nil => exact absurd rfl nonempty
  | cons c cs => exact cons_iff.2 (cons_iff.1 h)

end Number

namespace Text

variable {cs before after : List Char}

theorem exists_trim (cs : List Char) : ∃ before after, (∀ c ∈ before, isBlank c) ∧
    (∀ c ∈ after, isBlank c) ∧ cs = before ++ trim cs ++ after := by
  refine ⟨cs.takeWhile isBlank, ((cs.dropWhile isBlank).reverse.takeWhile isBlank).reverse,
    fun _ mem => List.mem_takeWhile_imp mem,
    fun _ mem => List.mem_takeWhile_imp (List.mem_reverse.1 mem), ?_⟩
  rw [trim, List.append_assoc, ← List.reverse_append, List.takeWhile_append_dropWhile,
    List.reverse_reverse, List.takeWhile_append_dropWhile]

/-- White space around a text that neither starts nor ends with any is trimmed. -/
theorem trim_append (blanks : ∀ c ∈ before, isBlank c) (blanks' : ∀ c ∈ after, isBlank c)
    (nonempty : cs ≠ []) (first : Avoids isBlank cs) (last : Avoids isBlank cs.reverse) :
    trim (before ++ cs ++ after) = cs := by
  have inner : Avoids isBlank (cs ++ after) := first.append_of_ne_nil nonempty after
  rw [trim, List.append_assoc, inner.dropWhile_run blanks, List.reverse_append,
    last.dropWhile_run fun c mem => blanks' c (List.mem_reverse.1 mem), List.reverse_reverse]

theorem joins_of_isBlank {c : Char} (h : isBlank c) : Token.joins c = false := by
  cases joins : Token.joins c with
  | false => rfl
  | true =>
    have entered : isExpressionCharacter c := by
      simp only [Token.joins, isSign, Bool.or_eq_true, beq_iff_eq] at joins
      rcases joins with (alphanum | rfl) | rfl | rfl
      · simp [isExpressionCharacter, alphanum]
      · decide
      · decide
      · decide
    rw [isBlank_of_isExpressionCharacter entered] at h
    cases h

end Text

namespace Token

variable {cs before after : List Char} {tokens : List Token} {x : Float}

theorem avoids_joins_of_blanks (blanks : ∀ c ∈ after, Text.isBlank c) : Avoids joins after :=
  fun c mem => Text.joins_of_isBlank (blanks c (List.mem_of_mem_head? mem))

theorem Scans.append_blanks (blanks : ∀ c ∈ before, Text.isBlank c) (scans : Scans cs tokens) :
    Scans (before ++ cs) tokens := by
  induction before with
  | nil => exact scans
  | cons c before ih =>
    rw [List.forall_mem_cons] at blanks
    exact .blank blanks.1 (ih blanks.2)

theorem Scans.surrounded (blanks : ∀ c ∈ before, Text.isBlank c)
    (blanks' : ∀ c ∈ after, Text.isBlank c) (scans : Scans cs tokens) :
    Scans (before ++ cs ++ after) tokens := by
  have nothing : Scans after [] := by
    rw [← List.append_nil after]
    exact .append_blanks blanks' .nil
  have all := (Scans.append_blanks blanks scans).append (avoids_joins_of_blanks blanks') nothing
  rwa [List.append_nil] at all

open Lexeme

/-- A text with these tokens is cut into lexemes that have them. -/
theorem Scans.exists_lexemes (scans : Scans cs tokens) :
    ∃ ls, cs = joined ls ∧ (∀ l ∈ ls, l.Known) ∧ ls.filterMap token? = tokens := by
  obtain ⟨ls, rest, cut, rfl, known, stop⟩ := exists_isCut 0 cs
  have scanned := scanFrom_of_isCut cut known 0
  rw [scans 0] at scanned
  rcases stop with rfl | ⟨e, refuses⟩
  · rw [scanFrom_nil] at scanned
    exact ⟨ls, List.append_nil _, known, (List.append_cancel_right (Except.ok.inj scanned)).symm⟩
  · rw [scanFrom_of_refuses refuses] at scanned
    cases scanned

theorem isBlank_of_mem_joined {ls : List Lexeme} (known : ∀ l ∈ ls, l.Known)
    (none : ∀ l ∈ ls, l.token? = none) : ∀ c ∈ joined ls, Text.isBlank c := by
  intro c mem
  obtain ⟨l, member, within⟩ := List.mem_flatMap.1 mem
  have noToken := none l member
  have isKnown := known l member
  cases l with
  | blank c isBlank =>
    obtain rfl := List.mem_singleton.1 within
    exact isBlank
  | symbol | number => cases noToken
  | word letters nonempty all =>
    rw [Known] at isKnown
    rw [token?, Option.map_eq_none_iff] at noToken
    rw [noToken] at isKnown
    cases isKnown

/-- The first token is that of a lexeme with nothing but white space before it. -/
theorem exists_first {ls : List Lexeme} {t : Token} (known : ∀ l ∈ ls, l.Known)
    (h : ls.filterMap token? = t :: tokens) :
    ∃ (before : List Char) (l : Lexeme) (rest : List Lexeme), (∀ c ∈ before, Text.isBlank c) ∧
      l.token? = some t ∧ joined ls = before ++ l.chars ++ joined rest ∧ (∀ l ∈ rest, l.Known) ∧
      rest.filterMap token? = tokens := by
  obtain ⟨silent, l, rest, rfl, none, token, after⟩ := List.filterMap_eq_cons_iff.1 h
  simp only [List.forall_mem_append, List.forall_mem_cons] at known
  refine ⟨joined silent, l, rest, isBlank_of_mem_joined known.1 none, token, ?_, known.2.2, after⟩
  simp [joined]

theorem ofSymbol?_eq_operator {c : Char} {op : Operator} (h : ofSymbol? c = some (.operator op)) :
    c = op.symbol := by
  unfold ofSymbol? at h
  split at h
  · cases h
  · cases h
  · obtain ⟨op', found, eq⟩ := Option.map_eq_some_iff.1 h
    have same := List.find?_some found
    rw [beq_iff_eq] at same
    cases eq
    exact same.symm

theorem ofSymbol?_ne_number (c : Char) (x : Float) : ofSymbol? c ≠ some (.number x) := by
  intro h
  unfold ofSymbol? at h
  split at h
  · cases h
  · cases h
  · obtain ⟨op, -, eq⟩ := Option.map_eq_some_iff.1 h
    cases eq

theorem chars_of_operator {l : Lexeme} {op : Operator} (h : l.token? = some (.operator op)) :
    l.chars = [op.symbol] := by
  cases l with
  | blank | number => cases h
  | symbol c t isSymbol =>
    cases h
    rw [chars, ofSymbol?_eq_operator isSymbol]
  | word letters nonempty all =>
    obtain ⟨w, -, eq⟩ := Option.map_eq_some_iff.1 h
    cases eq

theorem chars_of_number {l : Lexeme} (h : l.token? = some (.number x)) :
    IsNumeral l.chars ∧ numberOf l.chars = x := by
  cases l with
  | blank => cases h
  | symbol c t isSymbol =>
    cases h
    exact absurd isSymbol (ofSymbol?_ne_number c x)
  | number cs formed =>
    cases h
    exact ⟨isNumeral_iff_formed.2 formed, rfl⟩
  | word letters nonempty all =>
    obtain ⟨w, -, eq⟩ := Option.map_eq_some_iff.1 h
    cases eq

/-- A number by itself is a numeral with white space around it. -/
theorem exists_numeral_of_lexemes {ls : List Lexeme} (known : ∀ l ∈ ls, l.Known)
    (h : ls.filterMap token? = [.number x]) :
    ∃ before cs after, (∀ c ∈ before, Text.isBlank c) ∧ (∀ c ∈ after, Text.isBlank c) ∧
      joined ls = before ++ cs ++ after ∧ IsNumeral cs ∧ numberOf cs = x := by
  obtain ⟨before, l, rest, blanks, token, text, known', nothing⟩ := exists_first known h
  exact ⟨before, l.chars, joined rest, blanks,
    isBlank_of_mem_joined known' (List.filterMap_eq_nil_iff.1 nothing), text,
    chars_of_number token⟩

end Token

namespace Number

theorem exists_numeral_of_unsigned? {cs : List Char} {v : Float} (h : unsigned? cs = some v)
    (finite : v.isFinite) : IsNumeral cs ∧ Token.numberOf cs = v := by
  unfold unsigned? at h
  dsimp only at h
  split at h
  · cases h
    exact absurd finite (by decide +kernel)
  · split at h
    · cases h
      exact absurd finite (by decide +kernel)
    · obtain ⟨n, read, rfl⟩ := Option.map_eq_some_iff.1 h
      refine ⟨isSome_read?_iff.1 (by rw [read]; rfl), ?_⟩
      rw [Token.numberOf, read]

/-- A finite number that is read has a numeral, after a minus if it is negative. -/
theorem exists_numeral_of_read? {cs : List Char} {v : Float} (h : read? cs = some v)
    (finite : v.isFinite) (plus : cs.head? ≠ some '+') :
    ∃ negative numeral, cs = withSign negative numeral ∧ IsNumeral numeral ∧
      v = signedFloat negative (Token.numberOf numeral) := by
  unfold read? at h
  split at h
  · rename_i numeral
    obtain ⟨x, read, rfl⟩ := Option.map_eq_some_iff.1 h
    obtain ⟨isNumeral, rfl⟩ := exists_numeral_of_unsigned? read (by rwa [isFinite_neg] at finite)
    exact ⟨true, numeral, rfl, isNumeral, rfl⟩
  · exact absurd rfl plus
  · obtain ⟨isNumeral, rfl⟩ := exists_numeral_of_unsigned? h finite
    exact ⟨false, cs, rfl, isNumeral, rfl⟩

end Number

namespace Text

open Token

variable {cs before front after : List Char} {x : Float}

theorem isBlank_of_isNumeral (h : IsNumeral cs) : ∀ c ∈ cs, isBlank c = false := fun c mem =>
  isBlank_of_isExpressionCharacter ((isNumeral_iff_formed.1 h).isExpressionCharacter c mem)

/-- Only the white space in front of a text is trimmed that ends in a numeral. -/
theorem trim_of_isNumeral (blanks : ∀ c ∈ before, isBlank c) (blanks' : ∀ c ∈ after, isBlank c)
    (first : Avoids isBlank (front ++ cs)) (h : IsNumeral cs) :
    trim (before ++ (front ++ cs) ++ after) = front ++ cs := by
  have nonempty : cs ≠ [] := by
    rintro rfl
    cases h.1
  have last : Avoids isBlank cs.reverse := fun c mem =>
    isBlank_of_isNumeral h c (List.mem_reverse.1 (List.mem_of_mem_head? mem))
  refine trim_append blanks blanks' (by simp [nonempty]) first ?_
  rw [List.reverse_append]
  exact last.append_of_ne_nil (by simp [nonempty]) _

theorem exists_trim_of_number (scans : Scans cs [.number x]) :
    ∃ numeral, IsNumeral numeral ∧ numberOf numeral = x ∧ trim cs = numeral := by
  obtain ⟨ls, rfl, known, tokens⟩ := scans.exists_lexemes
  obtain ⟨before, numeral, after, blanks, blanks', text, isNumeral, number⟩ :=
    exists_numeral_of_lexemes known tokens
  have first : Avoids isBlank ([] ++ numeral) := fun c mem =>
    isBlank_of_isNumeral isNumeral c (List.mem_of_mem_head? mem)
  refine ⟨numeral, isNumeral, number, ?_⟩
  rw [text]
  exact trim_of_isNumeral blanks blanks' first isNumeral

theorem exists_trim_of_minus (scans : Scans cs [.operator .subtract, .number x])
    (adjacent : Avoids isBlank (trim cs).tail) :
    ∃ numeral, IsNumeral numeral ∧ numberOf numeral = x ∧ trim cs = '-' :: numeral := by
  obtain ⟨ls, rfl, known, tokens⟩ := scans.exists_lexemes
  obtain ⟨before, l, rest, blanks, token, text, known', number⟩ := exists_first known tokens
  obtain ⟨middle, numeral, after, blanks', blanks'', text', isNumeral, value⟩ :=
    exists_numeral_of_lexemes known' number
  have first : Avoids isBlank ('-' :: middle ++ numeral) := Avoids.cons_iff.2 (by decide)
  have trimmed : trim (Lexeme.joined ls) = '-' :: middle ++ numeral := by
    rw [text, text', chars_of_operator token, ← trim_of_isNumeral blanks blanks'' first isNumeral]
    simp [Operator.symbol]
  -- White space between the two would be what the trimmed text goes on with.
  rw [trimmed] at adjacent
  cases middle with
  | nil => exact ⟨numeral, isNumeral, value, trimmed⟩
  | cons c middle =>
    have blank := blanks' c (List.mem_cons_self ..)
    rw [Avoids.cons_iff.1 adjacent] at blank
    cases blank

end Text

namespace Session

open Token

variable {lib : Elementary} {unit : AngleUnit} {negative : Bool} {x v : Float}

/-- A number that is too large has no value. -/
theorem isFinite_of_scans_signed {s : String}
    (scans : Scans s.toList (Grammar.Sum.product (.signed (signed negative x))).tokens)
    (h : Calculation.evaluate lib unit s = .ok v) : x.isFinite := by
  rw [evaluate_eq_of_scans_signed lib unit scans] at h
  cases isFinite : x.isFinite with
  | true => rfl
  | false =>
    rw [finite_eq_error isFinite] at h
    cases h

theorem evaluate_of_number? {s : Session} (h : s.number? = some v)
    (plus : (Text.trim s.display.toList).head? ≠ some '+') (lib : Elementary) (unit : AngleUnit) :
    Calculation.evaluate lib unit s.display = .ok v := by
  obtain ⟨read, finite⟩ := Option.filter_eq_some_iff.1 h
  obtain ⟨negative, numeral, eq, isNumeral, rfl⟩ := exists_numeral_of_read? read finite plus
  obtain ⟨before, after, blanks, blanks', text⟩ := Text.exists_trim s.display.toList
  rw [isFinite_signedFloat] at finite
  refine evaluate_of_scans_signed lib unit ?_ finite
  rw [text, eq]
  refine .surrounded blanks blanks' ?_
  have scans := @scans_signed negative _ _ _ isNumeral (.nil _) .nil
  rw [List.append_nil, List.append_nil] at scans
  exact scans

theorem number?_of_evaluate {s : Session} {numeral : List Char} (isNumeral : IsNumeral numeral)
    (display : Text.trim s.display.toList = withSign negative numeral)
    (scans : Scans s.display.toList
      (Grammar.Sum.product (.signed (signed negative (numberOf numeral)))).tokens)
    (h : Calculation.evaluate lib unit s.display = .ok v) : s.number? = some v := by
  have finite := isFinite_of_scans_signed scans h
  rw [evaluate_of_scans_signed lib unit scans finite] at h
  cases h
  exact number?_of_trim isNumeral finite display

/-- The display is read as a number and evaluated as an expression to the same. Only a plus in front
is no part of an expression, and only an expression may have white space after a minus. -/
theorem readers_agree (lib : Elementary) (s : Session) :
    (∀ v, s.number? = some v → (Text.trim s.display.toList).head? ≠ some '+' →
      ∀ unit, Calculation.evaluate lib unit s.display = .ok v) ∧
    ∀ x v unit,
      (scan s.display = .ok [.number x, .stop] ∨
        scan s.display = .ok [.operator .subtract, .number x, .stop] ∧
          Avoids Text.isBlank (Text.trim s.display.toList).tail) →
      Calculation.evaluate lib unit s.display = .ok v →
        s.number? = some v ∧ s.apply lib .storeMemory = { s with memory := v } := by
  refine ⟨fun v number plus unit => evaluate_of_number? number plus lib unit, ?_⟩
  intro x v unit one value
  have number : s.number? = some v := by
    rcases one with scanned | ⟨scanned, adjacent⟩
    · have scans : Scans s.display.toList [.number x] := .of_scanFrom scanned
      obtain ⟨numeral, isNumeral, rfl, trimmed⟩ := Text.exists_trim_of_number scans
      exact @number?_of_evaluate _ _ false _ _ _ isNumeral trimmed scans value
    · have scans : Scans s.display.toList [.operator .subtract, .number x] :=
        .of_scanFrom scanned
      obtain ⟨numeral, isNumeral, rfl, trimmed⟩ := Text.exists_trim_of_minus scans adjacent
      exact @number?_of_evaluate _ _ true _ _ _ isNumeral trimmed scans value
  refine ⟨number, ?_⟩
  rw [apply, number]
  rfl

theorem readers_agree_blanks :
    let s : Session := { display := "\u3000-.5E-0\t" }
    s.number? = some (-0.5) ∧ (Text.trim s.display.toList).head? ≠ some '+' ∧
      scan s.display = .ok [.operator .subtract, .number 0.5, .stop] ∧
      Avoids Text.isBlank (Text.trim s.display.toList).tail ∧
      (∀ unit, Calculation.evaluate .native unit s.display = .ok (-0.5)) ∧
      s.apply .native .storeMemory = { s with memory := -0.5 } := by
  intro s
  have number : s.number? = some (-0.5) := by decide +kernel
  have noPlus : (Text.trim s.display.toList).head? ≠ some '+' := by decide
  have scanned : scan s.display = .ok [.operator .subtract, .number 0.5, .stop] := by
    decide +kernel
  have tail : (Text.trim s.display.toList).tail = ".5E-0".toList := by decide
  have adjacent : Avoids Text.isBlank (Text.trim s.display.toList).tail := by
    rw [tail]
    exact Avoids.cons_iff.2 (by decide)
  obtain ⟨evaluated, stored⟩ := readers_agree .native s
  have value := evaluated _ number noPlus
  exact ⟨number, noPlus, scanned, adjacent, value,
    (stored _ _ .degrees (.inr ⟨scanned, adjacent⟩) (value .degrees)).2⟩

end Session

end Calculator
