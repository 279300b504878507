import Calculator.Stored.Blank
import Calculator.Text.Identifier

/-! The lexemes of stored text: marks, names, numerals, and texts between quotes. White space and
comments may stand between them. -/
namespace Calculator.Stored

inductive Lexeme where
  | mark (c : Char)
  | opening (after : List Char)
  /-- Two parentheses with nothing between them, not even white space. -/
  | unit
  | name (cs : List Char)
  | rawName (cs : List Char)
  /-- What starts like a number and goes on like a name or a number. -/
  | numeral (cs : List Char)
  | text (cs : List Char)
  /-- A character or a string of bytes; nothing that is kept is written so. -/
  | literal
  deriving DecidableEq, Repr

def isMark (c : Char) : Bool := ")[]\x7b\x7d:,#!".toList.contains c

def isWordPart (c : Char) : Bool := Text.isIdentifierPart c || c == '.' || c == '+' || c == '-'

def startsNumeral (c : Char) : Bool := c.isDigit || c == '.' || c == '+' || c == '-'

def word? (c : Char) (cs : List Char) : Option (Lexeme × List Char) :=
  if Text.isIdentifierStart c then
    some (.name (c :: cs.takeWhile Text.isIdentifierPart), cs.dropWhile Text.isIdentifierPart)
  else if startsNumeral c then
    some (.numeral (c :: cs.takeWhile isWordPart), cs.dropWhile isWordPart)
  else none

/-- A name whose `r#` has been read. -/
def rawName? (cs : List Char) : Option (Lexeme × List Char) :=
  let name := cs.takeWhile isWordPart
  if name.isEmpty then none else some (.rawName name, cs.dropWhile isWordPart)

def asText : List Char × List Char → Lexeme × List Char
  | (text, rest) => (.text text, rest)

def asLiteral (rest : List Char) : Lexeme × List Char := (.literal, rest)

def lexeme? : List Char → Option (Lexeme × List Char)
  | '"' :: cs => (quoted? cs).map asText
  | '\'' :: cs => (character? cs).map asLiteral
  | 'r' :: '"' :: cs => (raw? 0 cs).map asText
  | 'r' :: '#' :: cs =>
    match rawName? cs with
    | some name => some name
    | none => (rawQuoted? ('#' :: cs)).map asText
  | 'b' :: '"' :: cs => (byteString? cs).map asLiteral
  | 'b' :: '\'' :: cs => (byteLiteral? cs).map asLiteral
  | 'b' :: 'r' :: '"' :: cs => (raw? 0 cs).map fun (_, rest) => asLiteral rest
  | 'b' :: 'r' :: '#' :: cs => (rawQuoted? ('#' :: cs)).map fun (_, rest) => asLiteral rest
  | '(' :: ')' :: cs => some (.unit, cs)
  | '(' :: cs => some (.opening cs, cs)
  | c :: cs => if isMark c then some (.mark c, cs) else word? c cs
  | [] => none

theorem length_word? {c : Char} {cs rest : List Char} {l : Lexeme}
    (h : word? c cs = some (l, rest)) : rest.length ≤ cs.length := by
  unfold word? at h
  split at h
  · simp only [Option.some.injEq, Prod.mk.injEq] at h
    obtain ⟨_, rfl⟩ := h
    exact length_dropWhile_le _ _
  · split at h
    · simp only [Option.some.injEq, Prod.mk.injEq] at h
      obtain ⟨_, rfl⟩ := h
      exact length_dropWhile_le _ _
    · simp at h

theorem length_lexeme? {cs rest : List Char} {l : Lexeme} (h : lexeme? cs = some (l, rest)) :
    rest.length < cs.length := by
  unfold lexeme? at h
  split at h
  all_goals try simp only [Option.map_eq_some_iff, asText, asLiteral, Prod.mk.injEq,
    Prod.exists] at h
  · obtain ⟨_, _, h, _, rfl⟩ := h
    exact Nat.lt_succ_of_lt (length_quoted? h)
  · obtain ⟨_, h, _, rfl⟩ := h
    exact Nat.lt_succ_of_lt (length_character? h)
  · obtain ⟨_, _, h, _, rfl⟩ := h
    exact Nat.lt_succ_of_lt (Nat.lt_succ_of_lt (length_raw? h))
  · split at h
    · rename_i cs name hn
      obtain rfl : name = (l, rest) := by simpa using h
      simp only [rawName?] at hn
      split at hn
      · simp at hn
      · simp only [Option.some.injEq, Prod.mk.injEq] at hn
        obtain ⟨_, rfl⟩ := hn
        exact Nat.lt_succ_of_lt (Nat.lt_succ_of_le (length_dropWhile_le _ _))
    · simp only [Option.map_eq_some_iff, asText, Prod.mk.injEq, Prod.exists] at h
      obtain ⟨_, _, h, _, rfl⟩ := h
      exact Nat.lt_succ_of_lt (length_rawQuoted? h)
  · obtain ⟨_, h, _, rfl⟩ := h
    exact Nat.lt_succ_of_lt (Nat.lt_succ_of_lt (length_byteString? h))
  · obtain ⟨_, h, _, rfl⟩ := h
    exact Nat.lt_succ_of_lt (Nat.lt_succ_of_lt (length_byteLiteral? h))
  · obtain ⟨_, _, h, _, rfl⟩ := h
    exact Nat.lt_succ_of_lt (Nat.lt_succ_of_lt (Nat.lt_succ_of_lt (length_raw? h)))
  · obtain ⟨_, _, h, _, rfl⟩ := h
    exact Nat.lt_succ_of_lt (Nat.lt_succ_of_lt (length_rawQuoted? h))
  · simp only [Option.some.injEq, Prod.mk.injEq] at h
    obtain ⟨_, rfl⟩ := h
    exact Nat.lt_succ_of_lt (Nat.lt_succ_self _)
  · simp only [Option.some.injEq, Prod.mk.injEq] at h
    obtain ⟨_, rfl⟩ := h
    exact Nat.lt_succ_self _
  · split at h
    · simp only [Option.some.injEq, Prod.mk.injEq] at h
      obtain ⟨_, rfl⟩ := h
      exact Nat.lt_succ_self _
    · exact Nat.lt_succ_of_le (length_word? h)
  · simp at h

def lexemes? (cs : List Char) : Option (List Lexeme) :=
  match _blanks : skipBlanks? cs with
  | none => none
  | some [] => some []
  | some (c :: rest) =>
    match _lexeme : lexeme? (c :: rest) with
    | none => none
    | some (l, after) => (lexemes? after).map (l :: ·)
termination_by cs.length
decreasing_by exact Nat.lt_of_lt_of_le (length_lexeme? _lexeme) (length_skipBlanks? _blanks)

end Calculator.Stored
