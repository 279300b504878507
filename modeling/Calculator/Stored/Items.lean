import Calculator.Stored.Blank

/-! Whether more than one item stands between parentheses. This is told without reading the items:
characters and texts are passed over, and what stands outside them opens, closes or separates. -/
namespace Calculator.Stored

/-- Whether a text whose opening quote has been read is not closed. An escape is looked at only if a
quote comes after it; `skip` characters belong to the escape before. -/
def isUnclosed (escape? : List Char → Option (List Char)) : Nat → List Char → Bool
  | _, [] => true
  | skip + 1, _ :: cs => isUnclosed escape? skip cs
  | 0, '"' :: _ => false
  | 0, '\\' :: cs =>
    match escape? cs with
    | none => !cs.contains '"'
    | some rest => isUnclosed escape? (cs.length - rest.length) cs
  | 0, _ :: cs => isUnclosed escape? 0 cs

def skipCharacter : List Char → List Char
  | '\'' :: cs => (character? cs).getD ('\'' :: cs)
  | cs => cs

/-- Goes past a text without escapes in front, its letters being read. If there is none, nothing is
passed over; one that is not closed is an error. -/
def skipRaw? (start cs : List Char) : Option (List Char) :=
  match rawQuoted? cs with
  | some (_, rest) => some rest
  | none => if (cs.dropWhile (· == '#')).head? = some '"' then none else some start

def skipText? : List Char → Option (List Char)
  | '"' :: cs =>
    match quoted? cs with
    | some (_, rest) => some rest
    | none => if isUnclosed (fun cs => (escape? cs).map (·.2)) 0 cs then none else some ('"' :: cs)
  | 'r' :: cs => skipRaw? ('r' :: cs) cs
  | cs => some cs

def skipBytes? : List Char → Option (List Char)
  | 'b' :: '"' :: cs =>
    match byteString? cs with
    | some rest => some rest
    | none => if isUnclosed byteEscape? 0 cs then none else some ('b' :: '"' :: cs)
  | 'b' :: 'r' :: cs => skipRaw? ('b' :: 'r' :: cs) cs
  | cs => some cs

/-- Goes past blanks, and past a character, a text and a string of bytes that follow one another. -/
def skipQuoted? (cs : List Char) : Option (List Char) :=
  (((skipBlanks? cs).map skipCharacter).bind skipText?).bind skipBytes?

theorem length_skipCharacter (cs : List Char) : (skipCharacter cs).length ≤ cs.length := by
  unfold skipCharacter
  split
  · rename_i cs
    match h : character? cs with
    | none => simp
    | some rest => exact Nat.le_succ_of_le (Nat.le_of_lt (length_character? h))
  · exact Nat.le_refl _

theorem length_skipRaw? {start cs rest : List Char} (h : skipRaw? start cs = some rest)
    (le : cs.length ≤ start.length) : rest.length ≤ start.length := by
  unfold skipRaw? at h
  split at h
  · rename_i hr
    obtain rfl := Option.some.inj h
    exact Nat.le_trans (Nat.le_of_lt (length_rawQuoted? hr)) le
  · split at h <;> simp_all

theorem length_skipText? {cs rest : List Char} (h : skipText? cs = some rest) :
    rest.length ≤ cs.length := by
  unfold skipText? at h
  split at h
  · split at h
    · rename_i hq
      obtain rfl := Option.some.inj h
      exact Nat.le_succ_of_le (Nat.le_of_lt (length_quoted? hq))
    · split at h <;> simp_all
  · exact length_skipRaw? h (Nat.le_succ _)
  · simp_all

theorem length_skipBytes? {cs rest : List Char} (h : skipBytes? cs = some rest) :
    rest.length ≤ cs.length := by
  unfold skipBytes? at h
  split at h
  · split at h
    · rename_i hb
      obtain rfl := Option.some.inj h
      exact Nat.le_succ_of_le (Nat.le_succ_of_le (Nat.le_of_lt (length_byteString? hb)))
    · split at h <;> simp_all
  · exact length_skipRaw? h (Nat.le_succ_of_le (Nat.le_succ _))
  · simp_all

theorem length_skipQuoted? {cs rest : List Char} (h : skipQuoted? cs = some rest) :
    rest.length ≤ cs.length := by
  simp only [skipQuoted?, Option.bind_eq_some_iff, Option.map_eq_some_iff] at h
  obtain ⟨text, ⟨_, ⟨blank, hb, rfl⟩, ht⟩, h⟩ := h
  exact Nat.le_trans (length_skipBytes? h) <| Nat.le_trans (length_skipText? ht) <|
    Nat.le_trans (length_skipCharacter blank) (length_skipBlanks? hb)

def isOpening (c : Char) : Bool := "([\x7b".toList.contains c

def isClosing (c : Char) : Bool := ")]\x7d".toList.contains c

/-- Whether a further item follows after a comma, in a text whose opening parenthesis has been read;
`inside` others have been opened. A comma before the closing parenthesis separates nothing. -/
def hasFurtherItem? (inside : Nat) (cs : List Char) : Option Bool :=
  match _skip : skipQuoted? cs with
  | none | some [] => none
  | some (c :: rest) =>
    if isOpening c then hasFurtherItem? (inside + 1) rest
    else if isClosing c then
      match inside with
      | 0 => some false
      | inside + 1 => hasFurtherItem? inside rest
    else if c = ',' ∧ inside = 0 then (skipBlanks? rest).map (·.head? != some ')')
    else hasFurtherItem? inside rest
termination_by cs.length
decreasing_by all_goals exact length_skipQuoted? _skip

end Calculator.Stored
