import Calculator.Error
import Calculator.Number.Numeral
import Calculator.Text.Blank

/-! From a text to its tokens. White space separates; a number is the longest numeral at its place;
a word is a run of ASCII letters and must be in the vocabulary, whatever the case of its letters.
-/
namespace Calculator.Token

/-- The number that a numeral stands for. -/
def numberOf (lexeme : List Char) : Float :=
  match Number.Numeral.read? lexeme with
  | some numeral => numeral.value
  | none => Number.notANumber

def wordOf? (letters : List Char) : Option Word := Word.ofName? (String.ofList letters)

theorem length_dropWhile_lt {p : Char → Bool} {c : Char} (cs : List Char) (h : p c) :
    ((c :: cs).dropWhile p).length < (c :: cs).length := by
  have := (List.dropWhile_sublist p (l := cs)).length_le
  simp only [List.dropWhile_cons, h, if_true, List.length_cons]
  omega

/-- The tokens of a text whose first character has the given position, and a stop mark. -/
def scanFrom (position : Nat) (cs : List Char) : Except LexError (List Token) :=
  match cs with
  | [] => .ok [.stop]
  | c :: rest =>
    if Text.isBlank c then scanFrom (position + 1) rest
    else
      match ofSymbol? c with
      | some token => (scanFrom (position + 1) rest).map (token :: ·)
      | none =>
        if _starts : Number.Numeral.starts (c :: rest) then
          let lexeme := (Number.Numeral.split (c :: rest)).1
          (scanFrom (position + lexeme.length) (Number.Numeral.split (c :: rest)).2).map
            (.number (numberOf lexeme) :: ·)
        else if _letter : c.isAlpha then
          let letters := (c :: rest).takeWhile Char.isAlpha
          match wordOf? (letters.map Char.toLower) with
          | some w =>
            (scanFrom (position + letters.length) ((c :: rest).dropWhile Char.isAlpha)).map
              (.word w :: ·)
          | none => .error (.unknownWord (letters.map Char.toLower) position)
        else .error (.unexpectedCharacter c position)
termination_by cs.length
decreasing_by
  · simp
  · simp
  · exact Number.Numeral.length_split_snd_lt _starts
  · exact length_dropWhile_lt rest _letter

def scan (s : String) : Except LexError (List Token) := scanFrom 0 s.toList

end Calculator.Token
