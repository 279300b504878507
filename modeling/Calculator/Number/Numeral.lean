import Calculator.Number.Binary

/-! Written numbers: digits with at most one point, then an optional exponent. `Numeral.read?` is
the grammar of a whole text, `Numeral.split` cuts the longest numeral off the front of one, and
`Numeral.value` is the correctly rounded floating-point number. -/
namespace Calculator.Number

/-- The value `digits · 10 ^ exponent`. -/
structure Numeral where
  digits : Nat
  exponent : Int
  deriving DecidableEq, Repr

def isExponentMark (c : Char) : Bool := c == 'e' || c == 'E'

def isSign (c : Char) : Bool := c == '+' || c == '-'

def natural? (cs : List Char) : Option Nat :=
  if cs.isEmpty || !cs.all Char.isDigit then none else some (Nat.ofDigitChars 10 cs 0)

def signed? : List Char → Option Int
  | '-' :: cs => (natural? cs).map fun n => -(n : Int)
  | '+' :: cs => (natural? cs).map Int.ofNat
  | cs => (natural? cs).map Int.ofNat

namespace Numeral

def exponent? : List Char → Option Int
  | [] => some 0
  | c :: cs => if isExponentMark c then signed? cs else none

def splitFraction : List Char → List Char × List Char
  | '.' :: cs => (cs.takeWhile Char.isDigit, cs.dropWhile Char.isDigit)
  | cs => ([], cs)

/-- A numeral is digits with an optional point and at least one digit, and an optional exponent. -/
def read? (cs : List Char) : Option Numeral :=
  let whole := cs.takeWhile Char.isDigit
  let (fraction, rest) := splitFraction (cs.dropWhile Char.isDigit)
  if (whole ++ fraction).isEmpty then none
  else
    (exponent? rest).map fun e =>
      ⟨Nat.ofDigitChars 10 (whole ++ fraction) 0, e - fraction.length⟩

/-- The nearest floating-point number. Powers of ten far outside its range are not computed: the
result there is infinite, or zero. -/
def value (n : Numeral) : Float :=
  let magnitude := (Nat.toDigits 10 n.digits).length + n.exponent
  if n.digits = 0 ∨ magnitude < -400 then Float.ofBits 0
  else if 400 < magnitude then infinity
  else nearest (n.digits * Nat.pow 10 n.exponent.toNat) (Nat.pow 10 (-n.exponent).toNat)

/-- A numeral starts with a digit, or with a point before a digit. -/
def starts : List Char → Bool
  | '.' :: c :: _ => c.isDigit
  | c :: _ => c.isDigit
  | [] => false

def splitSign : List Char → List Char × List Char
  | c :: cs => if isSign c then ([c], cs) else ([], c :: cs)
  | [] => ([], [])

/-- An exponent at the front of a text, if it is complete: without a digit, the mark and the sign
are not part of the numeral. -/
def splitExponent : List Char → List Char × List Char
  | [] => ([], [])
  | c :: cs =>
    let (sign, rest) := splitSign cs
    let digits := rest.takeWhile Char.isDigit
    if isExponentMark c && !digits.isEmpty then (c :: sign ++ digits, rest.dropWhile Char.isDigit)
    else ([], c :: cs)

def splitDigits (cs : List Char) : List Char × List Char :=
  let whole := cs.takeWhile Char.isDigit
  match cs.dropWhile Char.isDigit with
  | '.' :: rest => (whole ++ '.' :: rest.takeWhile Char.isDigit, rest.dropWhile Char.isDigit)
  | rest => (whole, rest)

/-- The longest numeral at the front of a text that starts with one, and the rest. -/
def split (cs : List Char) : List Char × List Char :=
  let (digits, rest) := splitDigits cs
  let (exponent, rest) := splitExponent rest
  (digits ++ exponent, rest)

theorem splitSign_append (cs : List Char) : (splitSign cs).1 ++ (splitSign cs).2 = cs := by
  unfold splitSign; split
  · split <;> simp
  · rfl

theorem splitExponent_append (cs : List Char) :
    (splitExponent cs).1 ++ (splitExponent cs).2 = cs := by
  unfold splitExponent
  split
  · rfl
  · rename_i c cs
    dsimp only
    split
    · simp only [List.cons_append, List.append_assoc, List.takeWhile_append_dropWhile,
        splitSign_append]
    · rfl

theorem splitDigits_append (cs : List Char) :
    (splitDigits cs).1 ++ (splitDigits cs).2 = cs := by
  unfold splitDigits
  dsimp only
  split
  · rename_i rest h
    have := List.takeWhile_append_dropWhile (p := Char.isDigit) (l := cs)
    rw [h] at this
    simpa [List.takeWhile_append_dropWhile] using this
  · exact List.takeWhile_append_dropWhile

theorem split_append (cs : List Char) : (split cs).1 ++ (split cs).2 = cs := by
  simp only [split, List.append_assoc, splitExponent_append, splitDigits_append]

theorem split_fst_ne_nil {cs : List Char} (h : starts cs) : (split cs).1 ≠ [] := by
  have digits : (splitDigits cs).1 ≠ [] := by
    unfold splitDigits
    dsimp only
    split
    · simp
    · rename_i rest hrest
      rcases cs with _ | ⟨c, cs⟩
      · simp [starts] at h
      · by_cases hc : c.isDigit
        · simp [hc]
        · have dot : c = '.' := by
            unfold starts at h; split at h <;> simp_all
          subst dot
          exact absurd (show List.dropWhile Char.isDigit ('.' :: cs) = '.' :: cs from rfl)
            (hrest cs)
  simp [split, digits]

theorem length_split_snd_lt {cs : List Char} (h : starts cs) : (split cs).2.length < cs.length := by
  have whole := congrArg List.length (split_append cs)
  have := List.length_pos_iff.2 (split_fst_ne_nil h)
  simp only [List.length_append] at whole
  omega

end Numeral

def infinityNames : List (List Char) := ["inf".toList, "infinity".toList]

/-- A number without its sign: a numeral, or a name of a number that is not finite. -/
def unsigned? (cs : List Char) : Option Float :=
  let name := cs.map Char.toLower
  if infinityNames.contains name then some infinity
  else if name = "nan".toList then some notANumber
  else (Numeral.read? cs).map Numeral.value

/-- A whole text as a number, with an optional sign. -/
def read? : List Char → Option Float
  | '-' :: cs => (unsigned? cs).map (- ·)
  | '+' :: cs => unsigned? cs
  | cs => unsigned? cs

end Calculator.Number
