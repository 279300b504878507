import Calculator.Number.Numeral
import Calculator.Text.Ranges

/-! The numbers of stored text, floating-point numbers and integers. Digits may be grouped by
underscores, and a number may end with the name of its type. -/
namespace Calculator.Stored

def namedFloats : List (String × Float) :=
  [("inf", Number.infinity), ("+inf", Number.infinity), ("-inf", -Number.infinity),
    ("NaN", Number.notANumber), ("+NaN", Number.notANumber), ("-NaN", Number.notANumber)]

def isFloatCharacter (c : Char) : Bool :=
  c.isDigit || Number.isExponentMark c || Number.isSign c || c == '.' || c == '_'

/-- Whether every underscore stands after a digit or an exponent mark, with underscores and signs in
between at most; `allowed` says whether one may come next. -/
def groupsDigits (allowed : Bool) : List Char → Bool
  | [] => true
  | '_' :: cs => allowed && groupsDigits allowed cs
  | c :: cs =>
    if Number.isSign c then groupsDigits allowed cs
    else groupsDigits (c.isDigit || Number.isExponentMark c) cs

/-- A numeral without the name of a type at its end. -/
def withoutType (type : String) (cs : List Char) : List Char :=
  if type.toList.isSuffixOf cs then cs.take (cs.length - type.length) else cs

def untypedFloat? (cs : List Char) : Option Float :=
  match namedFloats.lookup (String.ofList cs) with
  | some x => some x
  | none =>
    if cs.all isFloatCharacter && groupsDigits false cs then
      Number.read? (cs.filter (· != '_'))
    else none

/-- A numeral as a number of the type `f64`, whether or not it is named. -/
def float? (cs : List Char) : Option Float := untypedFloat? (withoutType "f64" cs)

def isFloat (cs : List Char) : Bool :=
  (float? cs).isSome || (untypedFloat? (withoutType "f32" cs)).isSome

structure IntegerType where
  name : String
  signed : Bool
  width : Nat

def integerTypes : List IntegerType :=
  [8, 16, 32, 64, 128].flatMap fun width =>
    [⟨s!"i{width}", true, width⟩, ⟨s!"u{width}", false, width⟩]

def IntegerType.holds (t : IntegerType) (negative : Bool) (magnitude : Nat) : Bool :=
  match t.signed, negative with
  | true, true => magnitude ≤ Nat.pow 2 (t.width - 1)
  | true, false => magnitude < Nat.pow 2 (t.width - 1)
  | false, true => magnitude == 0
  | false, false => magnitude < Nat.pow 2 t.width

def splitBase : List Char → Nat × List Char
  | '0' :: 'x' :: cs => (16, cs)
  | '0' :: 'o' :: cs => (8, cs)
  | '0' :: 'b' :: cs => (2, cs)
  | cs => (10, cs)

def isIntegerDigit (c : Char) : Bool := (Text.hexValue? c).isSome || c == '_'

/-- The value of digits in a base; underscores are skipped, but not at the front. -/
def digitsIn? (base : Nat) (cs : List Char) : Option Nat :=
  match cs with
  | [] | '_' :: _ => none
  | _ => do
    let digits ← (cs.filter (· != '_')).mapM Text.hexValue?
    if digits.all (· < base) then some (digits.foldl (base * · + ·) 0) else none

def magnitude? (cs : List Char) : Option Nat :=
  let (base, digits) := splitBase cs
  digitsIn? base digits

/-- An integer has an optional sign, a magnitude and an optional type that must hold it. Without a
type it fits in 128 bits. A type is not looked for after the `x` or `o` of a base. -/
def isInteger (cs : List Char) : Bool :=
  let (sign, cs) := Number.Numeral.splitSign cs
  let negative := sign == ['-']
  let type := cs.dropWhile isIntegerDigit
  match integerTypes.find? fun t => type == t.name.toList with
  | some t => (magnitude? (cs.takeWhile isIntegerDigit)).any (t.holds negative)
  | none =>
    (magnitude? cs).any fun magnitude =>
      integerTypes.any fun t => t.width == 128 && t.holds negative magnitude

def isNumber (cs : List Char) : Bool := isFloat cs || isInteger cs

end Calculator.Stored
