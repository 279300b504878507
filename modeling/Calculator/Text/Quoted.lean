import Calculator.Text.Hidden

/-! Texts between double quotes. A quote and a backslash take a backslash before them; tabs, line
ends and the null character have letters; other hidden characters are written as their code
point. -/
namespace Calculator.Text

/-- The code point of `c` in hexadecimal between braces, as in `\u{3000}`. -/
def codePoint (c : Char) : List Char :=
  '\\' :: 'u' :: '\x7b' :: Nat.toDigits 16 c.toNat ++ ['\x7d']

/-- One character of a quoted text. The marks in `marked` take a backslash; so does a backslash. -/
def escape (marked : List Char) (c : Char) : List Char :=
  if c = '\x00' then ['\\', '0']
  else if c = '\t' then ['\\', 't']
  else if c = '\n' then ['\\', 'n']
  else if c = '\r' then ['\\', 'r']
  else if c = '\\' ∨ c ∈ marked then ['\\', c]
  else if isHidden c then codePoint c
  else [c]

def quote (marked : List Char) (cs : List Char) : List Char :=
  '"' :: cs.flatMap (escape marked) ++ ['"']

end Calculator.Text
