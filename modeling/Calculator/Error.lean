import Calculator.Token

/-! Why a text has no value: the causes, stage by stage, and their messages. -/
namespace Calculator

/-- Why a text is no list of tokens. Positions count characters from zero. -/
inductive LexError where
  | unexpectedCharacter (c : Char) (position : Nat)
  /-- The word is given in small letters. -/
  | unknownWord (word : List Char) (position : Nat)
  deriving DecidableEq

inductive Expected where
  | operand
  | closing
  | openingAfter (f : Function)
  | argumentOf (f : Function)
  deriving DecidableEq

inductive SyntaxError where
  | empty
  | expected (what : Expected) (found : Token)
  | unmatched
  | trailing (t : Token)
  deriving DecidableEq

/-- What a number must not be at a place of an evaluation. -/
inductive DomainFault where
  | literal
  | overflow
  | power
  | root
  | logarithm (f : Function)
  | logarithmValue
  | trigonometry
  | undefined (f : Trig) (x : Float)
  | result
  deriving DecidableEq

inductive EvalError where
  | divisionByZero
  | domain (fault : DomainFault)
  deriving DecidableEq

inductive CalcError where
  | lexical (e : LexError)
  | syntactic (e : SyntaxError)
  | evaluation (e : EvalError)
  deriving DecidableEq

namespace LexError

def message : LexError → String
  | .unexpectedCharacter c position => s!"caractère inattendu '{c}' en position {position}"
  | .unknownWord word position =>
    s!"identifiant inconnu '{String.ofList word}' en position {position}"

/-- The same error in a text with `n` more characters in front. -/
def shift (n : Nat) : LexError → LexError
  | .unexpectedCharacter c position => .unexpectedCharacter c (position + n)
  | .unknownWord word position => .unknownWord word (position + n)

end LexError

def Expected.text : Expected → String
  | .operand => "opérande"
  | .closing => "')'"
  | .openingAfter f => s!"'(' après {f.name}"
  | .argumentOf f => s!"argument de {f.name}"

def SyntaxError.message : SyntaxError → String
  | .empty => "expression vide"
  | .expected what found => s!"{what.text} attendu, trouvé {String.ofList found.text}"
  | .unmatched => "parenthèses non appariées"
  | .trailing t => s!"jeton inattendu après l’expression : {String.ofList t.text}"

def DomainFault.detail : DomainFault → String
  | .literal => "nombre hors plage"
  | .overflow => "dépassement"
  | .power => "puissance non définie"
  | .root => "racine carrée d’un nombre négatif"
  | .logarithm f => s!"{f.name} d’un nombre négatif ou nul"
  | .logarithmValue => "logarithme non défini"
  | .trigonometry => "trigonométrie non définie"
  | .undefined f x => s!"{f.name}({String.ofList (Number.plain x)}) indéfini"
  | .result => "résultat non fini"

def EvalError.message : EvalError → String
  | .divisionByZero => "division par zéro"
  | .domain fault => s!"hors domaine : {fault.detail}"

def CalcError.message : CalcError → String
  | .lexical e => e.message
  | .syntactic e => e.message
  | .evaluation e => e.message

end Calculator
