import Calculator.Stored.Lexeme
import Calculator.Stored.Items
import Calculator.Stored.Numeral

/-! The values of stored text. Records, tuples and maps inside a record hold nothing that is kept,
so they are read but not told apart. Values inside values are read down to a fixed depth. Each
function gives back the lexemes it has not read, which are fewer than it was given. -/
namespace Calculator.Stored

inductive Value where
  | lexeme (l : Lexeme)
  | list (items : List Value)
  | group

def name? : Lexeme → Option (List Char)
  | .name cs | .rawName cs => some cs
  | _ => none

/-- The names that have a meaning of their own and take nothing in parentheses. -/
def plainNames : List String :=
  ["true", "false", "None", "inf", "inff32", "inff64", "NaN", "NaNf32", "NaNf64"]

/-- Whether a lexeme names the group that follows it in parentheses. -/
def namesGroup (l : Lexeme) : Bool :=
  (name? l).isSome && !plainNames.any fun name => l == .name name.toList

def isLeaf : Lexeme → Bool
  | .mark _ | .opening _ => false
  | .numeral cs => isNumber cs
  | _ => true

def optionName : Lexeme := .name "Some".toList

/-- Whether a record starts here and not a tuple: with a name and a colon. -/
def startsField : List Lexeme → Bool
  | l :: .mark ':' :: _ => (name? l).isSome
  | _ => false

abbrev Reading (α : Type) (lexemes : List Lexeme) :=
  Option (α × { rest : List Lexeme // rest.length < lexemes.length })

/-- Goes past the mark that ends the items of a list, with the comma that may stand before it, or
past the comma before a further item. The flag says whether the list has ended. -/
def separator? (closing : Char) (lexemes : List Lexeme) : Reading Bool lexemes :=
  match lexemes with
  | .mark c :: rest =>
    if c = closing then some (true, ⟨rest, Nat.lt_succ_self _⟩)
    else if c = ',' then
      match rest with
      | .mark c' :: rest' =>
        if c' = closing then some (true, ⟨rest', Nat.lt_succ_of_lt (Nat.lt_succ_self _)⟩)
        else some (false, ⟨.mark c' :: rest', Nat.lt_succ_self _⟩)
      | rest => some (false, ⟨rest, Nat.lt_succ_self _⟩)
    else none
  | _ => none

def mark? (c : Char) (lexemes : List Lexeme) : Reading Unit lexemes :=
  match lexemes with
  | .mark c' :: rest => if c' = c then some ((), ⟨rest, Nat.lt_succ_self _⟩) else none
  | _ => none

def fieldName? (lexemes : List Lexeme) : Reading Value lexemes :=
  match lexemes with
  | [] => none
  | l :: rest =>
    if (name? l).isSome then some (.lexeme l, ⟨rest, Nat.lt_succ_self _⟩) else none

/-- Whether what opening parentheses have begun, as text and as lexemes, is a record or a tuple of
more than one item, and not a single value. -/
def isGroup? (after : List Char) (lexemes : List Lexeme) : Option Bool :=
  if startsField lexemes then some true else hasFurtherItem? 0 after

structure Dialect where
  namedRecord : Bool
  /-- The value after `Some` may stand without parentheses. -/
  bareOption : Bool
  /-- The record or tuple after `Some` may stand without parentheses of its own. -/
  unwrappedOption : Bool

/-- How many levels may stand inside one another. A list, record or map is one level and an item in
it another. -/
def depthLimit : Nat := 128

mutual

def value? (dialect : Dialect) (depth : Nat) (lexemes : List Lexeme) : Reading Value lexemes :=
  match lexemes with
  | [] => none
  | .mark '[' :: rest =>
    match depth with
    | 0 => none
    | depth + 1 =>
      match items? dialect depth ']' rest with
      | none => none
      | some (items, ⟨rest', shorter⟩) => some (.list items, ⟨rest', Nat.lt_succ_of_lt shorter⟩)
  | .mark '\x7b' :: rest =>
    match depth with
    | 0 => none
    | depth + 1 =>
      match entries? dialect depth false '\x7d' rest with
      | none => none
      | some (_, ⟨rest', shorter⟩) => some (.group, ⟨rest', Nat.lt_succ_of_lt shorter⟩)
  | .opening _ :: rest =>
    match group? dialect depth rest with
    | none => none
    | some (_, ⟨rest', shorter⟩) => some (.group, ⟨rest', Nat.lt_succ_of_lt shorter⟩)
  | l :: rest =>
    if l = optionName then
      match option? dialect depth rest with
      | none => none
      | some (_, ⟨rest', shorter⟩) => some (.group, ⟨rest', Nat.lt_succ_of_lt shorter⟩)
    else if namesGroup l then
      match rest with
      | .opening _ :: rest' =>
        match group? dialect depth rest' with
        | none => none
        | some (_, ⟨rest'', shorter⟩) =>
          some (.group, ⟨rest'', Nat.lt_succ_of_lt (Nat.lt_succ_of_lt shorter)⟩)
      | .unit :: rest' =>
        if depth = 0 then none
        else some (.group, ⟨rest', Nat.lt_succ_of_lt (Nat.lt_succ_self _)⟩)
      | rest => some (.lexeme l, ⟨rest, Nat.lt_succ_self _⟩)
    else if isLeaf l then some (.lexeme l, ⟨rest, Nat.lt_succ_self _⟩)
    else none
termination_by 4 * lexemes.length

/-- Reads what follows `Some`. Where a tuple needs no parentheses of its own, empty ones hold the
empty tuple. -/
def option? (dialect : Dialect) (depth : Nat) (lexemes : List Lexeme) : Reading Unit lexemes :=
  match depth with
  | 0 => none
  | depth + 1 =>
    match lexemes with
    | .unit :: rest =>
      if dialect.unwrappedOption then some ((), ⟨rest, Nat.lt_succ_self _⟩) else none
    | .opening after :: rest =>
      match mark? ')' rest with
      | some (_, ⟨rest', shorter⟩) =>
        if dialect.unwrappedOption then some ((), ⟨rest', Nat.lt_succ_of_lt shorter⟩) else none
      | none =>
        match if dialect.unwrappedOption then isGroup? after rest else some false with
        | none => none
        | some true =>
          match group? dialect depth rest with
          | none => none
          | some (_, ⟨rest', shorter⟩) => some ((), ⟨rest', Nat.lt_succ_of_lt shorter⟩)
        | some false =>
          match value? dialect depth rest with
          | none => none
          | some (_, ⟨rest', shorter⟩) =>
            match separator? ')' rest' with
            | some (true, ⟨rest'', shorter'⟩) =>
              some ((), ⟨rest'', Nat.lt_succ_of_lt (Nat.lt_trans shorter' shorter)⟩)
            | _ => none
    | lexemes =>
      if dialect.bareOption then
        match value? dialect depth lexemes with
        | none => none
        | some (_, rest) => some ((), rest)
      else none
termination_by 4 * lexemes.length + 3

def group? (dialect : Dialect) (depth : Nat) (lexemes : List Lexeme) : Reading Unit lexemes :=
  match depth with
  | 0 => none
  | depth + 1 =>
    if startsField lexemes then
      match entries? dialect depth true ')' lexemes with
      | none => none
      | some (_, rest) => some ((), rest)
    else
      match items? dialect depth ')' lexemes with
      | none => none
      | some (_, rest) => some ((), rest)
termination_by 4 * lexemes.length + 3

def items? (dialect : Dialect) (depth : Nat) (closing : Char) (lexemes : List Lexeme) :
    Reading (List Value) lexemes :=
  match mark? closing lexemes with
  | some (_, rest) => some ([], rest)
  | none => moreItems? dialect depth closing lexemes
termination_by 4 * lexemes.length + 2

def moreItems? (dialect : Dialect) (depth : Nat) (closing : Char) (lexemes : List Lexeme) :
    Reading (List Value) lexemes :=
  match depth with
  | 0 => none
  | depth + 1 =>
    match value? dialect depth lexemes with
    | none => none
    | some (item, ⟨rest, shorter⟩) =>
      match separator? closing rest with
      | none => none
      | some (true, ⟨rest', shorter'⟩) => some ([item], ⟨rest', Nat.lt_trans shorter' shorter⟩)
      | some (false, ⟨rest', shorter'⟩) =>
        match moreItems? dialect (depth + 1) closing rest' with
        | none => none
        | some (items, ⟨rest'', shorter''⟩) =>
          some (item :: items, ⟨rest'', Nat.lt_trans shorter'' (Nat.lt_trans shorter' shorter)⟩)
termination_by 4 * lexemes.length + 1

/-- Reads the pairs of a record (`named`) or map up to its closing mark. -/
def entries? (dialect : Dialect) (depth : Nat) (named : Bool) (closing : Char)
    (lexemes : List Lexeme) :
    Reading (List (Value × Value)) lexemes :=
  match mark? closing lexemes with
  | some (_, rest) => some ([], rest)
  | none => moreEntries? dialect depth named closing lexemes
termination_by 4 * lexemes.length + 2

def moreEntries? (dialect : Dialect) (depth : Nat) (named : Bool) (closing : Char)
    (lexemes : List Lexeme) :
    Reading (List (Value × Value)) lexemes :=
  match depth with
  | 0 => none
  | depth + 1 =>
    match if named then fieldName? lexemes else value? dialect depth lexemes with
    | none => none
    | some (key, ⟨rest, shorter⟩) =>
      match mark? ':' rest with
      | none => none
      | some (_, ⟨rest', shorter'⟩) =>
        match value? dialect depth rest' with
        | none => none
        | some (item, ⟨rest₃, shorter₃⟩) =>
          match separator? closing rest₃ with
          | none => none
          | some (true, ⟨rest₄, shorter₄⟩) =>
            some ([(key, item)], ⟨rest₄, by omega⟩)
          | some (false, ⟨rest₄, shorter₄⟩) =>
            match moreEntries? dialect (depth + 1) named closing rest₄ with
            | none => none
            | some (entries, ⟨rest₅, shorter₅⟩) => some ((key, item) :: entries, ⟨rest₅, by omega⟩)
termination_by 4 * lexemes.length + 1

end

def features : List String :=
  ["unwrap_newtypes", "implicit_some", "unwrap_variant_newtypes", "explicit_struct_names"]

def Dialect.ofFeatures (names : List String) : Dialect :=
  { namedRecord := names.contains "explicit_struct_names"
    bareOption := names.contains "implicit_some"
    unwrappedOption := names.contains "unwrap_variant_newtypes" }

def feature? (l : Lexeme) : Option String :=
  features.find? fun feature => name? l == some feature.toList

def featureNames? (lexemes : List Lexeme) : Reading (List String) lexemes :=
  match lexemes with
  | [] => none
  | l :: rest =>
    match feature? l, separator? ')' rest with
    | some feature, some (true, ⟨rest', shorter⟩) =>
      some ([feature], ⟨rest', Nat.lt_succ_of_lt shorter⟩)
    | some feature, some (false, ⟨rest', shorter⟩) =>
      match featureNames? rest' with
      | none => none
      | some (names, ⟨rest'', shorter'⟩) =>
        some (feature :: names, ⟨rest'', Nat.lt_succ_of_lt (Nat.lt_trans shorter' shorter)⟩)
    | _, _ => none
termination_by lexemes.length
decreasing_by simp only [List.length_cons]; omega

def header? (lexemes : List Lexeme) : Option (List String × List Lexeme) :=
  match lexemes with
  | .mark '#' :: .mark '!' :: .mark '[' :: .name name :: .opening _ :: rest =>
    match featureNames? rest with
    | none => none
    | some (names, ⟨rest', _shorter⟩) =>
      match mark? ']' rest' with
      | none => none
      | some (_, ⟨rest'', _shorter'⟩) =>
        if name = "enable".toList then
          (header? rest'').map fun (more, after) => (names ++ more, after)
        else none
  | .mark '#' :: _ => none
  | lexemes => some ([], lexemes)
termination_by lexemes.length
decreasing_by simp only [List.length_cons]; omega

def opened? : List Lexeme → Option (List Lexeme)
  | .opening _ :: rest => some rest
  | .unit :: rest => some (.mark ')' :: rest)
  | _ => none

/-- Goes past the name of a record, which may be left out unless it is `required`, and its opening
parenthesis. -/
def recordStart? (name : String) (required : Bool) (lexemes : List Lexeme) :
    Option (List Lexeme) :=
  match lexemes with
  | [] => none
  | l :: rest =>
    if name? l = some name.toList then opened? rest
    else if required then none
    else opened? lexemes

def record? (name : String) (text : List Char) : Option (List (Value × Value)) := do
  let lexemes ← lexemes? text
  let (names, rest) ← header? lexemes
  let dialect := Dialect.ofFeatures names
  let fields ← recordStart? name dialect.namedRecord rest
  match entries? dialect (depthLimit - 1) true ')' fields with
  | some (entries, ⟨[], _⟩) => some entries
  | _ => none

end Calculator.Stored
