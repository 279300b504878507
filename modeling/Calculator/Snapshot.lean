import Calculator.Session
import Calculator.Stored.Value

/-! What survives when a calculator is closed: history, memory, unit and theme. A snapshot is stored
as a text and read back from one; a text that is not readable gives nothing. -/
namespace Calculator

structure Snapshot where
  history : List String := []
  memory : Float := 0.0
  unit : AngleUnit := .degrees
  dark : Bool := false
  deriving DecidableEq

def Session.snapshot (s : Session) : Snapshot :=
  { history := s.history, memory := s.memory, unit := s.unit, dark := s.dark }

/-- A calculator as it starts. A history that is too long is cut, and a memory that is not finite is
lost. -/
def Session.ofSnapshot (p : Snapshot) : Session :=
  { history := p.history.take historyLimit
    memory := if p.memory.isFinite then p.memory else 0.0
    unit := p.unit
    dark := p.dark }

namespace Snapshot

def unitName : AngleUnit → String
  | .degrees => "Degres"
  | .radians => "Radians"

/-- A text between double quotes; quotes and apostrophes take a backslash. -/
def quoted (s : String) : List Char := Text.quote ['"', '\''] s.toList

def historyText (history : List String) : List Char :=
  '[' :: [','].intercalate (history.map quoted) ++ [']']

def text (p : Snapshot) : String :=
  String.ofList <|
    "(historique:".toList ++ historyText p.history ++
      ",memoire:".toList ++ Number.pointed p.memory ++
      ",mode_angle:".toList ++ (unitName p.unit).toList ++
      ",theme_sombre:".toList ++ (toString p.dark).toList ++ [')']

def text? : Stored.Value → Option String
  | .lexeme (.text cs) => some (String.ofList cs)
  | _ => none

def history? : Stored.Value → Option (List String)
  | .list items => items.mapM text?
  | _ => none

def memory? : Stored.Value → Option Float
  | .lexeme (.name cs) | .lexeme (.numeral cs) => Stored.float? cs
  | _ => none

def unit? : Stored.Value → Option AngleUnit
  | .lexeme l =>
    [AngleUnit.degrees, .radians].find? fun unit => Stored.name? l == some (unitName unit).toList
  | _ => none

def dark? : Stored.Value → Option Bool
  | .lexeme l => [true, false].find? fun b => l == .name (toString b).toList
  | _ => none

/-- The name of a field. -/
def key? : Stored.Value → Option String
  | .lexeme l => (Stored.name? l).map String.ofList
  | _ => none

def fieldNames : List String := ["historique", "memoire", "mode_angle", "theme_sombre"]

/-- A snapshot with one more field read. A field of any other name is passed over. -/
def withField (p : Snapshot) (key item : Stored.Value) : Option Snapshot :=
  match key? key with
  | some "historique" => (history? item).map fun history => { p with history }
  | some "memoire" => (memory? item).map fun memory => { p with memory }
  | some "mode_angle" => (unit? item).map fun unit => { p with unit }
  | some "theme_sombre" => (dark? item).map fun dark => { p with dark }
  | _ => some p

/-- The snapshot of a record's fields. A field that is missing has its default; none may be given
twice. -/
def ofFields? (fields : List (Stored.Value × Stored.Value)) : Option Snapshot :=
  let known := (fields.filterMap (key? ·.1)).filter fieldNames.contains
  if known.Nodup then fields.foldlM (fun p field => p.withField field.1 field.2) {} else none

def ofText? (s : String) : Option Snapshot :=
  (Stored.record? "EtatPersistant" s.toList).bind ofFields?

end Snapshot

end Calculator
