import Calculator.Calculation
import Calculator.Text.Quoted

/-! What a calculator reports while it works: one record for each event, and its line of text. -/
namespace Calculator.Journal

inductive Record where
  | evaluated (input : String) (unit : AngleUnit) (outcome : Except CalcError Float)
  /-- A text was not entered because the display would hold more than `limit` characters. -/
  | displayFull (limit : Nat)
  | historyCleared
  | unitChanged (unit : AngleUnit)
  | themeChanged (dark : Bool)
  | memorySet (x : Float)
  | memoryCleared
  | restored (entries : Nat) (unit : AngleUnit)
  | unreadable

def plain (x : Float) : String := String.ofList (Number.plain x)

def outcomeText : Except CalcError Float → String
  | .ok x => s!"= {plain x}"
  | .error e => s!": {e.message}"

/-- A text between double quotes; an apostrophe is left alone. -/
def quoted (s : String) : String := String.ofList (Text.quote ['"'] s.toList)

namespace Record

def text : Record → String
  | .evaluated input unit outcome =>
    s!"DEBUG eval {quoted input} [{unit.label}] {outcomeText outcome}"
  | .displayFull limit => s!"DEBUG saisie ignorée : entrée pleine ({limit})"
  | .historyCleared => "INFO historique effacé"
  | .unitChanged unit => s!"INFO mode d’angle : {unit.label}"
  | .themeChanged dark => if dark then "INFO thème : sombre" else "INFO thème : clair"
  | .memorySet x => s!"INFO mémoire = {plain x}"
  | .memoryCleared => "INFO mémoire effacée"
  | .restored entries unit =>
    s!"INFO état restauré : {entries} entrée(s) d’historique, mode {unit.label}"
  | .unreadable => "WARN état sauvegardé illisible : valeurs par défaut"

end Record

end Calculator.Journal
