import Calculator.Journal

/-! The state of a calculator and what its keys do to it. `apply` is the new state after an action,
`records` what is reported of it; both are functions of the state before. -/
namespace Calculator

inductive Fault where
  | calculation (e : CalcError)
  | storingMemory
  | changingMemory
  deriving DecidableEq

def Fault.message : Fault → String
  | .calculation e => e.message
  | .storingMemory => "valeur invalide pour la mémoire"
  | .changingMemory => "valeur invalide pour l’opération mémoire"

inductive Action where
  | enter (text : String)
  | clear
  | clearAll
  | erase
  | evaluate
  | setUnit (unit : AngleUnit)
  | toggleTheme
  | storeMemory
  | recallMemory
  | clearMemory
  | addToMemory
  | subtractFromMemory
  deriving DecidableEq

structure Session where
  display : String := "0"
  error : Option Fault := none
  /-- The newest entry comes first. -/
  history : List String := []
  memory : Float := 0.0
  unit : AngleUnit := .degrees
  dark : Bool := false
  /-- The working of the last successful evaluation. -/
  working : Working := {}
  deriving DecidableEq

/-- The characters that a keyboard enters. -/
def isExpressionCharacter (c : Char) : Bool := c.isAlphanum || "+-*/^().".toList.contains c

namespace Session

def restingDisplay : String := "0"

/-- The greatest number of characters on the display. -/
def displayLimit : Nat := 256

def historyLimit : Nat := 10

/-- The first characters of a text, as many as the display holds. -/
def fit (text : String) : String := String.ofList (text.toList.take displayLimit)

/-- Whether an entered text replaces the display: after an error, and at rest. A point goes on from
the zero at rest. -/
def replaces (s : Session) (text : String) : Bool :=
  s.error.isSome || (s.display == restingDisplay && text != ".")

def refuses (s : Session) (text : String) : Bool :=
  !s.replaces text && displayLimit < s.display.length + text.length

def enter (s : Session) (text : String) : Session :=
  if s.replaces text then { s with display := fit text, error := none }
  else if s.refuses text then s
  else { s with display := s.display ++ text }

def clear (s : Session) : Session := { s with display := restingDisplay, error := none }

def clearAll (s : Session) : Session := { s.clear with history := [] }

/-- Takes the last character off the display; the only one becomes a zero. -/
def erase (s : Session) : Session :=
  { s with
    display :=
      if s.display.length ≤ 1 then restingDisplay else String.ofList s.display.toList.dropLast }

def outcome (lib : Elementary) (s : Session) : Except CalcError Float :=
  Calculation.evaluate lib s.unit s.display

def shown (lib : Elementary) (x : Float) : String := String.ofList (Display.text lib x)

def entry (display result : String) : String := s!"{display} = {result}"

def succeed (lib : Elementary) (s : Session) (x : Float) : Session :=
  { s with
    display := shown lib x
    error := none
    history := (entry s.display (shown lib x) :: s.history).take historyLimit
    working := (Working.of s.display).toOption.getD {} }

def fail (s : Session) (fault : Fault) : Session := { s with error := some fault }

def evaluate (lib : Elementary) (s : Session) : Session :=
  match s.outcome lib with
  | .ok x => s.succeed lib x
  | .error e => s.fail (.calculation e)

/-- The finite number on the display, if it is one; no expression is evaluated. -/
def number? (s : Session) : Option Float :=
  (Number.read? (Text.trim s.display.toList)).filter (·.isFinite)

def combined? (s : Session) (op : Float → Float → Float) : Option Float :=
  (s.number?.map (op s.memory)).filter (·.isFinite)

/-- The memory takes the new value, if there is one. -/
def remember (s : Session) (fault : Fault) : Option Float → Session
  | some x => { s with memory := x }
  | none => s.fail fault

def recallMemory (lib : Elementary) (s : Session) : Session :=
  { s with display := shown lib s.memory, error := none }

def apply (lib : Elementary) (s : Session) : Action → Session
  | .enter text => s.enter text
  | .clear => s.clear
  | .clearAll => s.clearAll
  | .erase => s.erase
  | .evaluate => s.evaluate lib
  | .setUnit unit => { s with unit }
  | .toggleTheme => { s with dark := !s.dark }
  | .storeMemory => s.remember .storingMemory s.number?
  | .recallMemory => s.recallMemory lib
  | .clearMemory => { s with memory := 0.0 }
  | .addToMemory => s.remember .changingMemory (s.combined? (· + ·))
  | .subtractFromMemory => s.remember .changingMemory (s.combined? (· - ·))

def run (lib : Elementary) (s : Session) (actions : List Action) : Session :=
  actions.foldl (apply lib) s

/-- What is reported of an action in the state before it. -/
def records (lib : Elementary) (s : Session) : Action → List Journal.Record
  | .enter text => if s.refuses text then [.displayFull displayLimit] else []
  | .clearAll => if s.history.isEmpty then [] else [.historyCleared]
  | .evaluate => [.evaluated s.display s.unit (s.outcome lib)]
  | .setUnit unit => if s.unit = unit then [] else [.unitChanged unit]
  | .toggleTheme => [.themeChanged !s.dark]
  | .storeMemory => s.number?.toList.map .memorySet
  | .clearMemory => [.memoryCleared]
  | .addToMemory => (s.combined? (· + ·)).toList.map .memorySet
  | .subtractFromMemory => (s.combined? (· - ·)).toList.map .memorySet
  | .clear | .erase | .recallMemory => []

def runRecords (lib : Elementary) (s : Session) : List Action → List Journal.Record
  | [] => []
  | action :: actions => s.records lib action ++ (s.apply lib action).runRecords lib actions

@[simp] theorem run_nil (lib : Elementary) (s : Session) : s.run lib [] = s := rfl

@[simp] theorem run_cons (lib : Elementary) (s : Session) (action : Action)
    (actions : List Action) :
    s.run lib (action :: actions) = (s.apply lib action).run lib actions := rfl

theorem run_append (lib : Elementary) (s : Session) (first second : List Action) :
    s.run lib (first ++ second) = (s.run lib first).run lib second := List.foldl_append

end Session

end Calculator
