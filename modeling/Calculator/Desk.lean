import Calculator.Snapshot
import Calculator.Window

/-! A calculator with its window and the place where its snapshot is stored. The window opens when
it is first used, and closes when the calculator is started again. -/
namespace Calculator

structure Desk where
  session : Session := {}
  window : Option Window := none
  stored : Option String := none

inductive Step where
  | act (action : Action)
  /-- Puts a text on the display as it is. -/
  | setDisplay (text : String)
  | snapshot
  | save
  | store (text : String)
  /-- Starts the calculator again, from the stored text unless there is no place for one. -/
  | restart (hasStorage : Bool)
  | keyboard (events : List Event)
  | click (label : String)
  | view

inductive Answer where
  | nothing
  | snapshot (p : Snapshot)
  | stored (text : String)
  | clicked (found : Bool)
  | view (elements : List Window.Element) (dark : Bool)

namespace Desk

def load (stored : Option String) : Session :=
  match stored.bind Snapshot.ofText? with
  | some p => .ofSnapshot p
  | none => {}

/-- What is reported of starting from a stored text. The entries are counted before the history is
cut. -/
def loadRecords (stored : Option String) : List Journal.Record :=
  match stored with
  | none => []
  | some text =>
    match Snapshot.ofText? text with
    | some p => [.restored p.history.length p.unit]
    | none => [.unreadable]

def openWindow (d : Desk) : Window := d.window.getD {}

def act (lib : Elementary) (d : Desk) (actions : List Action) : Desk :=
  { d with session := d.session.run lib actions }

def click (lib : Elementary) (d : Desk) (label : String) : Desk :=
  match d.openWindow.click? d.session label with
  | some (.act action) => { d.act lib [action] with window := some d.openWindow }
  | some (.fold part) => { d with window := some (d.openWindow.toggle part) }
  | none => { d with window := some d.openWindow }

def step (lib : Elementary) (d : Desk) : Step → Desk
  | .act action => d.act lib [action]
  | .setDisplay text => { d with session := { d.session with display := text } }
  | .snapshot => d
  | .save => { d with stored := some d.session.snapshot.text }
  | .store text => { d with stored := some text }
  | .restart hasStorage =>
    { d with session := load (if hasStorage then d.stored else none), window := none }
  | .keyboard events =>
    { d.act lib (events.filterMap Event.action?) with window := some d.openWindow }
  | .click label => d.click lib label
  | .view => { d with window := some d.openWindow }

def answer (lib : Elementary) (d : Desk) : Step → Answer
  | .snapshot => .snapshot d.session.snapshot
  | .save => .stored d.session.snapshot.text
  | .click label => .clicked (d.openWindow.click? d.session label).isSome
  | .view => .view (d.openWindow.elements lib d.session) d.session.dark
  | _ => .nothing

/-- What is reported of a step in the state before it. -/
def records (lib : Elementary) (d : Desk) : Step → List Journal.Record
  | .act action => d.session.records lib action
  | .restart hasStorage => loadRecords (if hasStorage then d.stored else none)
  | .keyboard events => d.session.runRecords lib (events.filterMap Event.action?)
  | .click label =>
    match d.openWindow.click? d.session label with
    | some (.act action) => d.session.records lib action
    | _ => []
  | _ => []

end Desk

end Calculator
