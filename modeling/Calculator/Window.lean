import Calculator.Session

/-! The window of a calculator: its keys, what it shows, and what the keyboard and clicks do. -/
namespace Calculator

inductive Key where
  | enter | escape | backspace
  /-- A key that does nothing. -/
  | other
  deriving DecidableEq, Repr

inductive Event where
  | text (s : String)
  | key (k : Key) (pressed : Bool)
  deriving DecidableEq, Repr

/-- The part of a text that a keyboard enters. -/
def expressionPart (s : String) : String := String.ofList (s.toList.filter isExpressionCharacter)

/-- What an event of the keyboard does. Keys act when they are pressed. -/
def Event.action? : Event → Option Action
  | .text s => if expressionPart s = "" then none else some (.enter (expressionPart s))
  | .key .enter true => some .evaluate
  | .key .escape true => some .clearAll
  | .key .backspace true => some .erase
  | .key _ _ => none

/-- A key that enters its own label. -/
def labelKey (label : String) : String × Action := (label, .enter label)

/-- A key that enters another text than its label. -/
def textKey (label text : String) : String × Action := (label, .enter text)

/-- The keys with what they do, row by row. -/
def keypadRows : List (List (String × Action)) :=
  [[("MC", .clearMemory), ("MR", .recallMemory), ("M+", .addToMemory), ("M-", .subtractFromMemory),
      ("C", .clearAll), ("DEL", .erase)],
    [textKey "sin" "sin(", textKey "cos" "cos(", textKey "tan" "tan(", textKey "ln" "ln(",
      textKey "log" "log(", textKey "√" "sqrt("],
    [labelKey "7", labelKey "8", labelKey "9", textKey "÷" "/", textKey "×" "*", labelKey "("],
    [labelKey "4", labelKey "5", labelKey "6", labelKey "-", labelKey "+", labelKey ")"],
    [labelKey "1", labelKey "2", labelKey "3", labelKey ".", textKey "π" "pi", labelKey "e"],
    [labelKey "0", textKey "x²" "^2", textKey "x³" "^3", labelKey "^", ("=", .evaluate)]]

def keypad : List (String × Action) := keypadRows.flatten

inductive Section where
  | settings | history | working
  deriving DecidableEq, Repr

def Section.label : Section → String
  | .settings => "Réglages"
  | .history => "Historique"
  | .working => "Démarche"

structure Window where
  settings : Bool := false
  history : Bool := true
  working : Bool := false
  deriving DecidableEq, Repr

/-- What a click on a control does. -/
inductive Effect where
  | act (action : Action)
  | fold (part : Section)
  deriving DecidableEq

namespace Window

def toggle (w : Window) : Section → Window
  | .settings => { w with settings := !w.settings }
  | .history => { w with history := !w.history }
  | .working => { w with working := !w.working }

def degreesLabel : String := "Degrés"

def radiansLabel : String := "Radians"

def themeLabel : String := "Thème sombre"

def clearLabel : String := "Tout effacer"

def settingControls : List (String × Effect) :=
  [(degreesLabel, .act (.setUnit .degrees)), (radiansLabel, .act (.setUnit .radians)),
    (themeLabel, .act .toggleTheme)]

/-- The history can be cleared where it is shown. -/
def historyControls (s : Session) : List (String × Effect) :=
  if s.history.isEmpty then [] else [(clearLabel, .act .clearAll)]

def heading (part : Section) : String × Effect := (part.label, .fold part)

def controls (w : Window) (s : Session) : List (String × Effect) :=
  keypad.map (fun (label, action) => (label, .act action)) ++
    heading .settings :: (if w.settings then settingControls else []) ++
    heading .history :: (if w.history then historyControls s else []) ++
    [heading .working]

/-- What a click on the control with this label does, if it is shown. -/
def click? (w : Window) (s : Session) (label : String) : Option Effect :=
  (w.controls s).lookup label

inductive Element where
  | label (text : String)
  | button (text : String)
  | radioButton (text : String) (checked : Bool)
  | checkBox (text : String) (checked : Bool)
  deriving DecidableEq, Repr

def memoryElements (lib : Elementary) (s : Session) : List Element :=
  if s.memory == 0.0 then []
  else [.label s!"M : {Session.shown lib s.memory}"]

def displayElements (lib : Elementary) (s : Session) : List Element :=
  memoryElements lib s ++ [.label s.unit.label] ++
    s.error.toList.map (fun fault => .label fault.message) ++ [.label s.display]

def settingElements (s : Session) : List Element :=
  [.label "Angles :", .radioButton degreesLabel (s.unit == .degrees),
    .radioButton radiansLabel (s.unit == .radians), .checkBox themeLabel s.dark,
    .label "Raccourcis clavier :", .label "Entrée     évaluer", .label "Échap      tout effacer",
    .label "Retour     effacer le dernier caractère"]

def historyElements (s : Session) : List Element :=
  if s.history.isEmpty then [.label "Aucun calcul pour l’instant"]
  else s.history.map .label ++ [.button clearLabel]

def workingElements (s : Session) : List Element :=
  [.label "Jetons :", .label s.working.tokens, .label "Arbre :", .label s.working.tree]

/-- The texts and controls of the window in their order. -/
def elements (lib : Elementary) (w : Window) (s : Session) : List Element :=
  .label "Calculatrice ingénieur" :: displayElements lib s ++
    keypad.map (fun (label, _) => .button label) ++
    .button Section.settings.label :: (if w.settings then settingElements s else []) ++
    .button Section.history.label :: (if w.history then historyElements s else []) ++
    .button Section.working.label :: (if w.working then workingElements s else [])

end Window

end Calculator
