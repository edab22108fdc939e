import InterfaceAtlas.Text.Blank
import InterfaceAtlas.Text.Capital
import InterfaceAtlas.Value.Basic

/-!
# Levels of diagnostics

A level is a number, and six numbers have names. `Level.resolve` reads a level from a value: a
number is taken as it is, anything else by its name, in any case and with white space around it.
-/

namespace InterfaceAtlas

/-- A level of diagnostics. A truth value may stand for zero or one, and is shown as such. -/
inductive Level where
  | number (n : Int)
  | flag (b : Bool)
deriving DecidableEq, Repr, Inhabited

namespace Level

/-- The number by which levels are compared. -/
def rank : Level → Int
  | number n => n
  | flag b => if b then 1 else 0

def debug : Level := number 10
def info : Level := number 20
def warning : Level := number 30
def error : Level := number 40

/-- The names of levels. Two numbers have two names. -/
def names : List (String × Int) :=
  [("CRITICAL", 50), ("FATAL", 50), ("ERROR", 40), ("WARNING", 30), ("WARN", 30), ("INFO", 20),
    ("DEBUG", 10), ("NOTSET", 0)]

/-- The number of a level name, spelled in capitals. -/
def ofName? (name : String) : Option Int := names.lookup name

/-- Whether a text is the name of a level, spelled in capitals. -/
def isName (name : String) : Bool := (ofName? name).isSome

/-- A level as diagnostics show it: the first of its names, or its number. -/
def title (level : Level) : String :=
  match names.find? fun entry => entry.2 == level.rank with
  | some (name, _) => name
  | none => "Level " ++ match level with
    | number n => Decimal.ofInt n
    | flag b => Value.writeBool b

/-- The spelling under which a name is looked up. -/
def normalName (text : String) : String := Text.capitals (Text.strip text)

/-- The level that a value stands for; none for the name of no level. -/
def resolve? : Value → Option Level
  | .int n => some (number n)
  | .bool b => some (flag b)
  | v => (ofName? (normalName v.display)).map number

/-- What is said of a value that stands for no level. -/
def unknownMessage (v : Value) : String := "Unknown log level: " ++ v.display

end Level

end InterfaceAtlas
