import InterfaceAtlas.CommandLine.Word
import InterfaceAtlas.Query.Command
import InterfaceAtlas.Text.Quoted

/-!
# Requests

A command line asks for help, or for one command with its arguments and the options in front of the
verb. Everything else is misuse: `Misuse.message` says what is wrong, and `UsageError.line` who says
so, which is the program as a whole or the program under the verb.
-/

namespace InterfaceAtlas.CommandLine

/-- What can be wrong with a command line. -/
inductive Misuse where
  | ambiguous (a : Ambiguity)
  | valueMissing (switch : Switch)
  | valueUnused (switch : Switch) (value : String)
  | unknownLevel (text : String)
  | unknownVerb (text : String)
  | missing (names : List String)
  | unrecognized (texts : List String)
deriving DecidableEq, Repr, Inhabited

namespace Misuse

/-- What is said of a misuse. -/
def message : Misuse → String
  | ambiguous a =>
    "ambiguous option: " ++ a.text ++ " could match " ++ ", ".intercalate a.candidates
  | valueMissing switch => "argument " ++ switch.title ++ ": expected one argument"
  | valueUnused switch value =>
    "argument " ++ switch.title ++ ": ignored explicit argument " ++ Text.Quoted.render value
  | unknownLevel text =>
    "argument " ++ Switch.logLevel.title ++ ": " ++ Level.unknownMessage (.text text)
  | unknownVerb text =>
    "argument command: invalid choice: " ++ Text.Quoted.render text ++ " (choose from "
      ++ ", ".intercalate (Command.all.map fun c => Text.Quoted.render c.verb) ++ ")"
  | missing names => "the following arguments are required: " ++ ", ".intercalate names
  | unrecognized texts => "unrecognized arguments: " ++ " ".intercalate texts

end Misuse

/-- The name under which the program speaks of itself. -/
def programName : String := "go-interface-analyzer"

/-- A misuse, and the verb under which it was found. -/
structure UsageError where
  command : Option Command := none
  misuse : Misuse
deriving DecidableEq, Repr, Inhabited

namespace UsageError

/-- The line that reports a misuse. -/
def line (e : UsageError) : String :=
  (match e.command with
    | none => programName
    | some c => programName ++ " " ++ c.verb) ++ ": error: " ++ e.misuse.message

end UsageError

/-- Why a command line asks for no command. -/
inductive Stop where
  | help
  | misuse (m : Misuse)
deriving DecidableEq, Repr, Inhabited

/-- The words of some arguments, or the misuse among them. -/
def wordsOf (table : Spellings) (arguments : List String) : Except Stop (List Word) :=
  (readWords table arguments).mapError fun a => .misuse (.ambiguous a)

/-- Stops for an option that asks for help, which takes no value. -/
def stopForHelp (value : Option String) : Stop :=
  match value with
  | none => .help
  | some v => .misuse (.valueUnused .help v)

/-! ## In front of the verb -/

/-- The options in front of the verb. -/
structure Options where
  /-- The file with settings. -/
  config : Option String := none
  /-- The level of diagnostics, in capitals. -/
  logLevel : Option String := none
  /-- Settings are validated strictly. -/
  strict : Bool := false
deriving DecidableEq, Repr, Inhabited

namespace Options

/-- The options after a file of settings was named. The last one named counts. -/
def setConfig (o : Options) (path : String) : Options := { o with config := some path }

/-- The options after a level was named. -/
def setLevel (o : Options) (text : String) : Except Stop Options :=
  match Level.resolve? (.text text) with
  | none => .error (.misuse (.unknownLevel text))
  | some _ => .ok { o with logLevel := some (Text.capitals text) }

end Options

/-- What stands in front of the verb, and the arguments from the verb on. -/
structure Front where
  options : Options := {}
  unknown : List String := []
  rest : List Word := []
deriving DecidableEq, Repr, Inhabited

/-- Reads what stands in front of the verb. An option that takes a value takes the one attached to
it, or else the operand behind it. -/
def readFront (o : Options) (unknown : List String) : List Word → Except Stop Front
  | .unknown text :: more => readFront o (unknown ++ [text]) more
  | .option .help value _ :: _ => .error (stopForHelp value)
  | .option .strictConfig (some value) _ :: _ => .error (.misuse (.valueUnused .strictConfig value))
  | .option .strictConfig none _ :: more => readFront { o with strict := true } unknown more
  | .option .config (some value) _ :: more => readFront (o.setConfig value) unknown more
  | .option .config none _ :: .operand value :: more => readFront (o.setConfig value) unknown more
  | .option .config none _ :: _ => .error (.misuse (.valueMissing .config))
  | .option .logLevel (some value) _ :: more => do readFront (← o.setLevel value) unknown more
  | .option .logLevel none _ :: .operand value :: more => do
    readFront (← o.setLevel value) unknown more
  | .option .logLevel none _ :: _ => .error (.misuse (.valueMissing .logLevel))
  | rest => .ok ⟨o, unknown, rest⟩

/-! ## Behind the verb -/

/-- What stands behind a verb. -/
structure Operands where
  /-- The values of the arguments. One that is written like the divider has no value. -/
  values : List (Option String) := []
  /-- What belongs to no argument. -/
  surplus : List String := []
deriving DecidableEq, Repr, Inhabited

namespace Operands

/-- The operands with one more value in front. -/
def consValue (value : Option String) (o : Operands) : Operands :=
  { o with values := value :: o.values }

/-- The operands with one more surplus argument in front. -/
def consSurplus (text : String) (o : Operands) : Operands :=
  { o with surplus := text :: o.surplus }

end Operands

/-- The value of an operand that has no divider beside it. -/
def operandValue (text : String) : Option String := if text = "--" then none else some text

/-- Reads what stands behind a verb that takes `n` more arguments. A divider goes with the operand
before it, or else with the one behind it. -/
def readOperands : Nat → List Word → Except Stop Operands
  | _, [] => .ok {}
  | _, .option _ value _ :: _ => .error (stopForHelp value)
  | n, .unknown text :: more => (readOperands n more).map (.consSurplus text)
  | n + 1, .divider :: .operand text :: more => (readOperands n more).map (.consValue (some text))
  | n + 1, .operand text :: .divider :: more => (readOperands n more).map (.consValue (some text))
  | n + 1, .operand text :: more => (readOperands n more).map (.consValue (operandValue text))
  | n, .operand text :: more => (readOperands n more).map (.consSurplus text)
  | n, .divider :: more => (readOperands n more).map (.consSurplus "--")

/-- Reads what stands behind the verb of a command. -/
def readBack (c : Command) (arguments : List String) : Except Stop Operands := do
  let operands ← readOperands c.arguments.length (← wordsOf helpSpellings arguments)
  match c.arguments.drop operands.values.length with
  | [] => .ok operands
  | names => .error (.misuse (.missing names))

/-! ## The whole -/

/-- A command with its arguments and options. -/
structure Request where
  command : Command
  /-- The arguments. One that was written like the divider may lack its value. -/
  arguments : List (Option String)
  options : Options := {}
deriving DecidableEq, Repr, Inhabited

/-- Why a command line is no request. -/
inductive Rejection where
  | help
  | misuse (error : UsageError)
deriving DecidableEq, Repr, Inhabited

namespace Rejection

/-- The rejection that a stop under a verb amounts to. -/
def ofStop (command : Option Command) : Stop → Rejection
  | .help => help
  | .misuse m => misuse ⟨command, m⟩

end Rejection

namespace Request

/-- The request of a verb and what is behind it. Unknown arguments are reported last. -/
def ofVerb (front : Front) (verb : String) (arguments : List String) : Except Rejection Request :=
  match Command.ofVerb? verb with
  | none => .error (.misuse { misuse := .unknownVerb verb })
  | some c => do
    let back ← (readBack c arguments).mapError (Rejection.ofStop (some c))
    match front.unknown ++ back.surplus with
    | [] => .ok { command := c, arguments := back.values, options := front.options }
    | texts => .error (.misuse { misuse := .unrecognized texts })

/-- Reads a command line. -/
def read (arguments : List String) : Except Rejection Request := do
  let front ← (wordsOf allSpellings arguments >>= readFront {} []).mapError (Rejection.ofStop none)
  match front.rest.map Word.text with
  | [] | ["--"] => .error (.misuse { misuse := .missing ["command"] })
  | verb :: more => ofVerb front verb more

end Request

end InterfaceAtlas.CommandLine
