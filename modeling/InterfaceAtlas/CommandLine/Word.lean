import InterfaceAtlas.Text.Digit

/-!
# Words of a command line

A command line is a list of arguments. Each argument reads as an operand, as an option, or as the
divider behind which there are only operands. An option may be cut short as long as one option
alone begins like that, and a value may be attached to it behind an equals sign.
-/

namespace InterfaceAtlas.CommandLine

/-- The options. -/
inductive Switch where
  | help
  | config
  | logLevel
  | strictConfig
deriving DecidableEq, Repr, Inhabited

namespace Switch

/-- The name of an option in messages. -/
def title : Switch → String
  | help => "-h/--help"
  | config => "--config"
  | logLevel => "--log-level"
  | strictConfig => "--strict-config"

end Switch

/-- The spellings of the options that are known at some place. -/
abbrev Spellings := List (String × Switch)

/-- The options that ask for help, known everywhere. -/
def helpSpellings : Spellings := [("-h", .help), ("--help", .help)]

/-- The options known in front of the verb. -/
def allSpellings : Spellings :=
  helpSpellings ++
    [("--config", .config), ("--log-level", .logLevel), ("--strict-config", .strictConfig)]

/-- How an argument reads. -/
inductive Word where
  /-- An operand. -/
  | operand (text : String)
  /-- The first `--`. -/
  | divider
  /-- An option, with the value attached to it. -/
  | option (switch : Switch) (value : Option String) (text : String)
  /-- What looks like an option and is none. -/
  | unknown (text : String)
deriving DecidableEq, Repr, Inhabited

namespace Word

/-- The argument that a word was read from. -/
def text : Word → String
  | operand text => text
  | divider => "--"
  | option _ _ text => text
  | unknown text => text

end Word

/-- An argument begins like several options. -/
structure Ambiguity where
  text : String
  candidates : List String
deriving DecidableEq, Repr, Inhabited

/-! ## Reading one argument -/

/-- The text before the first equals sign, and the text behind it if there is such a sign. -/
def cutAtEquals : List Char → List Char × Option (List Char)
  | [] => ([], none)
  | '=' :: rest => ([], some rest)
  | c :: rest => (c :: (cutAtEquals rest).1, (cutAtEquals rest).2)

/-- The value attached to a short option that asks for help. Such options may run together; where
they end in something that is no option, that is passed over. -/
def attachedToHelp? : List Char → Option (List Char)
  | '=' :: value => some value
  | '-' :: value => some ('-' :: value)
  | 'h' :: more => attachedToHelp? more
  | _ => none

/-- Whether an argument is written like a negative number. -/
def isNegativeNumber : List Char → Bool
  | '-' :: rest =>
    -- A line end behind the number does not matter.
    let body := if rest.getLast? = some '\n' then rest.dropLast else rest
    match body.dropWhile Text.isDigit with
    | [] => !body.isEmpty
    | '.' :: places => !places.isEmpty && places.all Text.isDigit
    | _ => false
  | _ => false

/-- How an argument reads that looks like an option and is none: negative numbers, and texts with a
space in them, are operands after all. -/
def readUnknown (s : String) : Word :=
  if isNegativeNumber s.toList || s.toList.contains ' ' then .operand s else .unknown s

/-- The options that begin with `name`; if one of them is spelled just so, that one alone. -/
def startingWith (table : Spellings) (name : List Char) : Spellings :=
  match table.find? fun entry => entry.1.toList == name with
  | some entry => [entry]
  | none => table.filter fun entry => name.isPrefixOf entry.1.toList

/-- How an argument reads that begins with two hyphens. -/
def readLong (table : Spellings) (s : String) : Except Ambiguity Word :=
  let (name, value) := cutAtEquals s.toList
  match startingWith table name with
  | [] => .ok (readUnknown s)
  | [(_, switch)] => .ok (.option switch (value.map String.ofList) s)
  | several => .error ⟨s, several.map (·.1)⟩

/-- How an argument other than the divider reads. -/
def readWord (table : Spellings) (s : String) : Except Ambiguity Word :=
  match s.toList with
  | '-' :: '-' :: _ => readLong table s
  | '-' :: 'h' :: tail =>
    .ok (.option .help ((attachedToHelp? tail).map String.ofList) s)
  | '-' :: _ :: _ => .ok (readUnknown s)
  | _ => .ok (.operand s)

/-- How the arguments read. -/
def readWords (table : Spellings) : List String → Except Ambiguity (List Word)
  | [] => .ok []
  | s :: more =>
    if s = "--" then .ok (.divider :: more.map .operand)
    else do return (← readWord table s) :: (← readWords table more)

end InterfaceAtlas.CommandLine
