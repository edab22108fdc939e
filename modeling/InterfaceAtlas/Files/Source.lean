import InterfaceAtlas.Files.FileSystem
import InterfaceAtlas.Settings.Basic
import InterfaceAtlas.Syntax.Walk

/-!
# Source files

A file is loaded for a scan if it has the right name, can be read and, unless settings say
otherwise, has no syntax error. Any other file contributes nothing; only a text that is no path at
all is a fault of the caller. How bytes become a syntax tree is left to a parser.
-/

namespace InterfaceAtlas

/-- A parser makes a syntax tree of the bytes of a file. -/
abbrev Parser := List UInt8 → Node

/-- A file that was read, with its syntax tree. -/
structure Source where
  path : String
  tree : Node
  content : List UInt8
deriving Repr, Inhabited

/-- A text with a null character was given where a path is needed. -/
inductive UnusablePath where
  | nullCharacter
deriving DecidableEq, Repr, Inhabited

namespace UnusablePath

/-- What is said of an unusable path. -/
def message : UnusablePath → String
  | nullCharacter => "embedded null byte"

end UnusablePath

namespace Source

/-- What is said when something else than bytes is to be parsed. -/
def notBytesMessage (v : Value) : String := "Source must be bytes, got " ++ v.kindName

/-- The syntax tree of some bytes. -/
def parse (parser : Parser) (content : List UInt8) : Logged Node := do
  Logged.say .debug .loader "Created tree-sitter Go parser"
  let tree := parser content
  Logged.say .debug .loader ("Parsed " ++ Decimal.ofInt content.length ++ " bytes of Go code")
  return tree

/-- The source file of some bytes, if settings let it count. -/
def accept (parser : Parser) (settings : Settings) (path : String) (content : List UInt8) :
    Logged (Option Source) := do
  let tree ← parse parser content
  let faults := Decimal.ofInt tree.errorCount ++ " syntax error nodes"
  if tree.label.hasError && settings.skipFaulty then
    Logged.say .warning .loader ("Skipping " ++ path ++ ": " ++ faults)
    return none
  else
    if tree.label.hasError then
      Logged.say .debug .loader ("File " ++ path ++ " contains " ++ faults ++ "; indexing anyway")
    Logged.say .debug .loader ("Parsed file: " ++ path)
    return some { path, tree, content }

/-- The source file at a path, if there is one that counts. -/
def load (parser : Parser) (fs : FileSystem) (settings : Settings) (path : String) :
    Logged (Except UnusablePath (Option Source)) := do
  if !settings.isSource path then
    Logged.say .debug .loader ("Skipping non-Go file: " ++ path)
    return .ok none
  else match fs.read path with
    | .error .unusable => return .error .nullCharacter
    | .error (.refused reason) =>
      Logged.say .warning .loader ("Cannot read " ++ path ++ ": " ++ reason.message path)
      return .ok none
    | .ok content => return .ok (← accept parser settings path content)

end Source

end InterfaceAtlas
