import InterfaceAtlas.Query.Basic
import InterfaceAtlas.Query.Wire

/-!
# Commands

Each query has a verb, names for its arguments, and a shape of its answer on the wire.
-/

namespace InterfaceAtlas

/-- The commands. -/
inductive Command where
  | findImplementations
  | findInterfaces
  | findFileInterfaces
  | findFileImplementations
  | analyzePackageInterfaces
  | findAllInterfaces
deriving DecidableEq, Repr, Inhabited

/-- Why a command does not run. -/
inductive CommandFault where
  /-- There is no such verb. -/
  | unknownVerb (verb : String)
  /-- The verb takes another number of arguments. -/
  | wrongCount (verb : String)
  /-- The query has no answer. -/
  | query (fault : QueryFault)
deriving DecidableEq, Repr, Inhabited

namespace Command

/-- All commands, in the order in which they are listed. -/
def all : List Command :=
  [findImplementations, findInterfaces, findFileInterfaces, findFileImplementations,
    analyzePackageInterfaces, findAllInterfaces]

/-- The verb of a command. -/
def verb : Command → String
  | findImplementations => "find-implementations"
  | findInterfaces => "find-interfaces"
  | findFileInterfaces => "find-file-interfaces"
  | findFileImplementations => "find-file-implementations"
  | analyzePackageInterfaces => "analyze-package-interfaces"
  | findAllInterfaces => "find-all-interfaces"

/-- The names of the arguments. -/
def arguments : Command → List String
  | findImplementations => ["root", "method_name"]
  | findInterfaces => ["root", "method_name"]
  | findFileInterfaces => ["file"]
  | findFileImplementations => ["file"]
  | analyzePackageInterfaces => ["directory"]
  | findAllInterfaces => ["root"]

/-- One sentence on the command. -/
def help : Command → String
  | findImplementations =>
    "Methods named METHOD_NAME on types implementing the first interface that declares it."
  | findInterfaces => "Interface methods named METHOD_NAME anywhere under ROOT."
  | findFileInterfaces => "Interface methods declared in FILE."
  | findFileImplementations =>
    "Methods in FILE whose type implements an interface of its directory."
  | analyzePackageInterfaces => "Interface/method relations of the package in DIRECTORY."
  | findAllInterfaces => "Every interface method anywhere under ROOT."

/-- The command with a verb. -/
def ofVerb? (verb : String) : Option Command := all.find? fun c => c.verb == verb

/-- The answer to a command on the wire; none if it is given another number of arguments than it
takes. -/
def answer? (c : Command) (parser : Parser) (fs : FileSystem) (settings : Settings)
    (arguments : List Value) : Option (Query.Answer Json) :=
  match c, arguments with
  | findImplementations, [root, method] =>
    some (Wire.implementations false <$> Query.implementations parser fs settings root method)
  | findInterfaces, [root, method] =>
    some (Wire.interfaces false <$> Query.interfaces parser fs settings root method)
  | findFileInterfaces, [file] =>
    some (Wire.interfaces true <$> Query.fileInterfaces parser fs settings file)
  | findFileImplementations, [file] =>
    some (Wire.implementations true <$> Query.fileImplementations parser fs settings file)
  | analyzePackageInterfaces, [directory] =>
    some (Relations.toJson <$> Query.packageRelations parser fs settings directory)
  | findAllInterfaces, [root] =>
    some (Wire.interfaces true <$> Query.allInterfaces parser fs settings root)
  | _, _ => none

/-- Runs the command of a verb. -/
def run (parser : Parser) (fs : FileSystem) (settings : Settings) (verb : String)
    (arguments : List Value) : Logged (Except CommandFault Json) :=
  match ofVerb? verb with
  | none => pure (.error (.unknownVerb verb))
  | some c =>
    match c.answer? parser fs settings arguments with
    | none => pure (.error (.wrongCount verb))
    | some x => do return (← x.run).mapError .query

end Command

end InterfaceAtlas
