import InterfaceAtlas.Files.Scan
import InterfaceAtlas.Matching.Scope

/-!
# Queries

The six questions that can be asked of a tree of source files. Each of them scans the files anew.
Files that cannot be read or parsed are left out, and an empty or missing scope has an empty answer;
only arguments that cannot be used are faults.
-/

namespace InterfaceAtlas

/-- Why a query has no answer. -/
inductive QueryFault where
  /-- An argument is no text or is blank. -/
  | blank (label : String)
  /-- An argument is no path. -/
  | unusable (fault : UnusablePath)
deriving DecidableEq, Repr, Inhabited

namespace QueryFault

/-- What is said of a fault. -/
def message : QueryFault → String
  | blank label => label ++ " must be a non-empty string"
  | unusable fault => fault.message

end QueryFault

namespace Query

/-- A query's answer, with the diagnostics on the way to it. -/
abbrev Answer (α : Type) := ExceptT QueryFault Logged α

/-- Says something on behalf of the queries. -/
def say (level : Level) (message : String) : Answer Unit :=
  ExceptT.lift (Logged.say level .queries message)

/-- The text of an argument, which must not be blank. -/
def require (label : String) : Value → Answer String
  | .text s => if Text.isBlankText s then throw (.blank label) else pure s
  | _ => throw (.blank label)

/-- A computation that can meet an unusable path. -/
def guardPath {α : Type} (x : Logged (Except UnusablePath α)) : Answer α :=
  ExceptT.mk do return (← x).mapError .unusable

/-- What `f` makes of each source under a root, with the counters of the scan. -/
def scanWith {β : Type} (parser : Parser) (fs : FileSystem) (settings : Settings) (root : String)
    (recursive : Bool) (f : Source → Logged β) : Answer (List β × ScanCounts) := do
  let steps := fs.loads parser settings root recursive
  let found ← guardPath (Logged.inPhase "index" (eachSource f steps))
  return (found, .ofLoads steps)

/-- The scope of the sources under a root. -/
def scanScope (parser : Parser) (fs : FileSystem) (settings : Settings) (root : String) :
    Answer Scope := do
  let (scopes, counts) ← scanWith parser fs settings root true Scope.ofSource
  let scope := Scope.concat scopes
  say .info ("Scanned " ++ root ++ ": " ++ counts.display ++ ", "
    ++ Decimal.ofInt scope.interfaces.length ++ " interfaces, "
    ++ Decimal.ofInt scope.methods.length ++ " methods")
  return scope

/-- The interfaces of the sources under a root. -/
def scanInterfaces (parser : Parser) (fs : FileSystem) (settings : Settings) (root : String) :
    Answer (List InterfaceDeclaration) := do
  let (found, counts) ← scanWith parser fs settings root true Source.interfaces
  let interfaces := found.flatten
  say .info ("Scanned " ++ root ++ ": " ++ counts.display ++ ", "
    ++ Decimal.ofInt interfaces.length ++ " interfaces")
  return interfaces

/-- The methods that interfaces name. -/
def methodsNamed (interfaces : List InterfaceDeclaration) : List InterfaceMethod :=
  interfaces.flatMap (·.methods)

/-! ## Questions about one file -/

/-- The interface methods of one file. -/
def fileInterfaces (parser : Parser) (fs : FileSystem) (settings : Settings) (file : Value) :
    Answer (List InterfaceMethod) := do
  let path ← require "file" file
  match ← guardPath (Source.load parser fs settings path) with
  | none => return []
  | some source => return methodsNamed (← ExceptT.lift source.interfaces)

/-- The methods of one file whose type implements an interface from the file's directory or
below. -/
def fileImplementations (parser : Parser) (fs : FileSystem) (settings : Settings) (file : Value) :
    Answer (List MethodDeclaration) := do
  let path ← require "file" file
  match ← guardPath (Source.load parser fs settings path) with
  | none => return []
  | some source =>
    let interfaces ← scanInterfaces parser fs settings (Path.containing path)
    let found ← ExceptT.lift (implementationsIn source interfaces)
    say .info ("Found " ++ Decimal.ofInt found.length ++ " implementation methods in " ++ path)
    return found

/-! ## Questions about a tree of files -/

/-- The interface methods of one name under a root. -/
def interfaces (parser : Parser) (fs : FileSystem) (settings : Settings) (root method : Value) :
    Answer (List InterfaceMethod) := do
  let root ← require "root" root
  let method ← require "method name" method
  let found ← scanInterfaces parser fs settings root
  return (methodsNamed found).filter fun m => m.name == method

/-- All interface methods under a root. -/
def allInterfaces (parser : Parser) (fs : FileSystem) (settings : Settings) (root : Value) :
    Answer (List InterfaceMethod) := do
  let root ← require "root" root
  return methodsNamed (← scanInterfaces parser fs settings root)

/-- The methods of one name on the types that implement an interface of the scope. -/
def implementationsFor (scope : Scope) (target : InterfaceDeclaration) (method : String) :
    List MethodDeclaration :=
  let resolver : Resolver := { interfaces := [target], methods := scope.table }
  (resolver.satisfyingTypes target).filterMap fun type => scope.table.declaration? type method

/-- The methods of one name on the types that implement the first interface under the root that
names it. -/
def implementations (parser : Parser) (fs : FileSystem) (settings : Settings)
    (root method : Value) : Answer (List MethodDeclaration) := do
  let root ← require "root" root
  let method ← require "method name" method
  let scope ← scanScope parser fs settings root
  let candidates := scope.interfacesDeclaring method
  match candidates with
  | [] =>
    say .info ("No interface under " ++ root ++ " declares " ++ method)
    return []
  | target :: others =>
    if !others.isEmpty then
      say .debug (Decimal.ofInt candidates.length ++ " interfaces declare " ++ method ++ "; using "
        ++ target.name ++ " from " ++ target.file)
    let found ← ExceptT.lift (Logged.inPhase "resolve"
      (pure (implementationsFor scope target method)))
    say .info ("Found " ++ Decimal.ofInt found.length ++ " implementations of " ++ target.name
      ++ "." ++ method)
    return found

/-- The interfaces of a file, and its methods that implement one of those of the scope. -/
def packagePart (scopeInterfaces : List InterfaceDeclaration) (s : Source) :
    Logged (List InterfaceDeclaration × List MethodDeclaration) := do
  let interfaces ← s.interfaces
  let candidates ← implementationsIn s scopeInterfaces
  return (interfaces, candidates)

/-- The relations of the files that lie in a directory itself. Their methods count if their type
implements an interface from the directory or below, and are matched by name alone with the
interfaces of these files. -/
def packageRelations (parser : Parser) (fs : FileSystem) (settings : Settings) (directory : Value) :
    Answer Relations := do
  let directory ← require "package directory" directory
  let (sources, counts) ← scanWith parser fs settings directory false pure
  say .info ("Scanned package " ++ directory ++ ": " ++ counts.display)
  if sources.isEmpty then return {}
  else
    let scopeInterfaces ← scanInterfaces parser fs settings directory
    let parts ← ExceptT.lift (sources.mapM (packagePart scopeInterfaces))
    let resolver : Resolver :=
      { interfaces := parts.flatMap Prod.fst
        methods := .ofDeclarations (parts.flatMap Prod.snd)
        policy := .nameOverlap }
    let relations ← ExceptT.lift (Logged.inPhase "resolve" resolver.resolve)
    say .info ("Package " ++ directory ++ ": " ++ Decimal.ofInt relations.implementations.size
      ++ " interfaces with implementations, " ++ Decimal.ofInt relations.interfaceOf.size
      ++ " methods")
    return relations

end Query

end InterfaceAtlas
