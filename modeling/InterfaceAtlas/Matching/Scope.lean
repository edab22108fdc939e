import InterfaceAtlas.Declaration.MethodTable
import InterfaceAtlas.Declaration.Methods
import InterfaceAtlas.Files.Source
import InterfaceAtlas.Matching.Resolver

/-!
# Scopes

A scope is all that some source files declare, in the order of the files. Within one file,
`implementationsIn` picks the methods of the types that implement an interface.
-/

namespace InterfaceAtlas

/-- The interfaces that a source file declares. -/
def Source.interfaces (s : Source) : Logged (List InterfaceDeclaration) := do
  let found ← Declaration.interfacesOf s.path s.tree
  Logged.say .debug .interfaces
    ("Found " ++ Decimal.ofInt found.length ++ " interfaces in " ++ s.path)
  return found

/-- The methods that a source file declares. -/
def Source.methods (s : Source) : Logged (List MethodDeclaration) := do
  let found ← Declaration.methodsOf s.path s.tree
  Logged.say .debug .methods
    ("Found " ++ Decimal.ofInt found.length ++ " methods in " ++ s.path)
  return found

/-- All that some files declare. -/
structure Scope where
  interfaces : List InterfaceDeclaration := []
  methods : List MethodDeclaration := []
deriving DecidableEq, Repr, Inhabited

namespace Scope

/-- What one file declares. -/
def ofSource (s : Source) : Logged Scope := do
  let interfaces ← s.interfaces
  let methods ← s.methods
  return { interfaces, methods }

/-- The scope of several files: that of each, one after the other. -/
def concat (scopes : List Scope) : Scope :=
  { interfaces := scopes.flatMap (·.interfaces), methods := scopes.flatMap (·.methods) }

/-- The scope of some files. -/
def ofSources (sources : List Source) : Logged Scope := do
  return concat (← sources.mapM ofSource)

/-- The methods of the scope by receiver. -/
def table (s : Scope) : MethodTable := .ofDeclarations s.methods

/-- The interfaces that name a method. -/
def interfacesDeclaring (s : Scope) (method : String) : List InterfaceDeclaration :=
  s.interfaces.filter fun i => i.declares method

end Scope

/-- The methods that a file declares for `type`, if the type implements one of the interfaces. -/
def implementationsOf (path : String) (declared : List MethodDeclaration) (resolver : Resolver)
    (type : String) : Logged (List MethodDeclaration) := do
  match resolver.firstSatisfied? type with
  | none =>
    Logged.say .debug .queries ("Type " ++ type ++ " in " ++ path ++ " satisfies no interface")
    return []
  | some i =>
    Logged.say .debug .queries ("Type " ++ type ++ " in " ++ path ++ " satisfies " ++ i.name)
    return declared.filter fun d => d.receiver == type

/-- The methods of a file whose type implements one of the interfaces with the methods of this file
alone. Interfaces without methods do not count. All methods of such a type are given, in the order
of the file, one type after the other. -/
def implementationsIn (s : Source) (interfaces : List InterfaceDeclaration) :
    Logged (List MethodDeclaration) := do
  let declared ← s.methods
  let table := MethodTable.ofDeclarations declared
  let resolver : Resolver :=
    { interfaces := interfaces.filter fun i => !i.methods.isEmpty, methods := table }
  Logged.inPhase "resolve" do
    return (← table.typeNames.mapM (implementationsOf s.path declared resolver)).flatten

end InterfaceAtlas
