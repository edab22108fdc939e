import InterfaceAtlas.Declaration.MethodTable
import InterfaceAtlas.Journal.Logged
import InterfaceAtlas.Matching.Policy
import InterfaceAtlas.Matching.Relations

/-!
# Matching types with interfaces

A resolver holds the interfaces and the methods of a scope, and says under its policy which types go
with which interfaces. A type that goes with several interfaces is reported with each of them, in
the order in which the interfaces came.
-/

namespace InterfaceAtlas

/-- Interfaces and methods with the policy they are matched by. -/
structure Resolver where
  interfaces : List InterfaceDeclaration
  methods : MethodTable
  policy : Policy := .subset
deriving DecidableEq, Repr, Inhabited

/-- The methods that interfaces name, by the name of the interface. Interfaces of one name are put
together. -/
def groupedMethods (interfaces : List InterfaceDeclaration) : OrderedMap String (List String) :=
  interfaces.foldl (fun m i => m.alter i.name fun held => held.getD [] ++ i.methodNames) {}

namespace Resolver

/-- Whether a type goes with an interface. A type without methods goes with none. -/
def satisfies (r : Resolver) (type : String) (i : InterfaceDeclaration) : Bool :=
  r.methods.contains type && r.policy.satisfies (r.methods.methodNames type) i.methodNames

/-- The interfaces that a type goes with. -/
def satisfiedInterfaces (r : Resolver) (type : String) : List InterfaceDeclaration :=
  r.interfaces.filter (r.satisfies type)

/-- The first interface that a type goes with. -/
def firstSatisfied? (r : Resolver) (type : String) : Option InterfaceDeclaration :=
  r.interfaces.find? (r.satisfies type)

/-- The types that go with an interface. -/
def satisfyingTypes (r : Resolver) (i : InterfaceDeclaration) : List String :=
  r.methods.typeNames.filter fun type => r.satisfies type i

/-- Every method of every type, once for each interface method of its name. The types as a whole are
not compared with the interfaces. -/
def matchesByName (r : Resolver) : List (String × String) :=
  (groupedMethods r.interfaces).entries.flatMap fun (interface, names) =>
    names.flatMap fun name =>
      r.methods.items.flatMap fun (_, candidates) =>
        (candidates.filter (· == name)).map fun candidate => (interface, candidate)

/-- For each interface and each type that goes with it, the methods of the interface. -/
def matchesByType (r : Resolver) : List (String × String) :=
  r.interfaces.flatMap fun i =>
    (r.satisfyingTypes i).flatMap fun type =>
      (i.methodNames.eraseDups.filter fun name =>
        (r.methods.methodNames type).contains name).map fun name => (i.name, name)

/-- The matches under the policy. -/
def matchList (r : Resolver) : List (String × String) :=
  match r.policy with
  | .nameOverlap => r.matchesByName
  | _ => r.matchesByType

/-- The relations under the policy. -/
def relations (r : Resolver) : Relations := .ofMatches r.matchList

/-- The relations under the policy, with a word on their number. -/
def resolve (r : Resolver) : Logged Relations := do
  Logged.say .debug .resolver
    ("Resolved " ++ Decimal.ofInt r.relations.implementations.size ++ " interfaces and "
      ++ Decimal.ofInt r.relations.interfaceOf.size ++ " methods with " ++ r.policy.title
      ++ " policy")
  return r.relations

end Resolver

end InterfaceAtlas
