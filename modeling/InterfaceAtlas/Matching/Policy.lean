import InterfaceAtlas.Value.Basic

/-!
# Policies of matching

A type is matched with an interface by the names of their methods alone.
-/

namespace InterfaceAtlas

/-- When a type goes with an interface. -/
inductive Policy where
  /-- The type has every method of the interface. -/
  | subset
  /-- The type has the methods of the interface and no others. -/
  | exact
  /-- The type has some method of the interface. -/
  | nameOverlap
deriving DecidableEq, Repr, Inhabited

namespace Policy

/-- Every name of the interface is one of the type's. -/
def isSubset (typeMethods interfaceMethods : List String) : Bool :=
  interfaceMethods.all fun name => typeMethods.contains name

/-- The two have the same names. -/
def isExact (typeMethods interfaceMethods : List String) : Bool :=
  isSubset typeMethods interfaceMethods && isSubset interfaceMethods typeMethods

/-- The two share a name. -/
def overlaps (typeMethods interfaceMethods : List String) : Bool :=
  interfaceMethods.any fun name => typeMethods.contains name

/-- Whether a type goes with an interface. -/
def satisfies : Policy → List String → List String → Bool
  | subset => isSubset
  | exact => isExact
  | nameOverlap => overlaps

/-- The word for a policy. -/
def title : Policy → String
  | subset => "subset"
  | exact => "exact"
  | nameOverlap => "name-overlap"

/-- The policy that a value names. -/
def ofValue? : Value → Option Policy
  | .text s => [subset, exact, nameOverlap].find? fun p => p.title == s
  | _ => none

/-- What is said of a value that names no policy. -/
def unknownMessage (v : Value) : String := v.write ++ " is not a valid MatchPolicy"

end Policy

end InterfaceAtlas
