import InterfaceAtlas.Container.OrderedMap
import InterfaceAtlas.Json.Basic

/-!
# Relations between interfaces and methods

The summary of a package: for each interface the methods that implement it, one mention for each
match, and for each method the interface it was last matched with.
-/

namespace InterfaceAtlas

/-- Which methods implement which interface. -/
structure Relations where
  implementations : OrderedMap String (List String) := {}
  interfaceOf : OrderedMap String String := {}
deriving DecidableEq, Repr, Inhabited

namespace Relations

/-- The relations with one more match. -/
def add (r : Relations) (interface method : String) : Relations :=
  { implementations := r.implementations.alter interface fun held => held.getD [] ++ [method]
    interfaceOf := r.interfaceOf.insert method interface }

/-- The relations of some matches, one after the other. -/
def ofMatches (ms : List (String × String)) : Relations :=
  ms.foldl (fun r (interface, method) => r.add interface method) {}

/-- Entries in the order of their keys. -/
def sorted {ν : Type} (m : OrderedMap String ν) : List (String × ν) :=
  m.entries.mergeSort fun a b => decide (a.1 ≤ b.1)

/-- The summary on the wire, with the keys of both maps in order. -/
def toJson (r : Relations) : Json :=
  .object [
    ("interfaceImplementations",
      .object ((sorted r.implementations).map fun (name, methods) => (name, .texts methods))),
    ("methodToInterface",
      .object ((sorted r.interfaceOf).map fun (name, interface) => (name, .text interface)))]

end Relations

end InterfaceAtlas
