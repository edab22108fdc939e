import InterfaceAtlas.Container.OrderedMap
import InterfaceAtlas.Declaration.Basic
import InterfaceAtlas.Text.Quoted

/-!
# Methods by receiver

A method table holds, for each receiver, the methods declared with it. Receivers and method names
keep the order in which they were first seen, and a method declared again takes the place of the
earlier one. A declaration without a receiver's name is not held.
-/

namespace InterfaceAtlas

/-- The methods of receivers. `T` and `*T` are different receivers. -/
structure MethodTable where
  types : OrderedMap String (OrderedMap String MethodDeclaration) := {}
deriving DecidableEq, Repr, Inhabited

namespace MethodTable

/-- Whether a declaration can be held. -/
def accepts (d : MethodDeclaration) : Bool := d.receiver != ""

/-- The table with one more declaration, if it can be held. -/
def add (t : MethodTable) (d : MethodDeclaration) : MethodTable :=
  if accepts d then
    ⟨t.types.alter d.receiver fun held => (held.getD {}).insert d.name d⟩
  else t

/-- The table of some declarations. -/
def ofDeclarations (ds : List MethodDeclaration) : MethodTable := ds.foldl add {}

/-- The receivers. -/
def typeNames (t : MethodTable) : List String := t.types.keys

/-- The methods of a receiver, by name. -/
def methodsOf (t : MethodTable) (type : String) : OrderedMap String MethodDeclaration :=
  (t.types.get? type).getD {}

/-- The names of the methods of a receiver. -/
def methodNames (t : MethodTable) (type : String) : List String := (t.methodsOf type).keys

/-- A method of a receiver. -/
def declaration? (t : MethodTable) (type method : String) : Option MethodDeclaration :=
  (t.methodsOf type).get? method

/-- The methods of a receiver. -/
def declarations (t : MethodTable) (type : String) : List MethodDeclaration :=
  (t.methodsOf type).values

/-- The receivers with the names of their methods. -/
def items (t : MethodTable) : List (String × List String) :=
  t.types.entries.map fun (type, methods) => (type, methods.keys)

/-- Whether a receiver has methods. -/
def contains (t : MethodTable) (type : String) : Bool := t.types.contains type

/-- The number of receivers. -/
def size (t : MethodTable) : Nat := t.types.size

/-- A table as messages show it. -/
def display (t : MethodTable) : String :=
  let entry (item : String × List String) : String :=
    Text.Quoted.render item.1 ++ ": " ++ Text.Quoted.renderList item.2
  "TypeMethodSet(\x7b" ++ ", ".intercalate (t.items.map entry) ++ "\x7d)"

end MethodTable

end InterfaceAtlas
