import InterfaceAtlas.Declaration.Basic
import InterfaceAtlas.Decimal.Positional
import InterfaceAtlas.Syntax.Walk
import InterfaceAtlas.Text.Quoted

/-!
# Interfaces of a syntax tree

An interface is a type declaration whose type is an interface literal. Of its elements only those
count that name a method; embedded interfaces and type sets are passed over. Grammars differ in how
they spell an element and in whether the elements stand in a list of their own; both are read.
-/

namespace InterfaceAtlas.Declaration

/-- Whether a kind of node declares a named type. -/
def declaresType (kind : String) : Bool := kind == "type_spec" || kind == "type_alias"

/-- Whether a kind of node is an element with a method name. -/
def namesMethod (kind : String) : Bool := kind == "method_elem" || kind == "method_spec"

/-- A number that counts from one, as messages show lines. -/
def lineText (n : Node) : String := Decimal.ofInt (n.start.row + 1)

/-- The start of the line behind the first line of a node. -/
def hintAfter (file : String) (n : Node) : Location := ⟨file, n.start.row + 1, 0⟩

/-- The text of the child in a role; empty if there is none. -/
def fieldText (n : Node) (field : String) : String := ((n.child? field).map Node.text).getD ""

/-- The method that an element of the interface `owner` names, if it names one. -/
def interfaceMethod (owner file : String) (n : Node) : Logged (Option InterfaceMethod) := do
  if namesMethod n.kind then
    let name := fieldText n "name"
    if name == "" then
      Logged.say .debug .interfaces
        ("Interface " ++ owner ++ " has an unnamed method entry at line " ++ lineText n)
      return none
    else
      return some
        { name, interfaceName := owner
          location := Location.ofPoint file n.start
          hint := hintAfter file n }
  else return none

/-- The elements of an interface literal; a list of elements stands for its members. -/
def interfaceElements (n : Node) : List Node :=
  n.namedChildren.flatMap fun c =>
    if c.kind == "method_spec_list" then c.namedChildren else [c]

/-- The interface that a type declaration introduces, if its type is an interface literal. -/
def interfaceOf (file : String) (n : Node) : Logged (Option InterfaceDeclaration) := do
  match n.child? "type", n.child? "name" with
  | some literal, some nameNode =>
    if literal.kind != "interface_type" || nameNode.text == "" then return none
    else
      let name := nameNode.text
      let methods ← Logged.collect (interfaceMethod name file) (interfaceElements literal)
      Logged.say .debug .interfaces
        ("Interface " ++ name ++ " at " ++ file ++ ":" ++ lineText n ++ " declares "
          ++ Text.Quoted.renderList (methods.map (·.name)))
      return some { name, file, location := Location.ofPoint file nameNode.start, methods }
  | _, _ => return none

/-- The interfaces that a tree declares, in source order. -/
def interfacesOf (file : String) (root : Node) : Logged (List InterfaceDeclaration) :=
  root.dispatch fun kind => if declaresType kind then some (interfaceOf file) else none

end InterfaceAtlas.Declaration
