import InterfaceAtlas.Declaration.Interfaces

/-!
# Methods of a syntax tree

A method belongs to the type of its receiver. The receiver is a type name, or a pointer to one; a
method with any other receiver is listed under no name.
-/

namespace InterfaceAtlas.Declaration

/-- The name of a pointer type: a star and the name of the type pointed to, comments passed over. -/
def pointerName (n : Node) : String :=
  match n.namedChildren.filter fun c => c.kind != "comment" with
  | [inner] => if inner.kind == "type_identifier" then "*" ++ inner.text else ""
  | _ => ""

/-- The name of the type that the first parameter of a receiver list has. -/
def receiverName (receiver : Node) : Logged String := do
  let parameters := receiver.namedChildren.filter fun c => c.kind == "parameter_declaration"
  match parameters.head?.bind fun p => p.child? "type" with
  | none => return ""
  | some type =>
    if type.kind == "type_identifier" then return type.text
    else if type.kind == "pointer_type" then return pointerName type
    else
      Logged.say .debug .methods
        ("Unsupported receiver shape " ++ type.kind ++ " at line " ++ lineText type)
      return ""

/-- The name of the receiver's type; empty where there is no receiver. -/
def receiverNameOf (receiver : Option Node) : Logged String :=
  match receiver with
  | none => pure ""
  | some r => receiverName r

/-- The method that a declaration introduces. -/
def methodOf (file : String) (n : Node) : Logged (Option MethodDeclaration) := do
  let name := fieldText n "name"
  if name == "" then return none
  else
    let receiver ← receiverNameOf (n.child? "receiver")
    return some
      { receiver, name, file
        start := Location.ofPoint file n.start
        stop := Location.ofPoint file n.stop }

/-- The methods that a tree declares, in source order. -/
def methodsOf (file : String) (root : Node) : Logged (List MethodDeclaration) :=
  root.dispatch fun kind => if kind == "method_declaration" then some (methodOf file) else none

end InterfaceAtlas.Declaration
