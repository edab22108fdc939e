import InterfaceAtlas.Declaration.Basic
import InterfaceAtlas.Json.Basic

/-!
# Answers on the wire

The shapes in which editors receive declarations.
-/

namespace InterfaceAtlas.Wire

/-- A place. -/
def location (l : Location) : Json :=
  .object [("file", .text l.file), ("line", .nat l.line), ("column", .nat l.column)]

/-- The member for the end of a declaration, where it is asked for. -/
def ending (withEnd : Bool) (l : Location) : List (String × Json) :=
  if withEnd then [("endLocation", location l)] else []

/-- A method that an interface names. -/
def interfaceMethod (withEnd : Bool) (m : InterfaceMethod) : Json :=
  .object ([("name", .text m.name), ("interfaceName", .text m.interfaceName),
    ("location", location m.location)] ++ ending withEnd m.hint)

/-- A method with a receiver. -/
def methodDeclaration (withEnd : Bool) (d : MethodDeclaration) : Json :=
  .object ([("methodName", .text d.name), ("receiverType", .text d.receiver),
    ("location", location d.start)] ++ ending withEnd d.stop)

/-- The answer that lists interface methods. -/
def interfaces (withEnd : Bool) (ms : List InterfaceMethod) : Json :=
  .object [("interfaces", .list (ms.map (interfaceMethod withEnd)))]

/-- The answer that lists methods. -/
def implementations (withEnd : Bool) (ds : List MethodDeclaration) : Json :=
  .object [("implementations", .list (ds.map (methodDeclaration withEnd)))]

end InterfaceAtlas.Wire
