import InterfaceAtlas.Syntax.Point

/-!
# Declarations

What is known of a source file: the interfaces it declares with their methods, and the methods it
declares with a receiver.
-/

namespace InterfaceAtlas

/-- A place in a file: line and column count from zero, and columns count bytes. -/
structure Location where
  file : String
  line : Nat
  column : Nat
deriving DecidableEq, Repr, Inhabited

namespace Location

/-- A point of a file. -/
def ofPoint (file : String) (p : Point) : Location := ⟨file, p.row, p.column⟩

end Location

/-- A method that an interface names. -/
structure InterfaceMethod where
  name : String
  interfaceName : String
  location : Location
  /-- Where an editor puts a hint: the start of the line behind the method's first line. -/
  hint : Location
deriving DecidableEq, Repr, Inhabited

/-- An interface with the methods it names itself, in their order. -/
structure InterfaceDeclaration where
  name : String
  file : String
  /-- The place of the name. -/
  location : Location
  methods : List InterfaceMethod
deriving DecidableEq, Repr, Inhabited

namespace InterfaceDeclaration

/-- The names of the methods. -/
def methodNames (i : InterfaceDeclaration) : List String := i.methods.map (·.name)

/-- Whether the interface names the method. -/
def declares (i : InterfaceDeclaration) (method : String) : Bool :=
  i.methods.any fun m => m.name == method

end InterfaceDeclaration

/-- A method with a receiver. The receiver is `T`, or `*T` for a pointer; it is empty where the
receiver is no such type. -/
structure MethodDeclaration where
  receiver : String
  name : String
  file : String
  start : Location
  stop : Location
deriving DecidableEq, Repr, Inhabited

namespace MethodDeclaration

/-- Whether the receiver is a pointer. -/
def hasPointer (m : MethodDeclaration) : Bool := m.receiver.toList.head? == some '*'

end MethodDeclaration

end InterfaceAtlas
