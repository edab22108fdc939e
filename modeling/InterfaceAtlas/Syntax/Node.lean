import InterfaceAtlas.Syntax.Point
import InterfaceAtlas.Text.Utf8

/-!
# Syntax trees

A node has a label and the list of its children. Labels carry all that a reader of the tree may
ask for: the kind, the text, the span, the role in the parent (`field`) and the flags of a parse.
-/

namespace InterfaceAtlas

/-- What a node says about itself. -/
structure Label where
  /-- The grammatical kind, such as `type_spec`. -/
  kind : String
  /-- The bytes of the node; none when the node has no text of its own. -/
  text : Option (List UInt8) := none
  /-- False for punctuation and keywords. -/
  named : Bool := true
  /-- A node that the parser had to make up. -/
  missing : Bool := false
  /-- The subtree holds a syntax error. -/
  hasError : Bool := false
  start : Point := Point.origin
  stop : Point := Point.origin
  /-- The role that the node plays in its parent. -/
  field : Option String := none
deriving DecidableEq, Repr, Inhabited

/-- A syntax tree. -/
inductive Node where
  | mk (label : Label) (children : List Node)
deriving Repr, Inhabited

namespace Node

/-- The label of the root. -/
def label : Node → Label
  | mk l _ => l

/-- The subtrees below the root, in source order. -/
def children : Node → List Node
  | mk _ cs => cs

/-- The kind of the root. -/
def kind (n : Node) : String := n.label.kind

/-- Where the root starts. -/
def start (n : Node) : Point := n.label.start

/-- Where the root ends. -/
def stop (n : Node) : Point := n.label.stop

/-- Whether the root is a named node. -/
def named (n : Node) : Bool := n.label.named

/-- The children that are named. -/
def namedChildren (n : Node) : List Node := n.children.filter named

/-- The first child that plays the role `field`. -/
def child? (n : Node) (field : String) : Option Node :=
  n.children.find? fun c => c.label.field == some field

/-- The text of the root, with faults of its encoding replaced; empty when it has none. -/
def text (n : Node) : String :=
  match n.label.text with
  | some bytes => String.ofList (Text.Utf8.decodeLossy bytes)
  | none => ""

/-- The tree with the root in the role `field`. -/
def inField (field : String) : Node → Node
  | mk l cs => mk { l with field := some field } cs

/-- A tree that spans its children, from the start of the first to the end of the last. -/
def branch (kind : String) (children : List Node) : Node :=
  mk { kind,
       hasError := children.any (·.label.hasError),
       start := (children.head?.map start).getD Point.origin,
       stop := (children.getLast?.map stop).getD Point.origin } children

end Node

end InterfaceAtlas
