import InterfaceAtlas.Journal.Logged
import InterfaceAtlas.Syntax.Node

/-!
# Walks over syntax trees

`Node.visit` goes over the trees of a stack in source order, parents before children, and gives the
named nodes it meets; `Node.dispatch` hands each of them to the handler of its kind.
`Node.errorCount` counts the errors of a tree and looks only where an error is announced.
-/

namespace InterfaceAtlas.Node

mutual

/-- The number of nodes of a tree. -/
def size : Node → Nat
  | mk _ cs => 1 + sizeAll cs

/-- The number of nodes of several trees. -/
def sizeAll : List Node → Nat
  | [] => 0
  | c :: cs => c.size + sizeAll cs

end

theorem sizeAll_append (xs ys : List Node) : sizeAll (xs ++ ys) = sizeAll xs + sizeAll ys := by
  induction xs with
  | nil => rw [List.nil_append, sizeAll, Nat.zero_add]
  | cons x xs ih => rw [List.cons_append, sizeAll, sizeAll, ih, Nat.add_assoc]

theorem size_pos (n : Node) : 0 < n.size := by
  cases n with
  | mk l cs => rw [size]; omega

/-- Taking a tree away leaves fewer nodes on the stack. -/
theorem sizeAll_lt_cons (n : Node) (stack : List Node) : sizeAll stack < sizeAll (n :: stack) := by
  have h := size_pos n
  rw [sizeAll]
  omega

/-- Taking a tree apart leaves one node less on the stack. -/
theorem sizeAll_children_append (n : Node) (stack : List Node) :
    sizeAll (n.children ++ stack) < sizeAll (n :: stack) := by
  cases n with
  | mk l cs =>
    rw [children, sizeAll_append, sizeAll, size]
    omega

/-- The named nodes of the trees on a stack. A tree is taken from the top, and its children are put
in its place. -/
def visit : List Node → List Node
  | [] => []
  | n :: stack =>
    if n.named then n :: visit (n.children ++ stack) else visit (n.children ++ stack)
termination_by stack => sizeAll stack
decreasing_by all_goals exact sizeAll_children_append n stack

/-- The named nodes of a tree, in source order. -/
def namedNodes (root : Node) : List Node := visit [root]

/-- A handler makes something of a node, or nothing. -/
abbrev Handler (α : Type) := Node → Logged (Option α)

/-- The results of the handlers, in source order. A kind without a handler is passed over. -/
def dispatch {α : Type} (handlers : String → Option (Handler α)) (root : Node) :
    Logged (List α) :=
  Logged.collect (fun n =>
    match handlers n.kind with
    | some handler => handler n
    | none => pure none) root.namedNodes

/-- Whether a node is an error itself. -/
def isFault (n : Node) : Bool := n.kind == "ERROR" || n.label.missing

/-- The number of errors on a stack; below a node that announces none, no one looks. -/
def countFaults : List Node → Nat
  | [] => 0
  | n :: stack =>
    (if n.isFault then 1 else 0)
      + if n.label.hasError then countFaults (n.children ++ stack) else countFaults stack
termination_by stack => sizeAll stack
decreasing_by
  · exact sizeAll_children_append n stack
  · exact sizeAll_lt_cons n stack

/-- The number of errors of a tree. -/
def errorCount (root : Node) : Nat := countFaults [root]

end InterfaceAtlas.Node
