import InterfaceAtlas.Syntax.Walk
import Mathlib.Data.List.Basic

/-!
# The nodes of a tree

`Node.nodes` lists all nodes of a tree by recursion, each before the nodes below it. The walk with a
stack goes over the same list and leaves out what is not named (`namedNodes_eq`), so what handlers
make of a tree can be read off the list (`dispatch_eq_collect`).
-/

namespace InterfaceAtlas

/-! ## Collecting -/

namespace Logged

variable {α β γ : Type}

/-- A member for which there is nothing to say and nothing to collect makes no difference. -/
lemma collect_cons_of_eq_none {f : α → Logged (Option β)} {a : α} (h : f a = pure none)
    (more : List α) : collect f (a :: more) = collect f more := by
  rw [collect, h]
  rfl

lemma collect_map (f : β → Logged (Option γ)) (g : α → β) (xs : List α) :
    collect f (xs.map g) = collect (fun a => f (g a)) xs := by
  induction xs with
  | nil => rfl
  | cons a more ih => rw [List.map_cons, collect, collect, ih]

lemma collect_congr {f g : α → Logged (Option β)} {xs : List α} (h : ∀ a ∈ xs, f a = g a) :
    collect f xs = collect g xs := by
  induction xs with
  | nil => rfl
  | cons a more ih =>
    rw [collect, collect, h a List.mem_cons_self,
      ih fun b hb => h b (List.mem_cons_of_mem a hb)]

/-- What passes no test may be left out if there is nothing to be had from it. -/
lemma collect_filter {f : α → Logged (Option β)} (test : α → Bool) {xs : List α}
    (h : ∀ a ∈ xs, test a = false → f a = pure none) :
    collect f (xs.filter test) = collect f xs := by
  induction xs with
  | nil => rfl
  | cons a more ih =>
    have hmore := ih fun b hb => h b (List.mem_cons_of_mem a hb)
    cases htest : test a with
    | true => rw [List.filter_cons_of_pos htest, collect, collect, hmore]
    | false =>
      rw [List.filter_cons_of_neg (by rw [htest]; decide), hmore,
        collect_cons_of_eq_none (h a List.mem_cons_self htest)]

end Logged

namespace Node

/-! ## All nodes -/

/-- A property of all trees that a tree has whenever its children have it. -/
@[elab_as_elim]
theorem induction {motive : Node → Prop}
    (mk : ∀ label children, (∀ c ∈ children, motive c) → motive (Node.mk label children)) :
    ∀ n, motive n
  | .mk label children => mk label children fun c _ => induction mk c

mutual

/-- The nodes of a tree, the root first. -/
def nodes : Node → List Node
  | mk l cs => mk l cs :: nodesAll cs

/-- The nodes of several trees, one tree after the other. -/
def nodesAll : List Node → List Node
  | [] => []
  | c :: cs => c.nodes ++ nodesAll cs

end

lemma nodesAll_eq_flatMap (cs : List Node) : nodesAll cs = cs.flatMap nodes := by
  induction cs with
  | nil => rfl
  | cons c cs ih => rw [nodesAll, ih, List.flatMap_cons]

lemma nodes_mk (l : Label) (cs : List Node) : (mk l cs).nodes = mk l cs :: cs.flatMap nodes := by
  rw [nodes, nodesAll_eq_flatMap]

/-- The nodes of a tree are its root and then those of its children. -/
lemma nodes_eq (n : Node) : n.nodes = n :: n.children.flatMap nodes := by
  cases n with
  | mk l cs => exact nodes_mk l cs

lemma self_mem_nodes (n : Node) : n ∈ n.nodes := by
  rw [nodes_eq]
  exact List.mem_cons_self

lemma mem_nodes_of_mem_children {n c m : Node} (hc : c ∈ n.children) (hm : m ∈ c.nodes) :
    m ∈ n.nodes := by
  rw [nodes_eq]
  exact List.mem_cons_of_mem n (List.mem_flatMap_of_mem hc hm)

/-- What lies below a node of a tree is a node of the tree. -/
lemma mem_nodes_trans {n m x : Node} (hm : m ∈ n.nodes) (hx : x ∈ m.nodes) : x ∈ n.nodes := by
  induction n using Node.induction with
  | mk l cs ih =>
    rw [nodes_mk, List.mem_cons] at hm
    rcases hm with rfl | hm
    · exact hx
    · obtain ⟨c, hc, hmc⟩ := List.mem_flatMap.mp hm
      exact mem_nodes_of_mem_children hc (ih c hc hmc)

lemma children_subset_nodes {n m : Node} (hm : m ∈ n.nodes) : m.children ⊆ n.nodes :=
  fun c hc => mem_nodes_trans hm (mem_nodes_of_mem_children hc c.self_mem_nodes)

/-! ## The walk -/

/-- A stack holds the trees that are still to be gone over, the next one on top. -/
theorem visit_eq (stack : List Node) : visit stack = (stack.flatMap nodes).filter named := by
  fun_induction visit stack with
  | case1 => rfl
  | case2 n stack hnamed ih =>
    rw [ih, List.flatMap_append, List.flatMap_cons, nodes_eq n, List.cons_append,
      List.filter_cons_of_pos hnamed]
  | case3 n stack hnamed ih =>
    rw [ih, List.flatMap_append, List.flatMap_cons, nodes_eq n, List.cons_append,
      List.filter_cons_of_neg hnamed]

/-- The walk over named nodes meets them in the order of all nodes. -/
theorem namedNodes_eq (root : Node) : root.namedNodes = root.nodes.filter named := by
  rw [namedNodes, visit_eq, List.flatMap_singleton]

/-! ## Handlers -/

variable {α : Type}

/-- What a node's handler makes of it. A node that is not named has none. -/
def handle (handlers : String → Option (Handler α)) (n : Node) : Logged (Option α) :=
  if n.named then
    match handlers n.kind with
    | some handler => handler n
    | none => pure none
  else pure none

/-- To dispatch is to handle each node in its turn. -/
lemma dispatch_eq_collect_handle (handlers : String → Option (Handler α)) (root : Node) :
    root.dispatch handlers = Logged.collect (handle handlers) root.nodes := by
  have hnamed : Logged.collect (handle handlers) (root.nodes.filter named)
      = Logged.collect (handle handlers) root.nodes := by
    refine Logged.collect_filter named fun n _ hn => ?_
    rw [handle, if_neg (by rw [hn]; decide)]
  rw [dispatch, namedNodes_eq, ← hnamed]
  refine Logged.collect_congr fun n hn => ?_
  exact (if_pos (List.mem_filter.mp hn).2).symm

/-- Where all kinds with a handler have the same, it gets the named nodes of these kinds, and no
others. -/
theorem dispatch_eq_collect (isHandled : String → Bool) (handler : Handler α) (root : Node) :
    root.dispatch (fun kind => if isHandled kind then some handler else none)
      = Logged.collect handler (root.nodes.filter fun n => n.named && isHandled n.kind) := by
  rw [dispatch_eq_collect_handle, ← Logged.collect_filter fun n => n.named && isHandled n.kind]
  · refine Logged.collect_congr fun n hn => ?_
    obtain ⟨hnamed, hhandled⟩ := Bool.and_eq_true_iff.mp (List.mem_filter.mp hn).2
    rw [handle, if_pos hnamed, if_pos hhandled]
  · intro n _ hn
    rw [handle]
    split
    · next hnamed =>
      rw [hnamed, Bool.true_and] at hn
      rw [if_neg (by rw [hn]; decide)]
    · rfl

end Node

end InterfaceAtlas
