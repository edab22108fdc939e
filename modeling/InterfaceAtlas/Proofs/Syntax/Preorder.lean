import InterfaceAtlas.Proofs.Journal.Outcome
import InterfaceAtlas.Proofs.Syntax.Turns

/-!
# The order of a walk

The walk over a tree meets the nodes in the order of their addresses: an address says at which child
to go on, again and again from the root (`at?`), and addresses are ordered as words are. The walk
never sees one, but keeps a list of trees that wait. Here is that it comes to the same:

* `mem_placed_iff` and `pairwise_placed`: the list of all nodes has each address once, in order;
* `walk_inOrder`: this is what the turns of the walk go through, and what handlers make of a tree is
  what they make of its root and then of its children.
-/

namespace InterfaceAtlas

/-! ## Collecting from several lists -/

namespace Logged

variable {α β : Type}

lemma collect_append (f : α → Logged (Option β)) (xs ys : List α) :
    collect f (xs ++ ys) = do
      let front ← collect f xs
      let back ← collect f ys
      return front ++ back := by
  induction xs with
  | nil => simp [collect]
  | cons a more ih =>
    rw [List.cons_append, collect, collect, ih, bind_assoc]
    refine congrArg _ (funext fun found => ?_)
    cases found <;> simp

lemma collect_flatMap {γ : Type} (f : α → Logged (Option β)) (g : γ → List α) (xs : List γ) :
    collect f (xs.flatMap g) = do
      let parts ← xs.mapM fun x => collect f (g x)
      return parts.flatten := by
  induction xs with
  | nil => rfl
  | cons x more ih => simp [collect_append, ih]

end Logged

namespace Node

/-! ## Addresses -/

/-- The subtree at an address. -/
def at? (n : Node) : List Nat → Option Node
  | [] => some n
  | i :: more => n.children[i]?.bind fun c => c.at? more

mutual

/-- The nodes of a tree with their addresses. -/
def placed : Node → List (List Nat × Node)
  | mk l cs => ([], mk l cs) :: placedAll 0 cs

/-- The nodes of several children with their addresses, the first child being number `i`. -/
def placedAll (i : Nat) : List Node → List (List Nat × Node)
  | [] => []
  | c :: cs => c.placed.map (fun e => (i :: e.1, e.2)) ++ placedAll (i + 1) cs

end

lemma placedAll_eq_flatMap (i : Nat) (cs : List Node) :
    placedAll i cs
      = (cs.zipIdx i).flatMap fun c => c.1.placed.map fun e => (c.2 :: e.1, e.2) := by
  induction cs generalizing i with
  | nil => rfl
  | cons c cs ih => rw [placedAll, ih, List.zipIdx_cons, List.flatMap_cons]

lemma placed_mk (l : Label) (cs : List Node) :
    (mk l cs).placed = ([], mk l cs)
      :: cs.zipIdx.flatMap fun c => c.1.placed.map fun e => (c.2 :: e.1, e.2) := by
  rw [placed, placedAll_eq_flatMap]

lemma map_snd_placed (n : Node) : n.placed.map Prod.snd = n.nodes := by
  induction n using Node.induction with
  | mk l cs ih =>
    rw [placed_mk, nodes_mk, List.map_cons, List.map_flatMap]
    refine congrArg _ ?_
    have hbelow : ∀ c ∈ cs.zipIdx,
        (c.1.placed.map fun e => (c.2 :: e.1, e.2)).map Prod.snd = c.1.nodes := by
      intro c hc
      rw [List.map_map]
      exact ih c.1 (List.mem_of_getElem? (List.mem_zipIdx_iff_getElem?.mp hc))
    rw [List.flatMap_congr hbelow, ← List.flatMap_map, List.zipIdx_map_fst]

/-- A node is listed at an address exactly if it is there. -/
theorem mem_placed_iff {n m : Node} {place : List Nat} :
    (place, m) ∈ n.placed ↔ n.at? place = some m := by
  induction n using Node.induction generalizing place with
  | mk l cs ih =>
    rw [placed_mk, List.mem_cons, List.mem_flatMap]
    cases place with
    | nil => simp [at?, eq_comm]
    | cons i more =>
      have hchild : (∃ c ∈ cs.zipIdx, (i :: more, m) ∈ c.1.placed.map fun e => (c.2 :: e.1, e.2))
          ↔ ∃ c, cs[i]? = some c ∧ (more, m) ∈ c.placed := by
        simp [List.mem_zipIdx_iff_getElem?]
      rw [hchild, at?, Option.bind_eq_some_iff, or_iff_right (by simp)]
      refine exists_congr fun c => and_congr_right fun hc => ?_
      exact ih c (List.mem_of_getElem? hc)

/-- A node comes before all that is below it, and what is below a child before what is below the
next. -/
theorem pairwise_placed (n : Node) : n.placed.Pairwise fun a b => a.1 < b.1 := by
  induction n using Node.induction with
  | mk l cs ih =>
    rw [placed_mk, List.pairwise_cons, List.pairwise_flatMap]
    refine ⟨fun e he => ?_, fun c hc => ?_, ?_⟩
    · obtain ⟨c, -, hec⟩ := List.mem_flatMap.mp he
      obtain ⟨e', -, rfl⟩ := List.mem_map.mp hec
      exact List.nil_lt_cons _ _
    · have hchild := ih c.1 (List.mem_of_getElem? (List.mem_zipIdx_iff_getElem?.mp hc))
      refine List.pairwise_map.mpr (hchild.imp fun hab => ?_)
      exact List.cons_lt_cons_iff.mpr (.inr ⟨rfl, hab⟩)
    · have hnumbers : (cs.zipIdx.map Prod.snd).Pairwise (· < ·) := by
        rw [List.zipIdx_map_snd]
        exact List.pairwise_lt_range'
      refine (List.pairwise_map.mp hnumbers).imp fun {c d} hcd a ha b hb => ?_
      obtain ⟨a', -, rfl⟩ := List.mem_map.mp ha
      obtain ⟨b', -, rfl⟩ := List.mem_map.mp hb
      exact List.cons_lt_cons_iff.mpr (.inl hcd)

/-- The named nodes have their addresses once each, in order. -/
lemma exists_placed_namedNodes (root : Node) :
    ∃ found : List (List Nat × Node), found.map Prod.snd = root.namedNodes
      ∧ (found.Pairwise fun a b => a.1 < b.1)
      ∧ ∀ place n, (place, n) ∈ found ↔ root.at? place = some n ∧ n.named := by
  refine ⟨root.placed.filter fun e => e.2.named, ?_, root.pairwise_placed.filter _, ?_⟩
  · rw [namedNodes_eq, ← map_snd_placed, List.filter_map]
    rfl
  · intro place n
    rw [List.mem_filter, mem_placed_iff]

/-! ## Walks with handlers -/

variable {α : Type}

/-- Handlers go over a tree as over its root and then over its children. -/
theorem dispatch_eq (handlers : String → Option (Handler α)) (root : Node) :
    root.dispatch handlers = do
      let own ← root.handle handlers
      let below ← root.children.mapM (dispatch handlers)
      return own.toList ++ below.flatten := by
  have hbelow : dispatch handlers = fun c => Logged.collect (handle handlers) c.nodes :=
    funext (dispatch_eq_collect_handle handlers)
  rw [dispatch_eq_collect_handle, hbelow, nodes_eq, Logged.collect, Logged.collect_flatMap]
  refine congrArg _ (funext fun own => ?_)
  cases own <;> simp

/-! ## The walk over a tree -/

/-- The children of a node, the first of them last, so that it is next. -/
def backwards (n : Node) : List Node := n.children.reverse

lemma followsOrder_backwards : FollowsOrder backwards nodes := by
  intro n
  rw [backwards, List.reverse_reverse, nodes_eq]

/-- **The walk over a tree.** Each turn meets the next of the nodes in their order, and after as
many turns as there are nodes no tree waits. What the walk gives are the named nodes among them,
whatever they stand below; they come in the order of their addresses, and each address comes once.
Handlers make of a tree what they make of its root and then of its children, one after the other. -/
theorem walk_inOrder (handlers : String → Option (Handler α)) (root : Node) :
    (∀ turns, (Progress.after backwards root turns).met = root.nodes.take turns
        ∧ ((Progress.after backwards root turns).waiting = [] ↔ root.nodes.length ≤ turns))
      ∧ root.namedNodes = root.nodes.filter named
      ∧ (∃ found : List (List Nat × Node), found.map Prod.snd = root.namedNodes
        ∧ (found.Pairwise fun a b => a.1 < b.1)
        ∧ ∀ place n, (place, n) ∈ found ↔ root.at? place = some n ∧ n.named)
      ∧ root.dispatch handlers = do
        let own ← root.handle handlers
        let below ← root.children.mapM (dispatch handlers)
        return own.toList ++ below.flatten := by
  refine ⟨fun turns => ⟨?_, ?_⟩, root.namedNodes_eq, root.exists_placed_namedNodes,
    root.dispatch_eq handlers⟩
  · exact Progress.met_after followsOrder_backwards root turns
  · exact Progress.waiting_after_eq_nil_iff followsOrder_backwards root turns

end Node

end InterfaceAtlas
