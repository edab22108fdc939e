import InterfaceAtlas.Proofs.Syntax.Turns

/-!
# Counting errors

Errors are counted by a walk that goes on only below nodes that announce an error. Which nodes it
meets is `announced`, and `errorCount_eq` says that it counts the errors among them. Where every
error is announced by all nodes above it, no error is passed over (`countP_announced`).
-/

namespace InterfaceAtlas.Node

/-! ## The nodes that the count meets -/

/-- The trees that a count of errors goes on with after a node. -/
def opensFaults (n : Node) : List Node := if n.label.hasError then n.children else []

mutual

/-- The nodes that a count of errors meets. Of the children it comes to the last one first. -/
def announced : Node → List Node
  | mk l cs => mk l cs :: if l.hasError then announcedAll cs else []

/-- The nodes that a count of errors meets in several trees, the last tree first. -/
def announcedAll : List Node → List Node
  | [] => []
  | c :: cs => announcedAll cs ++ c.announced

end

lemma announcedAll_eq_flatMap (cs : List Node) :
    announcedAll cs = cs.reverse.flatMap announced := by
  induction cs with
  | nil => rfl
  | cons c cs ih =>
    rw [announcedAll, ih, List.reverse_cons, List.flatMap_append, List.flatMap_singleton]

lemma announced_mk (l : Label) (cs : List Node) :
    (mk l cs).announced = mk l cs :: if l.hasError then cs.reverse.flatMap announced else [] := by
  rw [announced, announcedAll_eq_flatMap]

/-- The count follows the order in which faults are announced. -/
lemma followsOrder_opensFaults : FollowsOrder opensFaults announced := by
  rintro ⟨l, cs⟩
  rw [announced_mk]
  cases herror : l.hasError <;> simp [opensFaults, label, children, herror]

/-! ## The count -/

/-- In whatever order the trees are gone over that a node opens, there are as many errors. -/
lemma countP_announced_eq (n : Node) :
    n.announced.countP isFault
      = ((opensFaults n).flatMap announced).countP isFault + if n.isFault then 1 else 0 := by
  have hperm := (List.reverse_perm (opensFaults n)).flatMap_right announced
  rw [followsOrder_opensFaults n, List.countP_cons, hperm.countP_eq]

/-- A stack holds the trees that are still to be gone over. -/
theorem countFaults_eq (stack : List Node) :
    countFaults stack = (stack.flatMap announced).countP isFault := by
  fun_induction countFaults stack with
  | case1 => rfl
  | case2 n stack ihBelow ihStack =>
    rw [ihBelow, ihStack, List.flatMap_cons, List.flatMap_append, List.countP_append,
      List.countP_append, countP_announced_eq, opensFaults]
    by_cases herror : n.label.hasError
    · rw [if_pos herror, if_pos herror]
      omega
    · rw [if_neg herror, if_neg herror, List.flatMap_nil, List.countP_nil]
      omega

theorem errorCount_eq (root : Node) : root.errorCount = root.announced.countP isFault := by
  rw [errorCount, countFaults_eq, List.flatMap_singleton]

/-! ## Errors that are announced -/

/-- A node below which there is an error announces it. -/
def AnnouncesFaults (n : Node) : Prop :=
  (∃ c ∈ n.children, ∃ m ∈ c.nodes, m.isFault) → n.label.hasError

instance (n : Node) : Decidable n.AnnouncesFaults :=
  inferInstanceAs (Decidable ((∃ c ∈ n.children, ∃ m ∈ c.nodes, m.isFault) → n.label.hasError))

/-- Where errors are announced, the count meets them all. -/
theorem countP_announced {root : Node} (hroot : ∀ n ∈ root.nodes, n.AnnouncesFaults) :
    root.announced.countP isFault = root.nodes.countP isFault := by
  induction root using Node.induction with
  | mk l cs ih =>
    rw [countP_announced_eq, nodes_mk, List.countP_cons]
    congr 1
    have hself : (mk l cs).AnnouncesFaults := hroot _ (mk l cs).self_mem_nodes
    by_cases herror : l.hasError
    · rw [opensFaults, if_pos (show (mk l cs).label.hasError from herror), List.countP_flatMap,
        List.countP_flatMap]
      refine congrArg List.sum (List.map_congr_left fun c hc => ih c hc fun n hn => ?_)
      exact hroot n (mem_nodes_of_mem_children hc hn)
    · rw [opensFaults, if_neg (show ¬(mk l cs).label.hasError from herror)]
      have hnone : ∀ m ∈ cs.flatMap nodes, ¬m.isFault := by
        intro m hm hfault
        obtain ⟨c, hc, hmc⟩ := List.mem_flatMap.mp hm
        exact herror (hself ⟨c, hc, m, hmc, hfault⟩)
      exact (List.countP_eq_zero.mpr hnone).symm

/-- **Counting errors.** Where each node below which there is an error announces it, all errors of a
tree are counted, those of nodes without a name too. The walk that counts them comes to an end. And
if nothing else is announced but errors, a tree that announces some has some. -/
theorem errorCount_complete (root : Node) (hroot : ∀ n ∈ root.nodes, n.AnnouncesFaults) :
    root.errorCount = root.nodes.countP isFault
      ∧ (∃ last, (∀ turns, (Progress.after opensFaults root turns).waiting = [] ↔ last ≤ turns)
        ∧ (Progress.after opensFaults root last).met.countP isFault = root.errorCount)
      ∧ ((∀ n ∈ root.nodes, n.label.hasError → ∃ m ∈ n.nodes, m.isFault) →
        root.label.hasError → 0 < root.errorCount) := by
  have hcount : root.errorCount = root.nodes.countP isFault := by
    rw [errorCount_eq, countP_announced hroot]
  refine ⟨hcount, ⟨root.announced.length, ?_, ?_⟩, fun honly herror => ?_⟩
  · exact Progress.waiting_after_eq_nil_iff followsOrder_opensFaults root
  · rw [Progress.met_after followsOrder_opensFaults, List.take_length, errorCount_eq]
  · rw [hcount, List.countP_pos_iff]
    exact honly root root.self_mem_nodes herror

/-- A method with an error in an error, and with a bracket that was made up. -/
def torn : Node :=
  .mk { kind := "source_file", hasError := true } [
    .mk { kind := "method_declaration", hasError := true } [
      .mk { kind := "ERROR", hasError := true } [
        .mk { kind := "identifier" } [],
        .mk { kind := "ERROR", hasError := true } []],
      .mk { kind := ")", named := false, missing := true } []],
    .mk { kind := "comment" } []]

/-- Three faults on different levels of a tree, each announced by the nodes above it. -/
theorem errorCount_complete_torn :
    (∀ n ∈ torn.nodes, n.AnnouncesFaults)
      ∧ (∀ n ∈ torn.nodes, n.label.hasError → ∃ m ∈ n.nodes, m.isFault)
      ∧ torn.errorCount = 3 ∧ 0 < torn.errorCount := by
  have hannounces : ∀ n ∈ torn.nodes, n.AnnouncesFaults := by decide
  have honly : ∀ n ∈ torn.nodes, n.label.hasError → ∃ m ∈ n.nodes, m.isFault := by decide
  obtain ⟨hcount, -, hpositive⟩ := errorCount_complete torn hannounces
  exact ⟨hannounces, honly, hcount.trans (by decide), hpositive honly (by decide)⟩

end InterfaceAtlas.Node
