import InterfaceAtlas.Declaration.Interfaces
import InterfaceAtlas.Proofs.Syntax.Walk

/-!
# Interfaces in two grammars

Grammars differ in how they put the elements of an interface literal. `Node.older` takes a tree from
the one form to the other: the children of each literal get into a list of their own, and an element
with a method name gets another kind. The rewriting keeps the declarations of types and their order
(`filter_nodes_older`) and all that is read off each of them (`interfaceOf_older`), so it makes no
difference to the interfaces of a tree (`interfacesOf_older`).
-/

namespace InterfaceAtlas

/-- The label of a node in the older grammar, which has another word for an element with a method
name. -/
def Label.older (l : Label) : Label :=
  if l.kind = "method_elem" then { l with kind := "method_spec" } else l

/-- The label made that of a list of elements. -/
def Label.asElementList (l : Label) : Label := { l with kind := "method_spec_list", named := true }

namespace Node

mutual

/-- The tree in the older grammar. A list of elements that comes in gets all else of its label from
`list`, for the literal that it stands in. -/
def older (list : Node → Label) : Node → Node
  | mk l cs =>
    mk l.older
      (if l.kind = "interface_type" then
        [mk (list (mk l cs)).asElementList (olderAll list cs)]
      else olderAll list cs)

/-- Several trees in the older grammar. -/
def olderAll (list : Node → Label) : List Node → List Node
  | [] => []
  | c :: cs => c.older list :: olderAll list cs

end

variable {list : Node → Label} {n : Node}

/-! ## Labels and children -/

lemma olderAll_eq_map (list : Node → Label) (cs : List Node) :
    olderAll list cs = cs.map (older list) := by
  induction cs with
  | nil => rfl
  | cons c cs ih => rw [olderAll, ih, List.map_cons]

/-- The older grammar has a list of methods between an interface and its elements. -/
lemma older_mk (list : Node → Label) (l : Label) (cs : List Node) :
    (mk l cs).older list = mk l.older
      (if l.kind = "interface_type" then
        [mk (list (mk l cs)).asElementList (cs.map (older list))]
      else cs.map (older list)) := by
  rw [older, olderAll_eq_map]

@[simp] lemma label_older (list : Node → Label) (n : Node) :
    (n.older list).label = n.label.older := by
  cases n with
  | mk l cs => rw [older_mk, label, label]

/-- Methods of interfaces have another kind in the older grammar, and nothing else has. -/
lemma kind_older (list : Node → Label) (n : Node) :
    (n.older list).kind = if n.kind = "method_elem" then "method_spec" else n.kind := by
  rw [kind, label_older, Label.older, kind]
  split <;> rfl

@[simp] lemma named_older (list : Node → Label) (n : Node) : (n.older list).named = n.named := by
  rw [named, label_older, Label.older, named]
  split <;> rfl

@[simp] lemma start_older (list : Node → Label) (n : Node) : (n.older list).start = n.start := by
  rw [start, label_older, Label.older, start]
  split <;> rfl

@[simp] lemma text_older (list : Node → Label) (n : Node) : (n.older list).text = n.text := by
  have htext : n.label.older.text = n.label.text := by
    rw [Label.older]
    split <;> rfl
  rw [text, text, label_older, htext]

@[simp] lemma field_older (list : Node → Label) (n : Node) :
    (n.older list).label.field = n.label.field := by
  rw [label_older, Label.older]
  split <;> rfl

/-- A literal gets one child, which holds the others. -/
lemma children_older_of_literal (h : n.kind = "interface_type") :
    (n.older list).children = [mk (list n).asElementList (n.children.map (older list))] := by
  cases n with
  | mk l cs =>
    rw [older_mk, if_pos (show l.kind = "interface_type" from h)]
    rfl

/-- Any other node keeps its children. -/
lemma children_older (h : n.kind ≠ "interface_type") :
    (n.older list).children = n.children.map (older list) := by
  cases n with
  | mk l cs =>
    rw [older_mk, if_neg (show l.kind ≠ "interface_type" from h)]
    rfl

/-- Children in a role are found alike, except in an interface, where they lie deeper. -/
lemma child?_older (h : n.kind ≠ "interface_type") (field : String) :
    (n.older list).child? field = (n.child? field).map (older list) := by
  rw [child?, children_older h, List.find?_map, child?]
  congr 2
  funext c
  exact congrArg (· == some field) (field_older list c)

lemma filter_named_older (list : Node → Label) (cs : List Node) :
    (cs.map (older list)).filter named = (cs.filter named).map (older list) := by
  rw [List.filter_map]
  congr 2
  funext c
  exact named_older list c

end Node

namespace Declaration

open Node

variable {list : Node → Label} {n : Node}

/-! ## Declarations of types -/

/-- What does not tell the two words for an element apart does not see the rewriting. -/
lemma test_kind_older (test : String → Bool) (h : test "method_spec" = test "method_elem")
    (list : Node → Label) (n : Node) : test (n.older list).kind = test n.kind := by
  rw [kind_older]
  split
  · next hkind => rw [h, hkind]
  · rfl

/-- A kind that passes a test which literals do not pass is another. -/
lemma kind_ne_of_test (test : String → Bool) (hliteral : test "interface_type" = false)
    (h : test n.kind = true) : n.kind ≠ "interface_type" := by
  intro hkind
  rw [hkind, hliteral] at h
  exact Bool.false_ne_true h

/-- What declares a type is the same in both grammars. -/
lemma declaresType_older (list : Node → Label) (n : Node) :
    declaresType (n.older list).kind = declaresType n.kind :=
  test_kind_older declaresType (by decide) list n

/-- The declarations of types stay where they are. The literals and their lists, which are no
declarations, are all that comes in between. -/
lemma filter_nodes_older (list : Node → Label) (n : Node) :
    ((n.older list).nodes.filter fun m => m.named && declaresType m.kind)
      = (n.nodes.filter fun m => m.named && declaresType m.kind).map (older list) := by
  induction n using Node.induction with
  | mk l cs ih =>
    have hbelow : ((cs.map (older list)).flatMap nodes).filter
          (fun m => m.named && declaresType m.kind)
        = ((cs.flatMap nodes).filter fun m => m.named && declaresType m.kind).map (older list) := by
      rw [List.flatMap_map, List.filter_flatMap, List.filter_flatMap, List.map_flatMap]
      exact List.flatMap_congr ih
    rw [nodes_eq ((mk l cs).older list), nodes_mk, List.filter_cons, List.filter_cons, named_older,
      declaresType_older]
    -- Only a literal is not followed by its children at once, but by the list that holds them.
    by_cases hliteral : (mk l cs).kind = "interface_type"
    · have hnot : ((mk l cs).named && declaresType (mk l cs).kind) = false := by
        rw [hliteral]
        exact Bool.and_false _
      rw [hnot, if_neg Bool.false_ne_true, if_neg Bool.false_ne_true,
        children_older_of_literal hliteral, List.flatMap_singleton, nodes_mk,
        List.filter_cons_of_neg (by exact Bool.false_ne_true)]
      exact hbelow
    · rw [children_older hliteral]
      split
      · exact congrArg (List.cons _) hbelow
      · exact hbelow

/-! ## What is read off a declaration -/

/-- Lines have the same numbers in both grammars. -/
lemma lineText_older (list : Node → Label) (n : Node) : lineText (n.older list) = lineText n := by
  rw [lineText, start_older, lineText]

/-- The texts of fields are the same in both grammars. -/
lemma fieldText_older (h : n.kind ≠ "interface_type") (field : String) :
    fieldText (n.older list) field = fieldText n field := by
  rw [fieldText, child?_older h, fieldText, Option.map_map]
  congr 2
  funext c
  exact text_older list c

/-- Both words for an element are read, and an element keeps its name and its place. -/
lemma interfaceMethod_older (owner file : String) (list : Node → Label) (n : Node) :
    interfaceMethod owner file (n.older list) = interfaceMethod owner file n := by
  rw [interfaceMethod, interfaceMethod, test_kind_older namesMethod (by decide)]
  by_cases hnames : namesMethod n.kind = true
  · have hne := kind_ne_of_test namesMethod (by decide) hnames
    rw [if_pos hnames, if_pos hnames, fieldText_older hne, lineText_older, start_older, hintAfter,
      start_older, hintAfter]
  · rw [if_neg hnames, if_neg hnames]

/-- A list of elements stands for its members. In the newer grammar there is none, so no list gets
into another. -/
lemma interfaceElements_older (h : n.kind = "interface_type")
    (hnone : ∀ c ∈ n.children, c.kind ≠ "method_spec_list") :
    interfaceElements (n.older list) = (interfaceElements n).map (older list) := by
  have helements : interfaceElements n = n.namedChildren := by
    rw [interfaceElements]
    refine (List.flatMap_congr fun c hc => ?_).trans (List.flatMap_singleton' _)
    have hkind := hnone c (List.mem_of_mem_filter hc)
    rw [if_neg (by simpa using hkind)]
  rw [helements, interfaceElements, namedChildren, children_older_of_literal h,
    List.filter_cons_of_pos (by rfl), List.filter_nil, List.flatMap_singleton, if_pos (by rfl)]
  exact filter_named_older list n.children

/-- A declaration of a type introduces the same interface in both grammars. -/
lemma interfaceOf_older (file : String) (hdecl : declaresType n.kind = true)
    (hnone : ∀ m ∈ n.nodes, m.kind ≠ "method_spec_list") :
    interfaceOf file (n.older list) = interfaceOf file n := by
  have hne := kind_ne_of_test declaresType (by decide) hdecl
  have hkept (m : Node) :
      ((m.older list).kind != "interface_type") = (m.kind != "interface_type") :=
    test_kind_older (· != "interface_type") (by decide) list m
  rw [interfaceOf, interfaceOf, child?_older hne, child?_older hne]
  cases htype : n.child? "type" with
  | none => rfl
  | some literal =>
    cases hname : n.child? "name" with
    | none => rfl
    | some nameNode =>
      simp only [Option.map_some, hkept, text_older, start_older, lineText_older]
      by_cases hliteral : literal.kind = "interface_type"
      · have hmem : literal ∈ n.children := List.mem_of_find?_eq_some htype
        have hinside : ∀ c ∈ literal.children, c.kind ≠ "method_spec_list" := fun c hc =>
          hnone c (children_subset_nodes (children_subset_nodes n.self_mem_nodes hmem) hc)
        rw [interfaceElements_older hliteral hinside, Logged.collect_map]
        simp only [interfaceMethod_older]
      · have hskip : (literal.kind != "interface_type" || nameNode.text == "") = true := by
          rw [bne_iff_ne.mpr hliteral, Bool.true_or]
        rw [if_pos hskip, if_pos hskip]

/-- **Both grammars.** The interfaces of a tree without lists of elements, with all that is said on
the way to them, are those of the tree in the older grammar, whatever else its lists carry. -/
theorem interfacesOf_older (list : Node → Label) (file : String) (root : Node)
    (hnone : ∀ n ∈ root.nodes, n.kind ≠ "method_spec_list") :
    interfacesOf file (root.older list) = interfacesOf file root := by
  rw [interfacesOf, interfacesOf, dispatch_eq_collect, dispatch_eq_collect, filter_nodes_older,
    Logged.collect_map]
  refine Logged.collect_congr fun n hn => ?_
  obtain ⟨hmem, htest⟩ := List.mem_filter.mp hn
  exact interfaceOf_older file (Bool.and_eq_true_iff.mp htest).2 fun m hm =>
    hnone m (mem_nodes_trans hmem hm)

/-- A declaration of `A` as an interface with the methods `B` and `D`. A type `C` is declared inside
of `B`, as an interface with the method `D`. -/
def entwined : Node :=
  .mk { kind := "type_spec" } [
    .mk { kind := "type_identifier", text := some [0x41], field := some "name" } [],
    .mk { kind := "interface_type", field := some "type" } [
      .mk { kind := "interface", named := false } [],
      .mk { kind := "method_elem", start := ⟨1, 2⟩ } [
        .mk { kind := "field_identifier", text := some [0x42], field := some "name" } [],
        .mk { kind := "type_alias" } [
          .mk { kind := "type_identifier", text := some [0x43], field := some "name" } [],
          .mk { kind := "interface_type", field := some "type" } [
            .mk { kind := "method_elem", start := ⟨2, 4⟩ } [
              .mk { kind := "field_identifier", text := some [0x44], field := some "name" } []]]]],
      .mk { kind := "type_elem" } [],
      .mk { kind := "method_elem", start := ⟨3, 2⟩ } [
        .mk { kind := "field_identifier", text := some [0x44], field := some "name" } []]]]

/-- An interface declared within another is found once in either grammar, and keeps its own methods.
-/
theorem interfacesOf_older_entwined :
    (∀ n ∈ entwined.nodes, n.kind ≠ "method_spec_list")
      ∧ (interfacesOf "a.go" entwined).value.map (fun i => (i.name, i.methodNames))
        = [("A", ["B", "D"]), ("C", ["D"])]
      ∧ interfacesOf "a.go" (entwined.older Node.label) = interfacesOf "a.go" entwined := by
  have hnone : ∀ n ∈ entwined.nodes, n.kind ≠ "method_spec_list" := by decide
  refine ⟨hnone, ?_, interfacesOf_older Node.label "a.go" entwined hnone⟩
  rw [interfacesOf, dispatch_eq_collect]
  decide

end Declaration

end InterfaceAtlas
