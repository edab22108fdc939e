import InterfaceAtlas.Declaration.Methods
import InterfaceAtlas.Proofs.Declaration.Interfaces
import InterfaceAtlas.Proofs.Syntax.Walk
import Mathlib.Order.Defs.PartialOrder

/-!
# Declarations in the order of the text

Nothing in a tree says by itself where its nodes stand in the text. `Node.WellNested` says what a
parser provides: the span of each node covers those of its children, which follow one another. Then
of two nodes in a row the later lies below the earlier or behind it (`WellNested.pairwise_nodes`),
so declarations come in the order of any places that their nodes lead up to (`IsAnchor`): methods in
that of their starts, interfaces in that of their names.
-/

namespace InterfaceAtlas

/-! ## Points -/

instance : Preorder Point where
  le_refl p := Or.inr ⟨rfl, Nat.le_refl _⟩
  le_trans p q r := by
    show Point.le p q → Point.le q r → Point.le p r
    rw [Point.le, Point.le, Point.le]
    omega

/-- The point of a place in a file. -/
def Location.point (l : Location) : Point := ⟨l.line, l.column⟩

lemma Location.point_ofPoint (file : String) (p : Point) : (ofPoint file p).point = p := rfl

namespace Node

/-! ## Nested spans -/

/-- The span of a node covers those of its children, which follow one another. -/
structure CoversChildren (n : Node) : Prop where
  start_le_stop : n.start ≤ n.stop
  inside : ∀ c ∈ n.children, n.start ≤ c.start ∧ c.stop ≤ n.stop
  apart : n.children.Pairwise fun c d => c.stop ≤ d.start

instance (n : Node) : Decidable n.CoversChildren :=
  decidable_of_iff
    (n.start ≤ n.stop ∧ (∀ c ∈ n.children, n.start ≤ c.start ∧ c.stop ≤ n.stop)
      ∧ n.children.Pairwise fun c d => c.stop ≤ d.start)
    ⟨fun ⟨h, hinside, hapart⟩ => ⟨h, hinside, hapart⟩, fun h => ⟨h.1, h.2, h.3⟩⟩

/-- The spans of a tree are nested all over. -/
def WellNested (n : Node) : Prop := ∀ m ∈ n.nodes, m.CoversChildren

instance (n : Node) : Decidable n.WellNested :=
  inferInstanceAs (Decidable (∀ m ∈ n.nodes, m.CoversChildren))

/-- The node `b` lies below `a` or starts where `a` has ended. -/
def LeadsTo (a b : Node) : Prop := (∃ c ∈ a.children, b ∈ c.nodes) ∨ a.stop ≤ b.start

/-- A place in a node that none of the children comes before. -/
structure IsAnchor (n : Node) (p : Point) : Prop where
  start_le : n.start ≤ p
  le_stop : p ≤ n.stop
  le_child : ∀ c ∈ n.children, p ≤ c.start

namespace WellNested

variable {n m : Node}

lemma covers (h : n.WellNested) : n.CoversChildren := h n n.self_mem_nodes

/-- The parts of a nested tree are nested. -/
lemma of_mem_nodes (h : n.WellNested) (hm : m ∈ n.nodes) : m.WellNested :=
  fun x hx => h x (mem_nodes_trans hm hx)

lemma of_mem_children (h : n.WellNested) (hm : m ∈ n.children) : m.WellNested :=
  h.of_mem_nodes (mem_nodes_of_mem_children hm m.self_mem_nodes)

/-- No node of a tree stands out of the tree. -/
lemma within (h : n.WellNested) (hm : m ∈ n.nodes) : n.start ≤ m.start ∧ m.stop ≤ n.stop := by
  induction n using Node.induction with
  | mk l cs ih =>
    rw [nodes_mk, List.mem_cons] at hm
    rcases hm with rfl | hm
    · exact ⟨le_refl _, le_refl _⟩
    · obtain ⟨c, hc, hmc⟩ := List.mem_flatMap.mp hm
      obtain ⟨hstart, hstop⟩ := ih c hc (h.of_mem_children hc) hmc
      obtain ⟨hleft, hright⟩ := h.covers.inside c hc
      exact ⟨le_trans hleft hstart, le_trans hstop hright⟩

/-- Of two nodes in a row the later lies below the earlier or behind it. -/
theorem pairwise_nodes (h : n.WellNested) : n.nodes.Pairwise LeadsTo := by
  induction n using Node.induction with
  | mk l cs ih =>
    rw [nodes_mk, List.pairwise_cons, List.pairwise_flatMap]
    refine ⟨fun m hm => Or.inl (List.mem_flatMap.mp hm),
      fun c hc => ih c hc (h.of_mem_children hc), ?_⟩
    -- Nodes below two children are as far apart as the children are.
    refine h.covers.apart.imp_of_mem fun {c d} hc hd hcd a ha b hb => Or.inr ?_
    calc a.stop ≤ c.stop := ((h.of_mem_children hc).within ha).2
      _ ≤ d.start := hcd
      _ ≤ b.start := ((h.of_mem_children hd).within hb).1

/-- Nothing in a node comes before its start. -/
lemma isAnchor_start (h : n.WellNested) : n.IsAnchor n.start :=
  ⟨le_refl _, h.covers.start_le_stop, fun c hc => (h.covers.inside c hc).1⟩

/-- The start of the first child is also such a place. -/
lemma isAnchor_first (h : n.WellNested) (hm : n.children.head? = some m) :
    n.IsAnchor m.start := by
  obtain ⟨more, hchildren⟩ := List.head?_eq_some_iff.mp hm
  have hmem : m ∈ n.children := List.mem_of_mem_head? hm
  have hspan := (h.of_mem_children hmem).covers.start_le_stop
  obtain ⟨hleft, hright⟩ := h.covers.inside m hmem
  refine ⟨hleft, le_trans hspan hright, fun c hc => ?_⟩
  have hapart := h.covers.apart
  rw [hchildren] at hc hapart
  rcases List.mem_cons.mp hc with rfl | hc
  · exact le_refl _
  · exact le_trans hspan (List.rel_of_pairwise_cons hapart hc)

/-- What is made of some nodes comes in the order of its places, if each lies in its own node and
the nodes below come after it. -/
lemma pairwise_filterMap {α : Type} (h : n.WellNested) (test : Node → Bool) (f : Node → Option α)
    (place : α → Point)
    (hanchor : ∀ m ∈ n.nodes, test m = true → ∀ a, f m = some a → m.IsAnchor (place a)) :
    ((n.nodes.filter test).filterMap f).Pairwise fun a b => place a ≤ place b := by
  rw [List.pairwise_filterMap]
  refine (h.pairwise_nodes.filter test).imp_of_mem fun {m x} hm hx hlead a ha b hb => ?_
  have ham := hanchor m (List.mem_filter.mp hm).1 (List.mem_filter.mp hm).2 a ha
  have hbx := hanchor x (List.mem_filter.mp hx).1 (List.mem_filter.mp hx).2 b hb
  -- Between the two places lies the start of the later node.
  refine le_trans ?_ hbx.start_le
  rcases hlead with ⟨c, hc, hxc⟩ | hbehind
  · have hbelow := (h.of_mem_nodes (List.mem_filter.mp hm).1).of_mem_children hc
    exact le_trans (ham.le_child c hc) (hbelow.within hxc).1
  · exact le_trans ham.le_stop hbehind

end WellNested

end Node

namespace Declaration

open Node

variable {file : String} {n root : Node}

/-- Where a node has a name, this is its first child. -/
def NamesFirst (n : Node) : Prop :=
  ∀ name, n.child? "name" = some name → n.children.head? = some name

/-- A method is recorded with the start of its node. -/
lemma start_of_methodOf {d : MethodDeclaration} (h : (methodOf file n).value = some d) :
    d.start.point = n.start := by
  rw [methodOf] at h
  split at h
  · exact absurd h (by simp)
  · rw [Logged.value_bind, Logged.value_pure, Option.some_inj] at h
    rw [← h]
    exact Location.point_ofPoint file n.start

/-- An interface is recorded with the start of its name. -/
lemma location_of_interfaceOf {i : InterfaceDeclaration}
    (h : (interfaceOf file n).value = some i) :
    ∃ name, n.child? "name" = some name ∧ i.location.point = name.start := by
  rw [interfaceOf] at h
  split at h
  · next literal name _ hname =>
    split at h
    · exact absurd h (by simp)
    · simp only [Logged.value_bind, Logged.value_pure, Option.some_inj] at h
      exact ⟨name, hname, by rw [← h]; exact Location.point_ofPoint file name.start⟩
  · exact absurd h (by simp)

/-- **The order of the text.** Where spans are nested, the methods of a tree come in the order of
their starts, and if names stand first, its interfaces come in the order of their names. -/
theorem declarations_inTextOrder (file : String) (hroot : root.WellNested) :
    ((methodsOf file root).value.Pairwise fun a b => a.start.point ≤ b.start.point)
      ∧ ((∀ n ∈ root.nodes, declaresType n.kind = true → NamesFirst n) →
        (interfacesOf file root).value.Pairwise
          fun a b => a.location.point ≤ b.location.point) := by
  constructor
  · rw [methodsOf, dispatch_eq_collect (· == "method_declaration"), Logged.value_collect]
    refine hroot.pairwise_filterMap _ _ _ fun m hm _ d hd => ?_
    rw [start_of_methodOf hd]
    exact (hroot.of_mem_nodes hm).isAnchor_start
  · intro hfirst
    rw [interfacesOf, dispatch_eq_collect, Logged.value_collect]
    refine hroot.pairwise_filterMap _ _ _ fun m hm htest i hi => ?_
    obtain ⟨name, hname, hplace⟩ := location_of_interfaceOf hi
    rw [hplace]
    exact (hroot.of_mem_nodes hm).isAnchor_first
      (hfirst m hm (Bool.and_eq_true_iff.mp htest).2 name hname)

/-- A method `M` in which an interface `A` is declared, and in its type an interface `B` and another
method `N`. -/
def stacked : Node :=
  .mk { kind := "source_file", start := ⟨0, 0⟩, stop := ⟨3, 10⟩ } [
    .mk { kind := "method_declaration", start := ⟨0, 0⟩, stop := ⟨3, 10⟩ } [
      .mk { kind := "func", named := false, start := ⟨0, 0⟩, stop := ⟨0, 4⟩ } [],
      .mk { kind := "field_identifier", text := some [0x4d], field := some "name",
            start := ⟨0, 5⟩, stop := ⟨0, 6⟩ } [],
      .mk { kind := "type_spec", start := ⟨1, 7⟩, stop := ⟨3, 9⟩ } [
        .mk { kind := "type_identifier", text := some [0x41], field := some "name",
              start := ⟨1, 7⟩, stop := ⟨1, 8⟩ } [],
        .mk { kind := "interface_type", field := some "type", start := ⟨1, 9⟩, stop := ⟨3, 9⟩ } [
          .mk { kind := "type_alias", start := ⟨2, 2⟩, stop := ⟨2, 7⟩ } [
            .mk { kind := "type_identifier", text := some [0x42], field := some "name",
                  start := ⟨2, 2⟩, stop := ⟨2, 3⟩ } [],
            .mk { kind := "interface_type", field := some "type",
                  start := ⟨2, 4⟩, stop := ⟨2, 7⟩ } []],
          .mk { kind := "method_declaration", start := ⟨3, 2⟩, stop := ⟨3, 8⟩ } [
            .mk { kind := "func", named := false, start := ⟨3, 2⟩, stop := ⟨3, 6⟩ } [],
            .mk { kind := "field_identifier", text := some [0x4e], field := some "name",
                  start := ⟨3, 7⟩, stop := ⟨3, 8⟩ } []]]]]]

/-- The outer of two methods comes before the inner one, and so does the outer of two interfaces. -/
theorem declarations_inTextOrder_stacked :
    stacked.WellNested
      ∧ (∀ n ∈ stacked.nodes, declaresType n.kind = true → NamesFirst n)
      ∧ (methodsOf "a.go" stacked).value.map (·.name) = ["M", "N"]
      ∧ (interfacesOf "a.go" stacked).value.map (·.name) = ["A", "B"]
      ∧ ((methodsOf "a.go" stacked).value.Pairwise fun a b => a.start.point ≤ b.start.point)
      ∧ (interfacesOf "a.go" stacked).value.Pairwise
          fun a b => a.location.point ≤ b.location.point := by
  have hnested : stacked.WellNested := by decide
  have hfirst : ∀ n ∈ stacked.nodes, declaresType n.kind = true → NamesFirst n := by
    simp [stacked, nodes_mk, declaresType, NamesFirst, child?, kind, label, children]
  obtain ⟨hmethods, hinterfaces⟩ := declarations_inTextOrder "a.go" hnested
  refine ⟨hnested, hfirst, ?_, ?_, hmethods, hinterfaces hfirst⟩
  · rw [methodsOf, dispatch_eq_collect (· == "method_declaration")]
    decide
  · rw [interfacesOf, dispatch_eq_collect]
    decide

end Declaration

end InterfaceAtlas
