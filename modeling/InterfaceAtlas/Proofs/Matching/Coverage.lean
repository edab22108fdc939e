import InterfaceAtlas.Matching.Scope
import InterfaceAtlas.Proofs.Query.Answer

/-!
# Types that cover an interface

A type covers an interface if each method of the interface is declared with the type as its
receiver. Under the policy `subset` that is all a resolver asks for, and so the methods that it
picks can be read off the list of declarations:

* `implementationsFor_eq` for a method of one interface in a scope;
* `implementationsIn_eq` for all methods of one file.
-/

namespace InterfaceAtlas

/-- Each method of the interface is declared for the type. -/
def Covers (ds : List MethodDeclaration) (type : String) (i : InterfaceDeclaration) : Prop :=
  ∀ name ∈ i.methodNames, Declared ds type name

/-- The type covers an interface that has methods. -/
def CoversOne (ds : List MethodDeclaration) (type : String)
    (interfaces : List InterfaceDeclaration) : Prop :=
  ∃ i ∈ interfaces, i.methods ≠ [] ∧ Covers ds type i

instance (ds : List MethodDeclaration) (type name : String) : Decidable (Declared ds type name) :=
  inferInstanceAs (Decidable (∃ d ∈ ds, _))

instance (ds : List MethodDeclaration) (type : String) (i : InterfaceDeclaration) :
    Decidable (Covers ds type i) :=
  inferInstanceAs (Decidable (∀ name ∈ i.methodNames, _))

instance (ds : List MethodDeclaration) (type : String) (interfaces : List InterfaceDeclaration) :
    Decidable (CoversOne ds type interfaces) :=
  inferInstanceAs (Decidable (∃ i ∈ interfaces, _))

/-- An interface with methods is covered only by types with methods. -/
lemma exists_receiver_of_covers {ds : List MethodDeclaration} {type name : String}
    {i : InterfaceDeclaration} (h : Covers ds type i) (hname : name ∈ i.methodNames) :
    ∃ d ∈ ds, d.receiver = type := by
  obtain ⟨d, hd, hr, -⟩ := h name hname
  exact ⟨d, hd, hr⟩

lemma declares_iff {i : InterfaceDeclaration} {name : String} :
    i.declares name ↔ name ∈ i.methodNames := by
  rw [InterfaceDeclaration.declares, List.any_eq_true, InterfaceDeclaration.methodNames,
    List.mem_map]
  simp only [beq_iff_eq]

/-! ## A resolver under the policy `subset` -/

/-- The policy `subset` asks for a receiver that covers the interface. -/
lemma satisfies_ofDeclarations (interfaces : List InterfaceDeclaration)
    (ds : List MethodDeclaration) (type : String) (i : InterfaceDeclaration) :
    Resolver.satisfies { interfaces, methods := .ofDeclarations ds } type i
      ↔ type ∈ receivers ds ∧ Covers ds type i := by
  rw [Resolver.satisfies, Bool.and_eq_true, MethodTable.contains_ofDeclarations]
  -- a receiver has a name, so the table holds all of its methods
  refine and_congr_right fun htype => ?_
  have hne : type ≠ "" := (mem_receivers.mp htype).1
  show Policy.isSubset _ _ ↔ _
  rw [Policy.isSubset, List.all_eq_true]
  simp only [List.contains_iff_mem, MethodTable.mem_methodNames_ofDeclarations hne, Covers]

lemma satisfyingTypes_ofDeclarations (interfaces : List InterfaceDeclaration)
    (ds : List MethodDeclaration) (i : InterfaceDeclaration) :
    Resolver.satisfyingTypes { interfaces, methods := .ofDeclarations ds } i
      = (receivers ds).filter fun type => Covers ds type i := by
  rw [Resolver.satisfyingTypes, MethodTable.typeNames_ofDeclarations]
  refine List.filter_congr fun type htype => ?_
  rw [Bool.eq_iff_iff, satisfies_ofDeclarations, decide_eq_true_eq]
  exact and_iff_right htype

/-- A receiver satisfies one of the interfaces with methods if it covers one of them. -/
lemma isSome_firstSatisfied?_iff {interfaces : List InterfaceDeclaration}
    {ds : List MethodDeclaration} {type : String} (htype : type ∈ receivers ds) :
    (Resolver.firstSatisfied?
      { interfaces := interfaces.filter fun i => !i.methods.isEmpty,
        methods := .ofDeclarations ds } type).isSome ↔ CoversOne ds type interfaces := by
  rw [Resolver.firstSatisfied?, List.find?_isSome]
  simp only [satisfies_ofDeclarations, List.mem_filter, Bool.not_eq_true', CoversOne,
    List.isEmpty_eq_false_iff]
  constructor
  · rintro ⟨i, ⟨hi, hne⟩, -, hcovers⟩
    exact ⟨i, hi, hne, hcovers⟩
  · rintro ⟨i, hi, hne, hcovers⟩
    exact ⟨i, ⟨hi, hne⟩, htype, hcovers⟩

/-! ## The methods that are picked -/

/-- The methods of one name on the types that implement an interface: for each receiver that covers
the interface, the last declaration. -/
theorem implementationsFor_eq (scope : Scope) (i : InterfaceDeclaration) (method : String) :
    Query.implementationsFor scope i method
      = ((receivers scope.methods).filter fun type => Covers scope.methods type i).filterMap
          fun type => lastDeclared? scope.methods type method := by
  rw [Query.implementationsFor, Scope.table, satisfyingTypes_ofDeclarations]
  refine List.filterMap_congr fun type htype => ?_
  have hne : type ≠ "" := (mem_receivers.mp (List.mem_filter.mp htype).1).1
  exact MethodTable.declaration?_ofDeclarations _ hne _

/-- The methods of a file that are picked for a type: all of them or none. -/
lemma implementationsOf_value (path : String) (ds : List MethodDeclaration) (r : Resolver)
    (type : String) :
    (implementationsOf path ds r type).value
      = if (r.firstSatisfied? type).isSome then ds.filter fun d => d.receiver == type else [] := by
  rw [implementationsOf]
  cases r.firstSatisfied? type <;> rfl

/-- Leaving members out and giving them nothing is the same. -/
lemma flatMap_filter {α β : Type} (p : α → Bool) (f : α → List β) (xs : List α) :
    (xs.filter p).flatMap f = xs.flatMap fun a => if p a then f a else [] := by
  induction xs with
  | nil => rfl
  | cons a more ih =>
    by_cases h : p a
    · rw [List.filter_cons_of_pos h, List.flatMap_cons, List.flatMap_cons, if_pos h, ih]
    · rw [List.filter_cons_of_neg h, List.flatMap_cons, if_neg h, List.nil_append, ih]

/-- The methods of the receivers that cover an interface with methods: one receiver after the other
in the order of their first appearance, and all methods of each. -/
def coveringMethods (ds : List MethodDeclaration) (interfaces : List InterfaceDeclaration) :
    List MethodDeclaration :=
  ((receivers ds).filter fun type => CoversOne ds type interfaces).flatMap fun type =>
    ds.filter fun d => d.receiver == type

/-- The methods of a file whose type implements one of the interfaces. -/
theorem implementationsIn_eq (s : Source) (interfaces : List InterfaceDeclaration) :
    (implementationsIn s interfaces).value = coveringMethods s.methods.value interfaces := by
  rw [coveringMethods, flatMap_filter, List.flatMap_def]
  -- the types of the table are the receivers, and only the test on each of them is left
  simp only [implementationsIn, Logged.value_bind, Logged.value_inPhase, Logged.value_pure,
    Logged.value_mapM, MethodTable.typeNames_ofDeclarations]
  refine congrArg List.flatten (List.map_congr_left fun type htype => ?_)
  rw [implementationsOf_value]
  simp only [isSome_firstSatisfied?_iff htype, decide_eq_true_eq]

lemma mem_coveringMethods {ds : List MethodDeclaration} {interfaces : List InterfaceDeclaration}
    {d : MethodDeclaration} :
    d ∈ coveringMethods ds interfaces
      ↔ d ∈ ds ∧ d.receiver ≠ "" ∧ CoversOne ds d.receiver interfaces := by
  rw [coveringMethods, List.mem_flatMap]
  simp only [List.mem_filter, decide_eq_true_eq, beq_iff_eq, mem_receivers]
  constructor
  · rintro ⟨type, ⟨⟨hne, -⟩, hcovers⟩, hd, rfl⟩
    exact ⟨hd, hne, hcovers⟩
  · rintro ⟨hd, hne, hcovers⟩
    exact ⟨d.receiver, ⟨⟨hne, d, hd, rfl⟩, hcovers⟩, hd, rfl⟩

/-- A receiver is reported if it covers an interface with methods. -/
lemma mem_map_receiver_coveringMethods {ds : List MethodDeclaration}
    {interfaces : List InterfaceDeclaration} {type : String} :
    type ∈ (coveringMethods ds interfaces).map (·.receiver)
      ↔ type ∈ receivers ds ∧ CoversOne ds type interfaces := by
  simp only [List.mem_map, mem_coveringMethods, mem_receivers]
  constructor
  · rintro ⟨d, ⟨hd, hne, hcovers⟩, rfl⟩
    exact ⟨⟨hne, d, hd, rfl⟩, hcovers⟩
  · rintro ⟨⟨hne, d, hd, rfl⟩, hcovers⟩
    exact ⟨d, ⟨hd, hne, hcovers⟩, rfl⟩

/-- What is reported of a receiver covers all that the receiver covers. -/
lemma covers_coveringMethods {ds : List MethodDeclaration}
    {interfaces : List InterfaceDeclaration} {type : String} {i : InterfaceDeclaration}
    (htype : type ∈ (coveringMethods ds interfaces).map (·.receiver)) (h : Covers ds type i) :
    Covers (coveringMethods ds interfaces) type i := by
  obtain ⟨htype, hcovers⟩ := mem_map_receiver_coveringMethods.mp htype
  intro name hname
  obtain ⟨d, hd, rfl, hdname⟩ := h name hname
  exact ⟨d, mem_coveringMethods.mpr ⟨hd, (mem_receivers.mp htype).1, hcovers⟩, rfl, hdname⟩

/-- Which interfaces there are matters by the names of their methods alone. -/
lemma coversOne_iff {ds : List MethodDeclaration} {type : String}
    {interfaces : List InterfaceDeclaration} :
    CoversOne ds type interfaces
      ↔ ∃ names ∈ interfaces.map (·.methodNames), names ≠ []
        ∧ ∀ name ∈ names, Declared ds type name := by
  have hne : ∀ i : InterfaceDeclaration, i.methodNames ≠ [] ↔ i.methods ≠ [] := by
    intro i
    rw [InterfaceDeclaration.methodNames, ne_eq, List.map_eq_nil_iff]
  constructor
  · rintro ⟨i, hi, hmethods, hcovers⟩
    exact ⟨i.methodNames, List.mem_map.mpr ⟨i, hi, rfl⟩, (hne i).mpr hmethods, hcovers⟩
  · rintro ⟨names, hnames, hmethods, hcovers⟩
    obtain ⟨i, hi, rfl⟩ := List.mem_map.mp hnames
    exact ⟨i, hi, (hne i).mp hmethods, hcovers⟩

/-- The methods that are picked depend on which methods the interfaces name, and neither on the
order of the interfaces nor on how often they come. -/
theorem coveringMethods_congr (ds : List MethodDeclaration)
    {interfaces others : List InterfaceDeclaration}
    (h : ∀ names, names ∈ interfaces.map (·.methodNames) ↔ names ∈ others.map (·.methodNames)) :
    coveringMethods ds interfaces = coveringMethods ds others := by
  rw [coveringMethods, coveringMethods]
  simp only [coversOne_iff, h]

end InterfaceAtlas
