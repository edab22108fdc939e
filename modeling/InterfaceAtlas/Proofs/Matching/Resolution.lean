import InterfaceAtlas.Proofs.Matching.Coverage
import InterfaceAtlas.Proofs.Matching.Relations

/-!
# Relations in closed form

A resolver of declared methods fills its relations in one of two ways. Under `subset` and `exact` it
goes through the interfaces and asks of each which types go with it as a whole
(`relations_byType`). Under `nameOverlap` it puts together what interfaces of one name ask for, and
looks for the types that declare each method by itself (`relations_byName`).

Both are read off the interfaces and the declarations:

* `Policy.Admits` is what a policy asks of a type, and `Resolver.satisfies_iff` says that a resolver
  asks just this;
* `matchesByType_eq` and `matchesByName_eq` write the matches as `Relations.blocks`.
-/

namespace InterfaceAtlas

/-- A resolver of some interfaces and declared methods. -/
def Resolver.ofDeclarations (policy : Policy) (interfaces : List InterfaceDeclaration)
    (ds : List MethodDeclaration) : Resolver :=
  { interfaces, methods := .ofDeclarations ds, policy }

namespace Resolver

variable (policy : Policy) (interfaces : List InterfaceDeclaration) (ds : List MethodDeclaration)

@[simp] lemma methods_ofDeclarations :
    (ofDeclarations policy interfaces ds).methods = .ofDeclarations ds := rfl

@[simp] lemma policy_ofDeclarations : (ofDeclarations policy interfaces ds).policy = policy := rfl

@[simp] lemma interfaces_ofDeclarations :
    (ofDeclarations policy interfaces ds).interfaces = interfaces := rfl

end Resolver

/-- The relations of some interfaces and declared methods under a policy. -/
def resolved (policy : Policy) (interfaces : List InterfaceDeclaration)
    (ds : List MethodDeclaration) : Relations :=
  (Resolver.ofDeclarations policy interfaces ds).resolve.value

/-! ## What a policy asks for -/

/-- What a policy asks of the methods that are declared for a type: under `subset` those of the
interface are among them, under `exact` they are no others, and under `nameOverlap` one of them is
in the interface. -/
def Policy.Admits (policy : Policy) (ds : List MethodDeclaration) (type : String)
    (i : InterfaceDeclaration) : Prop :=
  match policy with
  | .subset => Covers ds type i
  | .exact => Covers ds type i ∧ ∀ d ∈ ds, d.receiver = type → d.name ∈ i.methodNames
  | .nameOverlap => ∃ name ∈ i.methodNames, Declared ds type name

instance (policy : Policy) (ds : List MethodDeclaration) (type : String)
    (i : InterfaceDeclaration) : Decidable (policy.Admits ds type i) :=
  match policy with
  | .subset => inferInstanceAs (Decidable (Covers ds type i))
  | .exact => inferInstanceAs (Decidable (_ ∧ _))
  | .nameOverlap => inferInstanceAs (Decidable (∃ name ∈ i.methodNames, _))

/-- The receivers that go with an interface, in the order of their first appearance. -/
def Policy.admitted (policy : Policy) (ds : List MethodDeclaration) (i : InterfaceDeclaration) :
    List String :=
  (receivers ds).filter fun type => policy.Admits ds type i

/-- The receivers that declare a method, in the order of their first appearance. -/
def declarers (ds : List MethodDeclaration) (method : String) : List String :=
  (receivers ds).filter fun type => Declared ds type method

section Asks

variable {policy : Policy} {ds : List MethodDeclaration} {type method : String}
  {i : InterfaceDeclaration}

/-- The types that a policy admits are receivers, one by one. -/
lemma Policy.mem_admitted :
    type ∈ policy.admitted ds i ↔ type ∈ receivers ds ∧ policy.Admits ds type i := by
  rw [Policy.admitted, List.mem_filter, decide_eq_true_eq]

lemma mem_declarers :
    type ∈ declarers ds method ↔ type ∈ receivers ds ∧ Declared ds type method := by
  rw [declarers, List.mem_filter, decide_eq_true_eq]

/-- A method has declarers if some receiver declares it. -/
lemma declarers_ne_nil_iff :
    declarers ds method ≠ [] ↔ ∃ type ∈ receivers ds, Declared ds type method := by
  rw [declarers, ne_eq, List.filter_eq_nil_iff]
  simp

/-- Except by name alone, a type goes with an interface only if it has all methods of it. -/
lemma Policy.Admits.covers (h : policy.Admits ds type i) (hpolicy : policy ≠ .nameOverlap) :
    Covers ds type i := by
  cases policy with
  | subset => exact h
  | exact => exact h.1
  | nameOverlap => exact absurd rfl hpolicy

/-- A resolver compares a type with an interface as its policy asks. -/
theorem Resolver.satisfies_iff (policy : Policy) (interfaces : List InterfaceDeclaration)
    (ds : List MethodDeclaration) (type : String) (i : InterfaceDeclaration) :
    (Resolver.ofDeclarations policy interfaces ds).satisfies type i
      ↔ type ∈ receivers ds ∧ policy.Admits ds type i := by
  rw [Resolver.satisfies, Bool.and_eq_true, methods_ofDeclarations, policy_ofDeclarations,
    MethodTable.contains_ofDeclarations]
  refine and_congr_right fun htype => ?_
  -- a receiver has a name, so the table holds all of its methods
  have hne : type ≠ "" := (mem_receivers.mp htype).1
  have hholds : ∀ name, name ∈ (MethodTable.ofDeclarations ds).methodNames type
      ↔ Declared ds type name :=
    fun name => MethodTable.mem_methodNames_ofDeclarations hne
  have hsubset : Policy.isSubset ((MethodTable.ofDeclarations ds).methodNames type) i.methodNames
      ↔ Covers ds type i := by
    rw [Policy.isSubset, List.all_eq_true]
    simp only [List.contains_iff_mem, hholds, Covers]
  cases policy with
  | subset => exact hsubset
  | exact =>
    rw [Policy.satisfies, Policy.isExact, Bool.and_eq_true]
    refine and_congr hsubset ?_
    rw [Policy.isSubset, List.all_eq_true]
    simp only [List.contains_iff_mem, hholds]
    constructor
    · intro hnames d hd hreceiver
      exact hnames d.name ⟨d, hd, hreceiver, rfl⟩
    · rintro hnames name ⟨d, hd, hreceiver, rfl⟩
      exact hnames d hd hreceiver
  | nameOverlap =>
    rw [Policy.satisfies, Policy.overlaps, List.any_eq_true]
    simp only [List.contains_iff_mem, hholds, Policy.Admits]

lemma Resolver.satisfyingTypes_eq (policy : Policy) (interfaces : List InterfaceDeclaration)
    (ds : List MethodDeclaration) (i : InterfaceDeclaration) :
    (Resolver.ofDeclarations policy interfaces ds).satisfyingTypes i = policy.admitted ds i := by
  rw [Resolver.satisfyingTypes, methods_ofDeclarations, MethodTable.typeNames_ofDeclarations,
    Policy.admitted]
  refine List.filter_congr fun type htype => ?_
  rw [Bool.eq_iff_iff, Resolver.satisfies_iff, decide_eq_true_eq]
  exact and_iff_right htype

end Asks

/-! ## Types as a whole -/

/-- What an interface contributes: its methods, once for each type that goes with it. -/
def methodsPerType (policy : Policy) (ds : List MethodDeclaration) (i : InterfaceDeclaration) :
    List String :=
  (policy.admitted ds i).flatMap fun _ => i.methodNames.eraseDups

section ByType

variable {policy : Policy} {ds : List MethodDeclaration} {method : String}
  {i : InterfaceDeclaration}

/-- A method is listed for an interface if a type satisfies the whole of it. -/
lemma mem_methodsPerType :
    method ∈ methodsPerType policy ds i
      ↔ method ∈ i.methodNames ∧ policy.admitted ds i ≠ [] := by
  rw [methodsPerType, List.mem_flatMap]
  simp only [List.mem_eraseDups]
  constructor
  · rintro ⟨type, htype, hmethod⟩
    exact ⟨hmethod, List.ne_nil_of_mem htype⟩
  · rintro ⟨hmethod, hadmitted⟩
    obtain ⟨type, htype⟩ := List.exists_mem_of_ne_nil _ hadmitted
    exact ⟨type, htype, hmethod⟩

lemma methodsPerType_ne_nil_iff :
    methodsPerType policy ds i ≠ [] ↔ i.methods ≠ [] ∧ policy.admitted ds i ≠ [] := by
  have hnames : i.methodNames ≠ [] ↔ i.methods ≠ [] := by
    rw [InterfaceDeclaration.methodNames, ne_eq, List.map_eq_nil_iff]
  constructor
  · intro hne
    obtain ⟨method, hmethod⟩ := List.exists_mem_of_ne_nil _ hne
    obtain ⟨hmem, hadmitted⟩ := mem_methodsPerType.mp hmethod
    exact ⟨hnames.mp (List.ne_nil_of_mem hmem), hadmitted⟩
  · rintro ⟨hmethods, hadmitted⟩
    obtain ⟨method, hmem⟩ := List.exists_mem_of_ne_nil _ (hnames.mpr hmethods)
    exact List.ne_nil_of_mem (mem_methodsPerType.mpr ⟨hmem, hadmitted⟩)

/-- A type that goes with an interface as a whole has each of its methods, so no method is left
out. -/
lemma Resolver.matchesByType_eq (hpolicy : policy ≠ .nameOverlap)
    (interfaces : List InterfaceDeclaration) (ds : List MethodDeclaration) :
    (Resolver.ofDeclarations policy interfaces ds).matchesByType
      = Relations.blocks (·.name) (methodsPerType policy ds) interfaces := by
  rw [Resolver.matchesByType, Relations.blocks]
  refine List.flatMap_congr fun i _ => ?_
  rw [Resolver.satisfyingTypes_eq, methodsPerType, List.map_flatMap]
  refine List.flatMap_congr fun type htype => ?_
  obtain ⟨hreceiver, hadmits⟩ := Policy.mem_admitted.mp htype
  have hne : type ≠ "" := (mem_receivers.mp hreceiver).1
  have hall : i.methodNames.eraseDups.filter
      (fun name => ((MethodTable.ofDeclarations ds).methodNames type).contains name)
      = i.methodNames.eraseDups := by
    refine List.filter_eq_self.mpr fun name hname => ?_
    rw [List.contains_iff_mem, MethodTable.mem_methodNames_ofDeclarations hne]
    exact hadmits.covers hpolicy name (List.mem_eraseDups.mp hname)
  exact congrArg (List.map _) hall

/-- Under the policies that ask for whole interfaces the matches go interface by interface. -/
lemma resolved_eq_byType (hpolicy : policy ≠ .nameOverlap)
    (interfaces : List InterfaceDeclaration) (ds : List MethodDeclaration) :
    resolved policy interfaces ds
      = .ofMatches (Relations.blocks (·.name) (methodsPerType policy ds) interfaces) := by
  rw [← Resolver.matchesByType_eq hpolicy]
  cases policy with
  | subset | exact => rfl
  | nameOverlap => exact absurd rfl hpolicy

/-- The name of an interface holds what the interfaces of this name contribute. -/
lemma getD_implementations_byType (hpolicy : policy ≠ .nameOverlap)
    (interfaces : List InterfaceDeclaration) (ds : List MethodDeclaration) (name : String) :
    ((resolved policy interfaces ds).implementations.get? name).getD []
      = (interfaces.filter fun i => i.name = name).flatMap (methodsPerType policy ds) := by
  rw [resolved_eq_byType hpolicy, Relations.getD_implementations_blocks]

lemma mem_keys_interfaceOf_byType (hpolicy : policy ≠ .nameOverlap)
    (interfaces : List InterfaceDeclaration) (ds : List MethodDeclaration) (method : String) :
    method ∈ (resolved policy interfaces ds).interfaceOf.keys
      ↔ ∃ i ∈ interfaces, method ∈ i.methodNames ∧ policy.admitted ds i ≠ [] := by
  rw [resolved_eq_byType hpolicy, Relations.mem_keys_interfaceOf_blocks]
  simp only [mem_methodsPerType]

end ByType

/-- **Relations by type.** Under `subset` and `exact` an interface name holds, for each interface of
this name and each type that goes with it, the methods of the interface, each of them once and none
left out. The name is there if one of these interfaces has methods and a type that goes with it. A
method holds the name of the last interface that names it and has a type that goes with it, and is
there if there is such an interface. -/
theorem relations_byType {policy : Policy} (hpolicy : policy ≠ .nameOverlap)
    (interfaces : List InterfaceDeclaration) (ds : List MethodDeclaration) :
    (∀ i type, (Resolver.ofDeclarations policy interfaces ds).satisfies type i
        ↔ type ∈ policy.admitted ds i)
      ∧ (∀ i, ∀ type ∈ policy.admitted ds i, ∀ method ∈ i.methodNames,
        method ∈ (MethodTable.ofDeclarations ds).methodNames type)
      ∧ (∀ name, ((resolved policy interfaces ds).implementations.get? name).getD []
        = (interfaces.filter fun i => i.name = name).flatMap fun i =>
            (policy.admitted ds i).flatMap fun _ => i.methodNames.eraseDups)
      ∧ (∀ name, name ∈ (resolved policy interfaces ds).implementations.keys
        ↔ ∃ i ∈ interfaces, i.name = name ∧ i.methods ≠ [] ∧ policy.admitted ds i ≠ [])
      ∧ (∀ method, method ∈ (resolved policy interfaces ds).interfaceOf.keys
        ↔ ∃ i ∈ interfaces, method ∈ i.methodNames ∧ policy.admitted ds i ≠ [])
      ∧ ∀ method, (resolved policy interfaces ds).interfaceOf.get? method
        = ((interfaces.filter fun i =>
            method ∈ i.methodNames ∧ policy.admitted ds i ≠ []).getLast?).map (·.name) := by
  refine ⟨fun i type => ?_, fun i type htype method hmethod => ?_,
    getD_implementations_byType hpolicy interfaces ds, fun name => ?_,
    mem_keys_interfaceOf_byType hpolicy interfaces ds, fun method => ?_⟩
  · rw [Resolver.satisfies_iff, Policy.mem_admitted]
  · obtain ⟨hreceiver, hadmits⟩ := Policy.mem_admitted.mp htype
    rw [MethodTable.mem_methodNames_ofDeclarations (mem_receivers.mp hreceiver).1]
    exact hadmits.covers hpolicy method hmethod
  · rw [resolved_eq_byType hpolicy, Relations.keys_implementations_blocks, List.mem_eraseDups,
      List.mem_map]
    simp only [List.mem_filter, decide_eq_true_eq, methodsPerType_ne_nil_iff]
    constructor
    · rintro ⟨i, ⟨hi, hcontributes⟩, hname⟩
      exact ⟨i, hi, hname, hcontributes⟩
    · rintro ⟨i, hi, hname, hcontributes⟩
      exact ⟨i, ⟨hi, hcontributes⟩, hname⟩
  · rw [resolved_eq_byType hpolicy, Relations.get?_interfaceOf_blocks]
    simp only [mem_methodsPerType]

/-- An interface with these methods. -/
def interfaceOn (name : String) (methods : List String) : InterfaceDeclaration :=
  { name, file := "", location := default,
    methods := methods.map fun method => ⟨method, name, default, default⟩ }

/-- The methods of one receiver. -/
def declaredOn (receiver : String) (methods : List String) : List MethodDeclaration :=
  methods.map fun method => ⟨receiver, method, "", default, default⟩

/-- Two interfaces of one name, of which one repeats a method and one has none, and a third one. -/
def streams : List InterfaceDeclaration :=
  [interfaceOn "Stream" ["Read", "Close", "Read"], interfaceOn "Stream" [],
    interfaceOn "Closer" ["Close"]]

/-- A type that has all methods of `streams`, and another that has one of them. -/
def streamMethods : List MethodDeclaration :=
  declaredOn "*File" ["Read", "Close"] ++ declaredOn "Lock" ["Close"]

/-- A repeated method counts once, and an interface without methods adds nothing. The last interface
that has a type takes the method; under `exact` the larger type does not go with the smaller
interface. -/
theorem relations_byType_streams :
    Policy.subset ≠ .nameOverlap
      ∧ ((resolved .subset streams streamMethods).implementations.get? "Stream").getD []
        = ["Read", "Close"]
      ∧ ((resolved .subset streams streamMethods).implementations.get? "Closer").getD []
        = ["Close", "Close"]
      ∧ (resolved .subset streams streamMethods).interfaceOf.get? "Close" = some "Closer"
      ∧ Policy.exact ≠ .nameOverlap
      ∧ ((resolved .exact streams streamMethods).implementations.get? "Closer").getD []
        = ["Close"] := by
  have hsubset : Policy.subset ≠ .nameOverlap := by decide
  have hexact : Policy.exact ≠ .nameOverlap := by decide
  obtain ⟨-, -, hlists, -, -, hlast⟩ := relations_byType hsubset streams streamMethods
  obtain ⟨-, -, hexactLists, -⟩ := relations_byType hexact streams streamMethods
  refine ⟨hsubset, ?_, ?_, ?_, hexact, ?_⟩
  · rw [hlists]
    decide
  · rw [hlists]
    decide
  · rw [hlast]
    decide
  · rw [hexactLists]
    decide

/-! ## Names alone -/

/-- The names of interfaces, each where it first came. -/
def interfaceNames (interfaces : List InterfaceDeclaration) : List String :=
  (interfaces.map (·.name)).eraseDups

/-- The methods that the interfaces of one name ask for, one interface after the other. -/
def methodsUnderName (interfaces : List InterfaceDeclaration) (name : String) : List String :=
  (interfaces.filter fun i => i.name = name).flatMap (·.methodNames)

/-- What a name contributes: its methods, each of them once for each type that declares it. -/
def methodsPerDeclarer (interfaces : List InterfaceDeclaration) (ds : List MethodDeclaration)
    (name : String) : List String :=
  (methodsUnderName interfaces name).flatMap fun method =>
    List.replicate (declarers ds method).length method

section ByName

variable {interfaces : List InterfaceDeclaration} {ds : List MethodDeclaration}
  {name method : String}

lemma nodup_interfaceNames (interfaces : List InterfaceDeclaration) :
    (interfaceNames interfaces).Nodup :=
  nodup_eraseDups _

lemma mem_interfaceNames : name ∈ interfaceNames interfaces ↔ ∃ i ∈ interfaces, i.name = name := by
  rw [interfaceNames, List.mem_eraseDups, List.mem_map]

lemma mem_methodsUnderName :
    method ∈ methodsUnderName interfaces name
      ↔ ∃ i ∈ interfaces, i.name = name ∧ method ∈ i.methodNames := by
  rw [methodsUnderName, List.mem_flatMap]
  simp only [List.mem_filter, decide_eq_true_eq, and_assoc]

lemma mem_methodsPerDeclarer :
    method ∈ methodsPerDeclarer interfaces ds name
      ↔ method ∈ methodsUnderName interfaces name ∧ declarers ds method ≠ [] := by
  rw [methodsPerDeclarer, List.mem_flatMap]
  simp only [List.mem_replicate, ne_eq, List.length_eq_zero_iff]
  constructor
  · rintro ⟨m, hm, hne, rfl⟩
    exact ⟨hm, hne⟩
  · rintro ⟨hm, hne⟩
    exact ⟨method, hm, hne, rfl⟩

/-- Interfaces of one name are put together where the first of them came. -/
lemma entries_groupedMethods (interfaces : List InterfaceDeclaration) :
    (groupedMethods interfaces).entries
      = (interfaceNames interfaces).map fun name => (name, methodsUnderName interfaces name) := by
  have hkeys : (groupedMethods interfaces).keys = interfaceNames interfaces :=
    OrderedMap.keys_foldl_alter (fun i : InterfaceDeclaration => i.name)
      (fun i held => held.getD [] ++ i.methodNames) interfaces
  have hget : ∀ name, ((groupedMethods interfaces).get? name).getD []
      = methodsUnderName interfaces name := by
    intro name
    have hfold := OrderedMap.get?_foldl_alter (fun i : InterfaceDeclaration => i.name)
      (fun i held => held.getD [] ++ i.methodNames) interfaces name
    refine (congrArg (Option.getD · []) hfold).trans ?_
    rw [methodsUnderName]
    induction interfaces.filter (fun i => i.name = name) using List.reverseRecOn with
    | nil => rfl
    | append_singleton own i ih =>
      rw [List.foldl_append, List.flatMap_append, ← ih]
      simp
  have hnodup : (groupedMethods interfaces).keys.Nodup := hkeys ▸ nodup_interfaceNames interfaces
  rw [OrderedMap.entries_eq_map_keys hnodup [], hkeys]
  simp only [hget]

/-- Of the methods of a receiver, one is the method that is looked for, or none is. -/
lemma filter_methodNames {type : String} (htype : type ∈ receivers ds) (method : String) :
    ((MethodTable.ofDeclarations ds).methodNames type).filter (· == method)
      = if Declared ds type method then [method] else [] := by
  have hne : type ≠ "" := (mem_receivers.mp htype).1
  have hnodup := MethodTable.nodup_methodNames_ofDeclarations ds hne
  have hmem : method ∈ (MethodTable.ofDeclarations ds).methodNames type ↔ Declared ds type method :=
    MethodTable.mem_methodNames_ofDeclarations hne
  rw [List.filter_beq, hnodup.count]
  by_cases h : Declared ds type method
  · rw [if_pos h, if_pos (hmem.mpr h), List.replicate_one]
  · rw [if_neg h, if_neg (mt hmem.mp h), List.replicate_zero]

lemma Resolver.matchesByName_eq (interfaces : List InterfaceDeclaration)
    (ds : List MethodDeclaration) :
    (Resolver.ofDeclarations .nameOverlap interfaces ds).matchesByName
      = Relations.blocks id (methodsPerDeclarer interfaces ds) (interfaceNames interfaces) := by
  rw [Resolver.matchesByName, interfaces_ofDeclarations, entries_groupedMethods,
    List.flatMap_map, Relations.blocks]
  refine List.flatMap_congr fun name _ => ?_
  rw [methodsPerDeclarer, List.map_flatMap]
  refine List.flatMap_congr fun method _ => ?_
  rw [methods_ofDeclarations, MethodTable.items_ofDeclarations, List.flatMap_map]
  have hreceiver : ∀ type ∈ receivers ds,
      (((MethodTable.ofDeclarations ds).methodNames type).filter (· == method)).map (name, ·)
        = if decide (Declared ds type method) then [(name, method)] else [] := by
    intro type htype
    rw [filter_methodNames htype]
    by_cases h : Declared ds type method
    · simp [h]
    · simp [h]
  calc (receivers ds).flatMap (fun type =>
        (((MethodTable.ofDeclarations ds).methodNames type).filter (· == method)).map (name, ·))
      = (receivers ds).flatMap fun type =>
          if decide (Declared ds type method) then [(name, method)] else [] :=
        List.flatMap_congr hreceiver
    _ = (declarers ds method).flatMap fun _ => [(name, method)] := (flatMap_filter _ _ _).symm
    _ = List.replicate (declarers ds method).length (name, method) := by
        rw [← List.map_eq_flatMap]
        exact List.map_const'
    _ = (List.replicate (declarers ds method).length method).map (name, ·) :=
        List.map_replicate.symm

/-- Where names alone count the matches go name by name. -/
lemma resolved_eq_byName (interfaces : List InterfaceDeclaration) (ds : List MethodDeclaration) :
    resolved .nameOverlap interfaces ds
      = .ofMatches
          (Relations.blocks id (methodsPerDeclarer interfaces ds) (interfaceNames interfaces)) := by
  rw [← Resolver.matchesByName_eq]
  rfl

/-- The name of an interface holds what it contributes. -/
lemma getD_implementations_byName (interfaces : List InterfaceDeclaration)
    (ds : List MethodDeclaration) (name : String) :
    ((resolved .nameOverlap interfaces ds).implementations.get? name).getD []
      = methodsPerDeclarer interfaces ds name := by
  rw [resolved_eq_byName, Relations.getD_implementations_blocks]
  by_cases h : name ∈ interfaceNames interfaces
  · have hself : (interfaceNames interfaces).filter (fun x => id x = name) = [name] := by
      rw [← List.replicate_one, ← List.count_eq_one_of_mem (nodup_interfaceNames interfaces) h]
      exact List.filter_eq name
    rw [hself, List.flatMap_singleton]
  · -- no interface has this name, so nothing is asked for under it
    have hnone : (interfaceNames interfaces).filter (fun x => id x = name) = [] := by
      refine List.filter_eq_nil_iff.mpr fun x hx heq => ?_
      exact h (of_decide_eq_true heq ▸ hx)
    have hempty : methodsUnderName interfaces name = [] := by
      refine List.eq_nil_iff_forall_not_mem.mpr fun method hmethod => ?_
      obtain ⟨i, hi, hname, -⟩ := mem_methodsUnderName.mp hmethod
      exact h (mem_interfaceNames.mpr ⟨i, hi, hname⟩)
    rw [hnone, methodsPerDeclarer, hempty, List.flatMap_nil, List.flatMap_nil]

/-- A name has matches if an interface of that name is satisfied. -/
lemma methodsPerDeclarer_ne_nil_iff :
    methodsPerDeclarer interfaces ds name ≠ []
      ↔ ∃ i ∈ interfaces, i.name = name
        ∧ ∃ type, (Resolver.ofDeclarations .nameOverlap interfaces ds).satisfies type i := by
  simp only [Resolver.satisfies_iff, Policy.Admits]
  constructor
  · intro hne
    obtain ⟨method, hmethod⟩ := List.exists_mem_of_ne_nil _ hne
    obtain ⟨hunder, hdeclarers⟩ := mem_methodsPerDeclarer.mp hmethod
    obtain ⟨i, hi, hname, hnames⟩ := mem_methodsUnderName.mp hunder
    obtain ⟨type, htype⟩ := List.exists_mem_of_ne_nil _ hdeclarers
    obtain ⟨hreceiver, hdeclared⟩ := mem_declarers.mp htype
    exact ⟨i, hi, hname, type, hreceiver, method, hnames, hdeclared⟩
  · rintro ⟨i, hi, hname, type, hreceiver, method, hnames, hdeclared⟩
    have hunder := mem_methodsUnderName.mpr ⟨i, hi, hname, hnames⟩
    have htype := mem_declarers.mpr ⟨hreceiver, hdeclared⟩
    exact List.ne_nil_of_mem (mem_methodsPerDeclarer.mpr ⟨hunder, List.ne_nil_of_mem htype⟩)

/-- A method has an interface if one has it and some receiver declares it. -/
lemma mem_keys_interfaceOf_byName (interfaces : List InterfaceDeclaration)
    (ds : List MethodDeclaration) (method : String) :
    method ∈ (resolved .nameOverlap interfaces ds).interfaceOf.keys
      ↔ (∃ i ∈ interfaces, method ∈ i.methodNames)
        ∧ ∃ type ∈ receivers ds, Declared ds type method := by
  rw [resolved_eq_byName, Relations.mem_keys_interfaceOf_blocks, ← declarers_ne_nil_iff]
  simp only [mem_methodsPerDeclarer, mem_methodsUnderName]
  constructor
  · rintro ⟨name, -, ⟨i, hi, -, hmethod⟩, hdeclarers⟩
    exact ⟨⟨i, hi, hmethod⟩, hdeclarers⟩
  · rintro ⟨⟨i, hi, hmethod⟩, hdeclarers⟩
    exact ⟨i.name, mem_interfaceNames.mpr ⟨i, hi, rfl⟩, ⟨i, hi, rfl, hmethod⟩, hdeclarers⟩

end ByName

/-- **Relations by name.** Under `nameOverlap` the names of interfaces stand in the order in which
they first came, and one is there if an interface of this name and a type go with each other. It
holds the methods that all interfaces of this name ask for, each of them once for each type that
declares it. A method is there if an interface and a type both declare it, and holds the last name
under which it is asked for. -/
theorem relations_byName (interfaces : List InterfaceDeclaration) (ds : List MethodDeclaration) :
    (∀ name, name ∈ (resolved .nameOverlap interfaces ds).implementations.keys
        ↔ ∃ i ∈ interfaces, i.name = name
          ∧ ∃ type, (Resolver.ofDeclarations .nameOverlap interfaces ds).satisfies type i)
      ∧ (resolved .nameOverlap interfaces ds).implementations.keys.Sublist
        (interfaceNames interfaces)
      ∧ (∀ name ∈ (resolved .nameOverlap interfaces ds).implementations.keys,
        (resolved .nameOverlap interfaces ds).implementations.get? name
          = some ((methodsUnderName interfaces name).flatMap fun method =>
              List.replicate (declarers ds method).length method))
      ∧ (∀ method, method ∈ (resolved .nameOverlap interfaces ds).interfaceOf.keys
        ↔ (∃ i ∈ interfaces, method ∈ i.methodNames)
          ∧ ∃ type ∈ receivers ds, Declared ds type method)
      ∧ ∀ method ∈ (resolved .nameOverlap interfaces ds).interfaceOf.keys,
        (resolved .nameOverlap interfaces ds).interfaceOf.get? method
          = ((interfaceNames interfaces).filter fun name =>
              method ∈ methodsUnderName interfaces name).getLast? := by
  -- the names are different already, so only those that contribute nothing are left out
  have hkeys : (resolved .nameOverlap interfaces ds).implementations.keys
      = (interfaceNames interfaces).filter fun name =>
          methodsPerDeclarer interfaces ds name ≠ [] := by
    rw [resolved_eq_byName, Relations.keys_implementations_blocks, List.map_id, eraseDups_filter,
      eraseDups_of_nodup (nodup_interfaceNames interfaces)]
  refine ⟨fun name => ?_, ?_, fun name hname => ?_, mem_keys_interfaceOf_byName interfaces ds,
    fun method hmethod => ?_⟩
  · rw [hkeys, List.mem_filter, decide_eq_true_eq, methodsPerDeclarer_ne_nil_iff,
      mem_interfaceNames]
    constructor
    · rintro ⟨-, hoverlap⟩
      exact hoverlap
    · rintro ⟨i, hi, hname, hoverlap⟩
      exact ⟨⟨i, hi, hname⟩, i, hi, hname, hoverlap⟩
  · rw [hkeys]
    exact List.filter_sublist
  · rw [← OrderedMap.isSome_get?_iff, Option.isSome_iff_exists] at hname
    obtain ⟨methods, hget⟩ := hname
    have hgetD := getD_implementations_byName interfaces ds name
    rw [hget, Option.getD_some] at hgetD
    rw [hget, hgetD]
    rfl
  · have hdeclarers : declarers ds method ≠ [] :=
      declarers_ne_nil_iff.mpr ((mem_keys_interfaceOf_byName interfaces ds method).mp hmethod).2
    rw [resolved_eq_byName, Relations.get?_interfaceOf_blocks, Option.map_id, id]
    simp only [mem_methodsPerDeclarer, hdeclarers, ne_eq, not_false_eq_true, and_true]

/-- The repeated method counts twice, and each mention is one for each type. -/
example : (resolved .nameOverlap streams streamMethods).implementations.entries
    = [("Stream", ["Read", "Close", "Close", "Read"]), ("Closer", ["Close", "Close"])] := by
  decide

end InterfaceAtlas
