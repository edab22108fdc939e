import InterfaceAtlas.Declaration.MethodTable
import InterfaceAtlas.Proofs.Container.OrderedMap

/-!
# What a method table holds

A table that was filled with declarations answers as the list of the declarations does:

* its receivers are `receivers`, in the order in which they first came (`typeNames_ofDeclarations`);
* a receiver has the names it was declared with (`mem_methodNames_ofDeclarations`);
* a method of a receiver is the last one declared (`declaration?_ofDeclarations`).

A receiver is taken as spelled, so that `T` and `*T` have nothing to do with each other: what is
held for a receiver is made from `heldOf`, its own declarations (`get?_types_ofDeclarations`). All
answers of a table together are `Reflects`, and `ofDeclarations_reflects` is the main statement.
-/

namespace InterfaceAtlas

/-! ## Reading a list of declarations -/

/-- Some of the declarations gives `type` a method of this name. -/
def Declared (ds : List MethodDeclaration) (type name : String) : Prop :=
  ∃ d ∈ ds, d.receiver = type ∧ d.name = name

/-- The receivers of declarations in the order of their first appearance, those without a name left
out. -/
def receivers (ds : List MethodDeclaration) : List String :=
  (ds.map (·.receiver)).eraseDups.filter (· != "")

/-- The last declaration of a method of a type. -/
def lastDeclared? (ds : List MethodDeclaration) (type name : String) : Option MethodDeclaration :=
  (ds.filter fun d => d.receiver == type && d.name == name).getLast?

/-- A receiver is what some method is declared for, and no empty name. -/
lemma mem_receivers {ds : List MethodDeclaration} {type : String} :
    type ∈ receivers ds ↔ type ≠ "" ∧ ∃ d ∈ ds, d.receiver = type := by
  rw [receivers, List.mem_filter, List.mem_eraseDups, List.mem_map, bne_iff_ne, and_comm]

/-- Receivers come in the order in which they are first met. -/
lemma pairwise_receivers (ds : List MethodDeclaration) :
    (receivers ds).Pairwise fun a b =>
      (ds.map (·.receiver)).idxOf a < (ds.map (·.receiver)).idxOf b :=
  (pairwise_idxOf_eraseDups _).filter _

lemma nodup_receivers (ds : List MethodDeclaration) : (receivers ds).Nodup :=
  (nodup_eraseDups _).filter _

/-- What is declared is declared last by one declaration. -/
lemma exists_lastDeclared? {ds : List MethodDeclaration} {type name : String}
    (h : Declared ds type name) : ∃ d, lastDeclared? ds type name = some d := by
  obtain ⟨d, hd, hr, hn⟩ := h
  have hne : ds.filter (fun d => d.receiver == type && d.name == name) ≠ [] := by
    refine List.ne_nil_of_mem (List.mem_filter.mpr ⟨hd, ?_⟩)
    rw [hr, hn, beq_self_eq_true, beq_self_eq_true, Bool.and_self]
  exact ⟨_, List.getLast?_eq_some_getLast hne⟩

/-- The last declaration of a method is one of that method. -/
lemma of_lastDeclared?_eq_some {ds : List MethodDeclaration} {type name : String}
    {d : MethodDeclaration} (h : lastDeclared? ds type name = some d) :
    d ∈ ds ∧ d.receiver = type ∧ d.name = name := by
  obtain ⟨hd, hp⟩ := List.mem_filter.mp (List.mem_of_getLast? h)
  rw [Bool.and_eq_true, beq_iff_eq, beq_iff_eq] at hp
  exact ⟨hd, hp⟩

namespace MethodTable

/-! ## Filling a table -/

/-- The methods of one receiver, by name. -/
def byName (ds : List MethodDeclaration) : OrderedMap String MethodDeclaration :=
  ds.foldl (fun m d => m.alter d.name fun _ => d) ⟨[]⟩

lemma byName_concat (ds : List MethodDeclaration) (d : MethodDeclaration) :
    byName (ds ++ [d]) = (byName ds).insert d.name d := by
  rw [byName, List.foldl_append]
  rfl

/-- Names come in the order in which they are first met. -/
lemma keys_byName (ds : List MethodDeclaration) :
    (byName ds).keys = (ds.map (·.name)).eraseDups := by
  rw [byName, OrderedMap.keys_foldl_alter]

/-- The last of several methods of one name is held. -/
lemma get?_byName (ds : List MethodDeclaration) (name : String) :
    (byName ds).get? name = (ds.filter fun d => d.name = name).getLast? := by
  rw [byName, OrderedMap.get?_foldl_alter]
  induction ds.filter (fun d => d.name = name) using List.reverseRecOn with
  | nil => rfl
  | append_singleton own d _ =>
    rw [List.foldl_append, List.getLast?_append]
    rfl

/-- A table is made of the methods that it accepts, one after the other. -/
lemma types_ofDeclarations (ds : List MethodDeclaration) :
    (ofDeclarations ds).types
      = (ds.filter accepts).foldl
          (fun m d => m.alter d.receiver fun held => (held.getD {}).insert d.name d) ⟨[]⟩ := by
  induction ds using List.reverseRecOn with
  | nil => rfl
  | append_singleton ds d ih =>
    rw [ofDeclarations, List.foldl_append, ← ofDeclarations, List.filter_append,
      List.foldl_append, ← ih, List.foldl_cons, List.foldl_nil, add]
    by_cases h : accepts d
    · rw [if_pos h, List.filter_cons_of_pos h]
      rfl
    · rw [if_neg h, List.filter_cons_of_neg h]
      rfl

/-- The receivers of a table, in the order in which they were first declared. -/
theorem typeNames_ofDeclarations (ds : List MethodDeclaration) :
    (ofDeclarations ds).typeNames = receivers ds := by
  have haccepts : (ds.filter accepts).map (·.receiver)
      = (ds.map (·.receiver)).filter (· != "") := by
    rw [List.filter_map]
    rfl
  rw [typeNames, types_ofDeclarations, OrderedMap.keys_foldl_alter, haccepts, eraseDups_filter,
    receivers]

/-- The declarations of one receiver that a table holds. -/
def heldOf (ds : List MethodDeclaration) (type : String) : List MethodDeclaration :=
  (ds.filter accepts).filter fun d => d.receiver = type

/-- A declaration with a receiver's name is always held. -/
lemma heldOf_of_ne (ds : List MethodDeclaration) {type : String} (h : type ≠ "") :
    heldOf ds type = ds.filter fun d => d.receiver = type := by
  rw [heldOf, List.filter_filter]
  refine List.filter_congr fun d _ => ?_
  by_cases hd : d.receiver = type
  · simp [hd, accepts, h]
  · simp [hd]

lemma mem_heldOf {ds : List MethodDeclaration} {type : String} {d : MethodDeclaration} :
    d ∈ heldOf ds type ↔ d ∈ ds ∧ d.receiver ≠ "" ∧ d.receiver = type := by
  rw [heldOf, List.mem_filter, List.mem_filter, decide_eq_true_eq, accepts, bne_iff_ne, and_assoc]

/-- A table has a map for each receiver that something is held of, and this map is made from the
receiver's own declarations alone. -/
lemma get?_types_ofDeclarations (ds : List MethodDeclaration) (type : String) :
    (ofDeclarations ds).types.get? type
      = if heldOf ds type = [] then none else some (byName (heldOf ds type)) := by
  rw [types_ofDeclarations, OrderedMap.get?_foldl_alter, ← heldOf]
  induction heldOf ds type using List.reverseRecOn with
  | nil => rfl
  | append_singleton own d ih =>
    have hne : own ++ [d] ≠ [] := List.append_ne_nil_of_right_ne_nil _ (List.cons_ne_nil _ _)
    rw [List.foldl_append, ih, if_neg hne, byName_concat]
    by_cases h : own = []
    · rw [if_pos h, h]
      rfl
    · rw [if_neg h]
      rfl

/-- A table holds for a type what was declared for it, by name. -/
lemma methodsOf_eq_byName (ds : List MethodDeclaration) (type : String) :
    (ofDeclarations ds).methodsOf type = byName (heldOf ds type) := by
  rw [methodsOf, get?_types_ofDeclarations]
  split
  · next h => rw [h]; rfl
  · rfl

/-- The map of a receiver is made from the receiver's own declarations alone. -/
lemma methodsOf_ofDeclarations (ds : List MethodDeclaration) {type : String} (h : type ≠ "") :
    (ofDeclarations ds).methodsOf type = byName (ds.filter fun d => d.receiver = type) := by
  rw [methodsOf_eq_byName, heldOf_of_ne ds h]

/-- The names a receiver was declared with, in the order in which they first came. -/
theorem methodNames_ofDeclarations (ds : List MethodDeclaration) {type : String} (h : type ≠ "") :
    (ofDeclarations ds).methodNames type
      = ((ds.filter fun d => d.receiver = type).map (·.name)).eraseDups := by
  rw [methodNames, methodsOf_ofDeclarations ds h, keys_byName]

/-- The methods of a type are those that were declared for it. -/
lemma mem_methodNames_ofDeclarations {ds : List MethodDeclaration} {type name : String}
    (h : type ≠ "") : name ∈ (ofDeclarations ds).methodNames type ↔ Declared ds type name := by
  rw [methodNames_ofDeclarations ds h, List.mem_eraseDups, List.mem_map]
  simp only [List.mem_filter, decide_eq_true_eq, and_assoc, Declared]

/-- A method of a receiver is the last one that was declared. -/
theorem declaration?_ofDeclarations (ds : List MethodDeclaration) {type : String} (h : type ≠ "")
    (name : String) : (ofDeclarations ds).declaration? type name = lastDeclared? ds type name := by
  have hboth : (ds.filter fun d => d.receiver = type).filter (fun d => d.name = name)
      = ds.filter fun d => d.receiver == type && d.name == name := by
    rw [List.filter_filter]
    refine List.filter_congr fun d _ => ?_
    rw [Bool.and_comm]
    rfl
  rw [declaration?, methodsOf_ofDeclarations ds h, get?_byName, hboth, lastDeclared?]

/-- A table knows the types that something was declared for. -/
lemma contains_ofDeclarations {ds : List MethodDeclaration} {type : String} :
    (ofDeclarations ds).contains type ↔ type ∈ receivers ds := by
  rw [contains, OrderedMap.contains_iff, ← typeNames_ofDeclarations, typeNames]

lemma nodup_keys_types (ds : List MethodDeclaration) : (ofDeclarations ds).types.keys.Nodup := by
  rw [← typeNames, typeNames_ofDeclarations]
  exact nodup_receivers ds

/-- The receivers with the names of their methods. -/
lemma items_ofDeclarations (ds : List MethodDeclaration) :
    (ofDeclarations ds).items
      = (receivers ds).map fun type => (type, (ofDeclarations ds).methodNames type) := by
  rw [items, OrderedMap.entries_eq_map_keys (nodup_keys_types ds) {}, List.map_map,
    ← typeNames_ofDeclarations]
  rfl

/-- No name stands among the methods of a receiver twice. -/
lemma nodup_methodNames_ofDeclarations (ds : List MethodDeclaration) {type : String}
    (h : type ≠ "") : ((ofDeclarations ds).methodNames type).Nodup := by
  rw [methodNames_ofDeclarations ds h]
  exact nodup_eraseDups _

/-! ## All answers of a table -/

/-- The table answers as these declarations do: receivers and names stand where they first came, and
of the declarations of one method the last is held, under its own receiver and name. -/
structure Reflects (t : MethodTable) (ds : List MethodDeclaration) : Prop where
  typeNames_eq : t.typeNames = ((ds.map (·.receiver)).filter (· != "")).eraseDups
  methodNames_eq : ∀ type, t.methodNames type = ((heldOf ds type).map (·.name)).eraseDups
  declaration?_eq : ∀ type name,
    t.declaration? type name = ((heldOf ds type).filter fun d => d.name = name).getLast?
  declarations_eq : ∀ type,
    (t.declarations type).map some = (t.methodNames type).map (t.declaration? type)
  held_under : ∀ type methods, (type, methods) ∈ t.types.entries →
    ∀ name d, (name, d) ∈ methods.entries → d.receiver = type ∧ d.name = name
  items_eq : t.items = t.typeNames.map fun type => (type, t.methodNames type)
  contains_iff : ∀ type, t.contains type ↔ type ∈ t.typeNames
  size_eq : t.size = t.typeNames.length

lemma nodup_keys_byName (ds : List MethodDeclaration) : (byName ds).keys.Nodup := by
  rw [keys_byName]
  exact nodup_eraseDups _

/-- What stands in the map of a receiver under a name is a declaration of this method. -/
lemma of_mem_entries {ds : List MethodDeclaration} {type name : String}
    {methods : OrderedMap String MethodDeclaration} {d : MethodDeclaration}
    (htype : (type, methods) ∈ (ofDeclarations ds).types.entries)
    (hname : (name, d) ∈ methods.entries) : d.receiver = type ∧ d.name = name := by
  have hmethods : methods = byName (heldOf ds type) := by
    rw [OrderedMap.mem_entries_iff (nodup_keys_types ds), get?_types_ofDeclarations] at htype
    split at htype
    · cases htype
    · exact (Option.some.inj htype).symm
  rw [hmethods, OrderedMap.mem_entries_iff (nodup_keys_byName _), get?_byName] at hname
  obtain ⟨hheld, hd⟩ := List.mem_filter.mp (List.mem_of_getLast? hname)
  exact ⟨(mem_heldOf.mp hheld).2.2, of_decide_eq_true hd⟩

lemma reflects_ofDeclarations (ds : List MethodDeclaration) : Reflects (ofDeclarations ds) ds where
  typeNames_eq := by
    rw [typeNames_ofDeclarations, receivers, eraseDups_filter]
  methodNames_eq type := by
    rw [methodNames, methodsOf_eq_byName, keys_byName]
  declaration?_eq type name := by
    rw [declaration?, methodsOf_eq_byName, get?_byName]
  declarations_eq type := by
    have hnodup : ((ofDeclarations ds).methodsOf type).keys.Nodup := by
      rw [methodsOf_eq_byName]
      exact nodup_keys_byName _
    exact OrderedMap.map_some_values hnodup
  held_under type methods htype name d hname := of_mem_entries htype hname
  items_eq := by
    rw [items_ofDeclarations, typeNames_ofDeclarations]
  contains_iff type := by
    rw [contains_ofDeclarations, typeNames_ofDeclarations]
  size_eq := by
    rw [size, OrderedMap.size, typeNames, OrderedMap.keys, List.length_map]

/-- What is held for a receiver depends on its own declarations alone. -/
lemma get?_types_congr {ds es : List MethodDeclaration} {type : String}
    (h : ds.filter (fun d => d.receiver = type) = es.filter fun d => d.receiver = type) :
    (ofDeclarations ds).types.get? type = (ofDeclarations es).types.get? type := by
  have hheld : heldOf ds type = heldOf es type := by
    rw [heldOf, heldOf, List.filter_comm, h, List.filter_comm]
  rw [get?_types_ofDeclarations, get?_types_ofDeclarations, hheld]

lemma star_append_ne (type : String) : "*" ++ type ≠ type := by
  intro heq
  have hlength : ("*" ++ type).length = type.length := congrArg String.length heq
  rw [String.length_append] at hlength
  have hstar : "*".length = 1 := by decide
  omega

/-- **What a method table holds.** A table that was filled with declarations reflects them. A
declaration is turned down exactly if it has no receiver's name, and then the table stays as it is.
What is held for a receiver comes from this receiver's declarations alone; so it makes no difference
to a type what is declared for the pointer to it, nor to the pointer what is declared for the
type. -/
theorem ofDeclarations_reflects (ds : List MethodDeclaration) :
    Reflects (ofDeclarations ds) ds
      ∧ (∀ d, accepts d = false ↔ d.receiver = "")
      ∧ (∀ (t : MethodTable) (d : MethodDeclaration), accepts d = false → t.add d = t)
      ∧ (∀ es type,
          ds.filter (fun d => d.receiver = type) = es.filter (fun d => d.receiver = type) →
          (ofDeclarations ds).types.get? type = (ofDeclarations es).types.get? type)
      ∧ ∀ type,
        (ofDeclarations (ds.filter fun d => d.receiver ≠ "*" ++ type)).types.get? type
            = (ofDeclarations ds).types.get? type
          ∧ (ofDeclarations (ds.filter fun d => d.receiver ≠ type)).types.get? ("*" ++ type)
            = (ofDeclarations ds).types.get? ("*" ++ type) := by
  have hdrop : ∀ type other : String, other ≠ type →
      (ofDeclarations (ds.filter fun d => d.receiver ≠ other)).types.get? type
        = (ofDeclarations ds).types.get? type := by
    intro type other hne
    apply get?_types_congr
    rw [List.filter_filter]
    refine List.filter_congr fun d _ => ?_
    by_cases hd : d.receiver = type
    · simp [hd, Ne.symm hne]
    · simp [hd]
  refine ⟨reflects_ofDeclarations ds, fun d => ?_, fun t d hd => ?_,
    fun es type => get?_types_congr,
    fun type => ⟨hdrop _ _ (star_append_ne type), hdrop _ _ (star_append_ne type).symm⟩⟩
  · rw [accepts, bne_eq_false_iff_eq]
  · rw [add, hd, if_neg (by decide)]

/-- A method in a file, at no particular place. -/
def methodIn (file receiver name : String) : MethodDeclaration :=
  ⟨receiver, name, file, default, default⟩

/-- Methods of a type and of the pointer to it, one of them declared twice, and one method without a
receiver's name. -/
def handles : List MethodDeclaration :=
  [methodIn "a.go" "File" "Close", methodIn "a.go" "*File" "Close", methodIn "a.go" "" "Open",
    methodIn "a.go" "File" "Read", methodIn "b.go" "File" "Close"]

/-- The repeated method keeps its first place and has its last declaration, and the table without
what is declared for the pointer holds the same for the type. -/
theorem ofDeclarations_reflects_handles :
    accepts (methodIn "a.go" "" "Open") = false
      ∧ (ofDeclarations handles).add (methodIn "a.go" "" "Open") = ofDeclarations handles
      ∧ (ofDeclarations handles).typeNames = ["File", "*File"]
      ∧ (ofDeclarations handles).methodNames "File" = ["Close", "Read"]
      ∧ (ofDeclarations handles).declaration? "File" "Close" = some (methodIn "b.go" "File" "Close")
      ∧ (ofDeclarations (handles.filter fun d => d.receiver = "File")).types.get? "File"
        = (ofDeclarations handles).types.get? "File" := by
  have hturned : accepts (methodIn "a.go" "" "Open") = false := by decide
  obtain ⟨hreflects, -, hkept, hown, -⟩ := ofDeclarations_reflects handles
  refine ⟨hturned, hkept _ _ hturned, ?_, ?_, ?_, ?_⟩
  · rw [hreflects.typeNames_eq]
    decide
  · rw [hreflects.methodNames_eq]
    decide
  · rw [hreflects.declaration?_eq]
    decide
  · exact (hown (handles.filter fun d => d.receiver = "File") "File" (by decide)).symm

end MethodTable

end InterfaceAtlas
