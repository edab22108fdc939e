import InterfaceAtlas.Declaration.Methods
import InterfaceAtlas.Proofs.Declaration.Interfaces
import InterfaceAtlas.Proofs.Declaration.MethodTable
import InterfaceAtlas.Proofs.Syntax.Walk

/-!
# Receivers of methods

A method table knows a receiver by a text alone, `T` for a type and `*T` for the pointer to it.
`HasReceiver` says of a tree what receiver a method has, whatever else stands around the type. Where
types have names as in Go (`IsTypeName`), nothing is lost in between: two methods come under the
same text if and only if they have the same receiver (`receivers_identified`).
-/

namespace InterfaceAtlas

/-! ## Where a declaration is put -/

/-- Every table that gets the declaration has it under `type` then, whatever it held before. -/
def MethodDeclaration.LandsUnder (d : MethodDeclaration) (type : String) : Prop :=
  ∀ t : MethodTable, (t.add d).declaration? type d.name = some d

/-- No table takes the declaration, and none that is filled has it. -/
structure MethodDeclaration.IsNeverHeld (d : MethodDeclaration) : Prop where
  add_eq : ∀ t : MethodTable, t.add d = t
  declaration?_ne : ∀ ds type name, (MethodTable.ofDeclarations ds).declaration? type name ≠ some d

namespace MethodTable

variable {d : MethodDeclaration}

/-- A method that was added is found under its receiver and name. -/
lemma declaration?_add (t : MethodTable) (hd : d.receiver ≠ "") :
    (t.add d).declaration? d.receiver d.name = some d := by
  rw [add, if_pos (by simpa [accepts] using hd), declaration?, methodsOf,
    OrderedMap.get?_alter_self, Option.getD_some, OrderedMap.insert, OrderedMap.get?_alter_self]

/-- It is not found under any other receiver. -/
lemma declaration?_add_empty_of_ne {type : String} (h : d.receiver ≠ type) (name : String) :
    (({} : MethodTable).add d).declaration? type name = none := by
  rw [add]
  split
  · rw [declaration?, methodsOf, OrderedMap.get?_alter_of_ne _ (Ne.symm h)]
    rfl
  · rfl

/-- A declaration lands under its receiver and nowhere else, if it has one. -/
theorem landsUnder_iff {type : String} :
    d.LandsUnder type ↔ d.receiver ≠ "" ∧ d.receiver = type := by
  constructor
  · intro h
    have hempty := h {}
    constructor
    · intro hnone
      rw [add, if_neg (by simp [accepts, hnone])] at hempty
      cases hempty
    · by_contra hne
      rw [declaration?_add_empty_of_ne hne] at hempty
      cases hempty
  · rintro ⟨hd, rfl⟩ t
    exact t.declaration?_add hd

/-- What a table holds was put in, so it has a receiver. -/
lemma isNeverHeld_of_receiver_eq (hd : d.receiver = "") : d.IsNeverHeld where
  add_eq t := by rw [add, if_neg (by simp [accepts, hd])]
  declaration?_ne ds type name h := by
    rw [declaration?, methodsOf_eq_byName, get?_byName] at h
    have hheld := (List.mem_filter.mp (List.mem_of_getLast? h)).1
    exact (mem_heldOf.mp hheld).2.1 hd

end MethodTable

namespace Declaration

open Node

/-! ## Receivers -/

/-- A receiver under which methods can be found: a named type, or the pointer to one. -/
structure Receiver where
  pointer : Bool
  name : String
deriving DecidableEq, Repr

/-- The text that a table knows the receiver by. -/
def Receiver.key (r : Receiver) : String := if r.pointer then "*" ++ r.name else r.name

/-- A text that can name a type. -/
structure IsTypeName (name : String) : Prop where
  ne_empty : name ≠ ""
  no_star : name.toList.head? ≠ some '*'

instance (name : String) : Decidable (IsTypeName name) :=
  decidable_of_iff (name ≠ "" ∧ name.toList.head? ≠ some '*')
    ⟨fun ⟨hfilled, hplain⟩ => ⟨hfilled, hplain⟩, fun h => ⟨h.1, h.2⟩⟩

lemma head?_star_append (name : String) : ("*" ++ name).toList.head? = some '*' := by
  rw [String.toList_append]
  rfl

/-- The key of a receiver begins with a star if and only if the receiver is a pointer. -/
lemma IsTypeName.head?_key {r : Receiver} (h : IsTypeName r.name) :
    (r.key.toList.head? == some '*') = r.pointer := by
  obtain ⟨pointer, name⟩ := r
  cases pointer with
  | false => exact beq_eq_false_iff_ne.mpr h.no_star
  | true => exact beq_iff_eq.mpr (head?_star_append name)

lemma IsTypeName.key_ne_empty {r : Receiver} (h : IsTypeName r.name) : r.key ≠ "" := by
  obtain ⟨pointer, name⟩ := r
  cases pointer with
  | false => exact h.ne_empty
  | true =>
    intro hempty
    have hhead := head?_star_append name
    rw [show "*" ++ name = "" from hempty] at hhead
    cases hhead

/-- Receivers are told apart by their keys. -/
theorem Receiver.key_injective {r s : Receiver} (hr : IsTypeName r.name) (hs : IsTypeName s.name)
    (h : r.key = s.key) : r = s := by
  have hpointer : r.pointer = s.pointer := by rw [← hr.head?_key, ← hs.head?_key, h]
  obtain ⟨pointer, name⟩ := r
  obtain ⟨_, name'⟩ := s
  obtain rfl : pointer = _ := hpointer
  cases pointer with
  | false => exact congrArg _ h
  | true => exact congrArg _ ((String.append_right_inj "*").mp h)

variable {file : String} {n type root : Node} {r : Receiver}

/-- Whether a node is a parameter of the ordinary kind. -/
def IsParameter (n : Node) : Prop := n.named ∧ n.kind = "parameter_declaration"

instance (n : Node) : Decidable (IsParameter n) :=
  inferInstanceAs (Decidable (n.named ∧ n.kind = "parameter_declaration"))

/-- The first parameter in the receiver list of `n` has this type. What else is in the list, and
what else the parameter has, is left open. -/
inductive HasReceiverType (n type : Node) : Prop where
  | intro (list parameter : Node) (before after : List Node)
    (list_eq : n.child? "receiver" = some list)
    (children_eq : list.children = before ++ parameter :: after)
    (first : ∀ c ∈ before, ¬IsParameter c)
    (isParameter : IsParameter parameter)
    (type_eq : parameter.child? "type" = some type)

/-- The method `n` has the receiver: a type with this name, or a pointer in which nothing but
comments and punctuation stands around the name. -/
inductive HasReceiver (n : Node) : Receiver → Prop where
  | value (type : Node) (hasType : HasReceiverType n type)
    (kind_eq : type.kind = "type_identifier") :
    HasReceiver n ⟨false, type.text⟩
  | pointer (type inner : Node) (before after : List Node) (hasType : HasReceiverType n type)
    (kind_eq : type.kind = "pointer_type") (children_eq : type.children = before ++ inner :: after)
    (alone : ∀ c ∈ before ++ after, c.named → c.kind = "comment")
    (named : inner.named) (inner_eq : inner.kind = "type_identifier") :
    HasReceiver n ⟨true, inner.text⟩

/-! ## Reading a receiver -/

/-- The first parameter of a list is what stands behind nodes of other kinds. -/
lemma head?_parameters_iff {list parameter : Node} :
    (list.namedChildren.filter fun c => c.kind == "parameter_declaration").head? = some parameter
      ↔ ∃ before after, list.children = before ++ parameter :: after
        ∧ (∀ c ∈ before, ¬IsParameter c) ∧ IsParameter parameter := by
  rw [namedChildren, List.filter_filter, List.head?_filter, List.find?_eq_some_iff_append]
  simp only [IsParameter, Bool.and_eq_true, beq_iff_eq, Bool.not_eq_true', ← Bool.not_eq_true]
  constructor
  · rintro ⟨⟨hkind, hnamed⟩, before, after, hchildren, hfirst⟩
    exact ⟨before, after, hchildren, fun c hc h => hfirst c hc ⟨h.2, h.1⟩, hnamed, hkind⟩
  · rintro ⟨before, after, hchildren, hfirst, hnamed, hkind⟩
    exact ⟨⟨hkind, hnamed⟩, before, after, hchildren, fun c hc h => hfirst c hc ⟨h.2, h.1⟩⟩

/-- Without comments, a pointer type has a single member if nothing else but comments and
punctuation stands around it. -/
lemma uncommented_eq_singleton_iff {type inner : Node} :
    (type.namedChildren.filter fun c => c.kind != "comment") = [inner]
      ↔ ∃ before after, type.children = before ++ inner :: after
        ∧ (∀ c ∈ before ++ after, c.named → c.kind = "comment")
        ∧ inner.named ∧ inner.kind ≠ "comment" := by
  rw [namedChildren, List.filter_filter, List.filter_eq_cons_iff]
  refine exists_congr fun before => exists_congr fun after => and_congr_right fun _ => ?_
  simp only [List.filter_eq_nil_iff, List.forall_mem_append, Bool.and_eq_true, bne_iff_ne, ne_eq,
    not_and]
  constructor
  · rintro ⟨hbefore, ⟨hkind, hnamed⟩, hafter⟩
    exact ⟨⟨fun c hc h => by_contra fun hne => hbefore c hc hne h,
      fun c hc h => by_contra fun hne => hafter c hc hne h⟩, hnamed, hkind⟩
  · rintro ⟨⟨hbefore, hafter⟩, hnamed, hkind⟩
    exact ⟨fun c hc hne h => hne (hbefore c hc h), ⟨hkind, hnamed⟩,
      fun c hc hne h => hne (hafter c hc h)⟩

/-- What is made of the type of a receiver. -/
def typeKey (type : Node) : String :=
  if type.kind == "type_identifier" then type.text
  else if type.kind == "pointer_type" then pointerName type
  else ""

/-- The receiver of a method is known by the key of its type. -/
lemma value_receiverNameOf_of_type (h : HasReceiverType n type) :
    (receiverNameOf (n.child? "receiver")).value = typeKey type := by
  obtain ⟨list, parameter, before, after, hlist, hchildren, hfirst, hparameter, htype⟩ := h
  have hhead := head?_parameters_iff.mpr ⟨before, after, hchildren, hfirst, hparameter⟩
  rw [hlist, receiverNameOf, receiverName, typeKey]
  simp only [hhead, Option.bind_some, htype]
  split
  · rfl
  · split <;> rfl

/-- Where a receiver is known at all, it has a type. -/
lemma exists_type_of_value_ne (h : (receiverNameOf (n.child? "receiver")).value ≠ "") :
    ∃ type, HasReceiverType n type := by
  cases hlist : n.child? "receiver" with
  | none =>
    rw [hlist] at h
    exact absurd rfl h
  | some list =>
    rw [hlist, receiverNameOf, receiverName] at h
    cases htype : (list.namedChildren.filter fun c => c.kind == "parameter_declaration").head?.bind
        fun p => p.child? "type" with
    | none =>
      simp only [htype] at h
      exact absurd rfl h
    | some type =>
      obtain ⟨parameter, hparameter, htype⟩ := Option.bind_eq_some_iff.mp htype
      obtain ⟨before, after, hchildren, hfirst, hordinary⟩ := head?_parameters_iff.mp hparameter
      exact ⟨type, list, parameter, before, after, hlist, hchildren, hfirst, hordinary, htype⟩

/-- A receiver is read as the text it is known by. -/
theorem value_receiverNameOf (h : HasReceiver n r) :
    (receiverNameOf (n.child? "receiver")).value = r.key := by
  cases h with
  | value type hasType kind_eq =>
    rw [value_receiverNameOf_of_type hasType, typeKey, if_pos (by rw [kind_eq]; rfl)]
    rfl
  | pointer type inner before after hasType kind_eq children_eq alone named inner_eq =>
    have hsingle := uncommented_eq_singleton_iff.mpr
      ⟨before, after, children_eq, alone, named, by rw [inner_eq]; decide⟩
    rw [value_receiverNameOf_of_type hasType, typeKey, kind_eq, if_neg (by decide),
      if_pos (by rfl), pointerName, hsingle]
    simp only [inner_eq]
    rfl

/-- Only of a receiver a text is read that is not empty. -/
theorem exists_hasReceiver (h : (receiverNameOf (n.child? "receiver")).value ≠ "") :
    ∃ r, HasReceiver n r := by
  obtain ⟨type, htype⟩ := exists_type_of_value_ne h
  rw [value_receiverNameOf_of_type htype, typeKey] at h
  split at h
  · next hkind => exact ⟨_, .value type htype (by simpa using hkind)⟩
  · split at h
    · next hkind =>
      rw [pointerName] at h
      split at h
      · next inner hsingle =>
        split at h
        · next hinner =>
          obtain ⟨before, after, hchildren, halone, hnamed, -⟩ :=
            uncommented_eq_singleton_iff.mp hsingle
          exact ⟨_, .pointer type inner before after htype (by simpa using hkind) hchildren halone
            hnamed (by simpa using hinner)⟩
        · exact absurd rfl h
      · exact absurd rfl h
    · exact absurd rfl h

/-! ## Methods that are listed -/

/-- A node of a tree that declares a method with a name. -/
structure IsMethod (root n : Node) : Prop where
  mem : n ∈ root.nodes
  named : n.named
  kind_eq : n.kind = "method_declaration"
  name_ne : fieldText n "name" ≠ ""

/-- The methods of a tree have a declaration that is made of the node. -/
structure Lists (file : String) (root n : Node) (d : MethodDeclaration) : Prop where
  mem : d ∈ (methodsOf file root).value
  made : (methodOf file n).value = some d

/-- A method with a name is listed, whatever its receiver. -/
lemma exists_lists (file : String) (h : IsMethod root n) :
    ∃ d, Lists file root n d ∧ d.receiver = (receiverNameOf (n.child? "receiver")).value := by
  obtain ⟨hmem, hnamed, hkind, hname⟩ := h
  have hmade : (methodOf file n).value = some
      { receiver := (receiverNameOf (n.child? "receiver")).value, name := fieldText n "name", file
        start := Location.ofPoint file n.start, stop := Location.ofPoint file n.stop } := by
    rw [methodOf, if_neg (by simpa using hname)]
    rfl
  refine ⟨_, ⟨?_, hmade⟩, rfl⟩
  rw [methodsOf, dispatch_eq_collect (· == "method_declaration"), Logged.value_collect]
  exact List.mem_filterMap.mpr ⟨n, List.mem_filter.mpr ⟨hmem, by simp [hnamed, hkind]⟩, hmade⟩

/-- The name of a receiver is that of a type in the tree. -/
lemma HasReceiver.isTypeName (h : HasReceiver n r) (hn : n ∈ root.nodes)
    (hnames : ∀ m ∈ root.nodes, m.kind = "type_identifier" → IsTypeName m.text) :
    IsTypeName r.name := by
  have hmem : ∀ type, HasReceiverType n type → type ∈ root.nodes := by
    rintro type ⟨list, parameter, before, after, hlist, hchildren, -, -, htype⟩
    have hbelow : list ∈ root.nodes :=
      children_subset_nodes hn (List.mem_of_find?_eq_some hlist)
    have hparameter : parameter ∈ root.nodes :=
      children_subset_nodes hbelow (by simp [hchildren])
    exact children_subset_nodes hparameter (List.mem_of_find?_eq_some htype)
  cases h with
  | value type hasType kind_eq => exact hnames type (hmem type hasType) kind_eq
  | pointer type inner before after hasType kind_eq children_eq alone named inner_eq =>
    exact hnames inner (children_subset_nodes (hmem type hasType) (by simp [children_eq])) inner_eq

/-- Tables know a method by its receiver's key, and one without a receiver they do not know. -/
theorem exists_listed (file : String) (h : IsMethod root n)
    (hnames : ∀ m ∈ root.nodes, m.kind = "type_identifier" → IsTypeName m.text) :
    ∃ d, Lists file root n d
      ∧ (∀ type, d.LandsUnder type ↔ ∃ r, HasReceiver n r ∧ r.key = type)
      ∧ (∀ r, HasReceiver n r → d.hasPointer = r.pointer)
      ∧ ((¬∃ r, HasReceiver n r) → d.IsNeverHeld) := by
  obtain ⟨d, hd, hreceiver⟩ := exists_lists file h
  refine ⟨d, hd, fun type => ⟨fun hland => ?_, ?_⟩, fun r hr => ?_, fun hnone => ?_⟩
  · obtain ⟨hne, htype⟩ := MethodTable.landsUnder_iff.mp hland
    rw [hreceiver] at hne htype
    obtain ⟨r, hr⟩ := exists_hasReceiver hne
    exact ⟨r, hr, (value_receiverNameOf hr).symm.trans htype⟩
  · rintro ⟨r, hr, rfl⟩
    have hkey : d.receiver = r.key := hreceiver.trans (value_receiverNameOf hr)
    have hne : d.receiver ≠ "" := hkey ▸ (hr.isTypeName h.mem hnames).key_ne_empty
    exact MethodTable.landsUnder_iff.mpr ⟨hne, hkey⟩
  · have hkey : d.receiver = r.key := hreceiver.trans (value_receiverNameOf hr)
    rw [MethodDeclaration.hasPointer, hkey]
    exact (hr.isTypeName h.mem hnames).head?_key
  · apply MethodTable.isNeverHeld_of_receiver_eq
    by_contra hne
    exact hnone (exists_hasReceiver (hreceiver ▸ hne))

/-- **Receivers are told apart.** Two methods with names, each of a tree with proper names of types,
are both listed. There is a text under which tables put both if and only if they have the same
receiver: both a type or both a pointer, with the same name. This text is the receiver's key, and
only that of a pointer has a star. A method without such a receiver is in no table. -/
theorem receivers_identified {root₁ root₂ n₁ n₂ : Node} (file₁ file₂ : String)
    (hnames₁ : ∀ m ∈ root₁.nodes, m.kind = "type_identifier" → IsTypeName m.text)
    (hnames₂ : ∀ m ∈ root₂.nodes, m.kind = "type_identifier" → IsTypeName m.text)
    (h₁ : IsMethod root₁ n₁) (h₂ : IsMethod root₂ n₂) :
    ∃ d₁ d₂, Lists file₁ root₁ n₁ d₁ ∧ Lists file₂ root₂ n₂ d₂
      ∧ ((∃ type, d₁.LandsUnder type ∧ d₂.LandsUnder type)
        ↔ ∃ r, HasReceiver n₁ r ∧ HasReceiver n₂ r)
      ∧ (∀ r, HasReceiver n₁ r → d₁.LandsUnder r.key ∧ d₁.hasPointer = r.pointer)
      ∧ ((¬∃ r, HasReceiver n₁ r) → d₁.IsNeverHeld) := by
  obtain ⟨d₁, hlists₁, hlands₁, hpointer, hnever⟩ := exists_listed file₁ h₁ hnames₁
  obtain ⟨d₂, hlists₂, hlands₂, -, -⟩ := exists_listed file₂ h₂ hnames₂
  refine ⟨d₁, d₂, hlists₁, hlists₂, ⟨?_, ?_⟩, fun r hr => ?_, hnever⟩
  · rintro ⟨type, hland₁, hland₂⟩
    obtain ⟨r, hr, hkey⟩ := (hlands₁ type).mp hland₁
    obtain ⟨s, hs, rfl⟩ := (hlands₂ type).mp hland₂
    obtain rfl := Receiver.key_injective (hr.isTypeName h₁.mem hnames₁)
      (hs.isTypeName h₂.mem hnames₂) hkey
    exact ⟨r, hr, hs⟩
  · rintro ⟨r, hr, hs⟩
    exact ⟨r.key, (hlands₁ r.key).mpr ⟨r, hr, rfl⟩, (hlands₂ r.key).mpr ⟨r, hs, rfl⟩⟩
  · exact ⟨(hlands₁ r.key).mpr ⟨r, hr, rfl⟩, hpointer r hr⟩

/-- The type `T`. -/
def typeT : Node := .mk { kind := "type_identifier", text := some [0x54] } []

/-- The pointer to `T`, with some nodes in front of the name. -/
def pointerToT (front : List Node) : Node :=
  .mk { kind := "pointer_type", field := some "type" } (front ++ [typeT])

/-- A method `M` with a list of receivers. -/
def methodM (receivers : List Node) : Node :=
  .mk { kind := "method_declaration" } [
    .mk { kind := "parameter_list", field := some "receiver" } receivers,
    .mk { kind := "field_identifier", text := some [0x4d], field := some "name" } []]

/-- The method of a bare `*T`. -/
def bare : Node := methodM [.mk { kind := "parameter_declaration" } [pointerToT []]]

/-- The method of a `*T` that has a name, with comments around it and a second receiver behind. -/
def dressed : Node :=
  methodM [
    .mk { kind := "(", named := false } [],
    .mk { kind := "comment" } [],
    .mk { kind := "parameter_declaration" } [
      .mk { kind := "identifier", text := some [0x74], field := some "name" } [],
      pointerToT [.mk { kind := "*", named := false } [], .mk { kind := "comment" } []]],
    .mk { kind := "parameter_declaration" } [typeT.inField "type"],
    .mk { kind := ")", named := false } []]

/-- The method of a `T`. -/
def direct : Node := methodM [.mk { kind := "parameter_declaration" } [typeT.inField "type"]]

/-- A pointer is the same whatever stands around it, and it is not the type. -/
theorem receivers_identified_dressed :
    (∀ tree ∈ [bare, dressed, direct], IsMethod tree tree
        ∧ ∀ m ∈ tree.nodes, m.kind = "type_identifier" → IsTypeName m.text)
      ∧ (∃ d₁ d₂, Lists "a.go" bare bare d₁ ∧ Lists "b.go" dressed dressed d₂
        ∧ ∃ type, d₁.LandsUnder type ∧ d₂.LandsUnder type)
      ∧ ∃ d₁ d₂, Lists "b.go" dressed dressed d₁ ∧ Lists "c.go" direct direct d₂
        ∧ ¬∃ type, d₁.LandsUnder type ∧ d₂.LandsUnder type := by
  have htrees : ∀ tree ∈ [bare, dressed, direct], IsMethod tree tree
      ∧ ∀ m ∈ tree.nodes, m.kind = "type_identifier" → IsTypeName m.text := by
    simp only [List.forall_mem_cons]
    exact ⟨⟨⟨bare.self_mem_nodes, rfl, rfl, by decide⟩, by decide⟩,
      ⟨⟨dressed.self_mem_nodes, rfl, rfl, by decide⟩, by decide⟩,
      ⟨⟨direct.self_mem_nodes, rfl, rfl, by decide⟩, by decide⟩, by simp⟩
  obtain ⟨hbare, hnames⟩ := htrees bare (by simp)
  obtain ⟨hdressed, hnames'⟩ := htrees dressed (by simp)
  obtain ⟨hdirect, hnames''⟩ := htrees direct (by simp)
  refine ⟨htrees, ?_, ?_⟩
  · have hr : HasReceiver bare ⟨true, typeT.text⟩ :=
      .pointer _ typeT [] [] (.intro _ _ [] [] rfl rfl (by decide) (by decide) rfl) rfl rfl
        (by decide) rfl rfl
    have hs : HasReceiver dressed ⟨true, typeT.text⟩ :=
      .pointer _ typeT [_, _] [] (.intro _ _ [_, _] [_, _] rfl rfl (by decide) (by decide) rfl) rfl
        rfl (by decide) rfl rfl
    obtain ⟨d₁, d₂, hd₁, hd₂, hsame, -⟩ :=
      receivers_identified "a.go" "b.go" hnames hnames' hbare hdressed
    exact ⟨d₁, d₂, hd₁, hd₂, hsame.mpr ⟨_, hr, hs⟩⟩
  · obtain ⟨d₁, d₂, hd₁, hd₂, hsame, -⟩ :=
      receivers_identified "b.go" "c.go" hnames' hnames'' hdressed hdirect
    refine ⟨d₁, d₂, hd₁, hd₂, fun hland => ?_⟩
    obtain ⟨r, hr, hs⟩ := hsame.mp hland
    have hkeys := (value_receiverNameOf hr).trans (value_receiverNameOf hs).symm
    exact absurd hkeys (by decide)

end Declaration

end InterfaceAtlas
