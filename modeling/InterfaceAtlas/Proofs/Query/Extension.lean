import InterfaceAtlas.Proofs.Matching.Resolution
import InterfaceAtlas.Proofs.Query.Implementations

/-!
# Seeing more code

More declarations can only add to the methods of a type. Under `subset` and `nameOverlap` a type
therefore keeps each interface that it goes with, while under `exact` it may lose one.

* `DeclaredIn` orders lists of declarations by what they declare, whatever declares it, in whatever
  order and however often; `DeclaredIn.satisfies` is what a resolver keeps along this order.
* `selection` is what a scope answers for a method, and `implementations_result_selection` says that
  the query answers this for the scope of its sources.
* `satisfaction_kept` puts together what this means for resolvers, for selections and for the types
  of one source in a larger scope.
-/

namespace InterfaceAtlas

/-- Each method of the first declarations is declared by the second ones. -/
def DeclaredIn (ds es : List MethodDeclaration) : Prop :=
  ∀ d ∈ ds, Declared es d.receiver d.name

instance (ds es : List MethodDeclaration) : Decidable (DeclaredIn ds es) :=
  inferInstanceAs (Decidable (∀ d ∈ ds, _))

namespace DeclaredIn

variable {ds es : List MethodDeclaration} {type name : String} {i : InterfaceDeclaration}
  {policy : Policy}

/-- More declarations declare what fewer do. -/
lemma of_subset (h : ds ⊆ es) : DeclaredIn ds es := by
  intro d hd
  exact ⟨d, h hd, rfl, rfl⟩

lemma declared (h : DeclaredIn ds es) (hname : Declared ds type name) : Declared es type name := by
  obtain ⟨d, hd, hreceiver, hdname⟩ := hname
  have hkept : Declared es d.receiver d.name := h d hd
  rwa [hreceiver, hdname] at hkept

/-- A receiver goes on being one when more is declared. -/
lemma mem_receivers (h : DeclaredIn ds es) (htype : type ∈ receivers ds) :
    type ∈ receivers es := by
  rw [InterfaceAtlas.mem_receivers] at htype ⊢
  obtain ⟨hne, d, hd, hreceiver⟩ := htype
  obtain ⟨e, he, hkept, -⟩ := h d hd
  exact ⟨hne, e, he, hkept.trans hreceiver⟩

/-- A type that covers an interface goes on covering it when more is declared. -/
lemma covers (h : DeclaredIn ds es) (hcovers : Covers ds type i) : Covers es type i := by
  intro method hmethod
  exact h.declared (hcovers method hmethod)

/-- What a policy asks for is kept, unless it asks for nothing more to be there. -/
lemma admits (h : DeclaredIn ds es) (hpolicy : policy ≠ .exact)
    (hadmits : policy.Admits ds type i) : policy.Admits es type i := by
  cases policy with
  | subset => exact h.covers hadmits
  | exact => exact absurd rfl hpolicy
  | nameOverlap =>
    obtain ⟨method, hmethod, hdeclared⟩ := hadmits
    exact ⟨method, hmethod, h.declared hdeclared⟩

/-- A type keeps an interface that it goes with. -/
lemma satisfies (h : DeclaredIn ds es) (hpolicy : policy ≠ .exact)
    {interfaces : List InterfaceDeclaration}
    (hsatisfies : (Resolver.ofDeclarations policy interfaces ds).satisfies type i) :
    (Resolver.ofDeclarations policy interfaces es).satisfies type i := by
  rw [Resolver.satisfies_iff] at hsatisfies ⊢
  exact ⟨h.mem_receivers hsatisfies.1, h.admits hpolicy hsatisfies.2⟩

end DeclaredIn

/-! ## More sources -/

/-- The scope of some files, without the diagnostics. -/
lemma Scope.ofSources_value (sources : List Source) :
    (Scope.ofSources sources).value
      = { interfaces := sources.flatMap fun s => s.interfaces.value
          methods := sources.flatMap fun s => s.methods.value } := by
  simp only [Scope.ofSources, Scope.concat, Logged.value_bind, Logged.value_pure,
    Logged.value_mapM, List.flatMap_map]
  rfl

/-- The receivers seen so far stay where they are. -/
lemma receivers_isPrefix_append (ds es : List MethodDeclaration) :
    receivers ds <+: receivers (ds ++ es) := by
  rw [receivers, receivers, List.map_append, List.eraseDups_append, List.filter_append]
  exact List.prefix_append _ _

/-- The types that cover an interface do so with more declarations behind, in the same order. -/
lemma filter_covers_sublist_append (ds es : List MethodDeclaration) (i : InterfaceDeclaration) :
    ((receivers ds).filter fun type => Covers ds type i).Sublist
      ((receivers (ds ++ es)).filter fun type => Covers (ds ++ es) type i) := by
  have hmore : DeclaredIn ds (ds ++ es) := .of_subset (List.subset_append_left ds es)
  have hkept : ((receivers ds).filter fun type => Covers ds type i).Sublist
      ((receivers ds).filter fun type => Covers (ds ++ es) type i) := by
    apply List.monotone_filter_right
    intro type hcovers
    exact decide_eq_true (hmore.covers (of_decide_eq_true hcovers))
  exact hkept.trans ((receivers_isPrefix_append ds es).sublist.filter _)

namespace Query

/-- What a scope answers for a method: the methods of this name on the types that implement the
first interface that names it. -/
def selection (scope : Scope) (method : String) : List MethodDeclaration :=
  match scope.interfacesDeclaring method with
  | [] => []
  | target :: _ => implementationsFor scope target method

/-- The query answers with the selection from the scope of the sources that it scans. -/
lemma implementations_result_selection {parser : Parser} {fs : FileSystem} {settings : Settings}
    {root method : String} (hroot : Text.isBlankText root = false)
    (hmethod : Text.isBlankText method = false)
    (hscan : fs.scanFault? parser settings root true = none) :
    result (implementations parser fs settings (.text root) (.text method))
      = .ok (selection (Scope.ofSources (fs.sources parser settings root true)).value method) := by
  have hscope : (Scope.ofSources (fs.sources parser settings root true)).value
      = fs.scopeUnder parser settings root := Scope.ofSources_value _
  have hcandidates : (fs.interfacesUnder parser settings root).filter (fun i => i.declares method)
      = (fs.scopeUnder parser settings root).interfacesDeclaring method := rfl
  rw [implementations_result hroot hmethod hscan, hscope, ← List.head?_filter, hcandidates,
    selection]
  cases (fs.scopeUnder parser settings root).interfacesDeclaring method with
  | nil => rfl
  | cons target others => rfl

/-- A selection reports the types that cover the interface it looks at. -/
lemma map_receiver_selection {scope : Scope} {method : String} {target : InterfaceDeclaration}
    {others : List InterfaceDeclaration}
    (h : scope.interfacesDeclaring method = target :: others) :
    (selection scope method).map (·.receiver)
      = (receivers scope.methods).filter fun type => Covers scope.methods type target := by
  have htarget : target ∈ scope.interfacesDeclaring method := by
    rw [h]
    exact List.mem_cons_self
  have hmethod : method ∈ target.methodNames := declares_iff.mp (List.mem_filter.mp htarget).2
  rw [selection, h]
  exact map_receiver_implementationsFor scope hmethod

/-- With more sources behind, a selection looks at the same interface and reports the types it
reported, in the same order. -/
lemma selection_sublist_append (sources more : List Source) (method : String) :
    ((selection (Scope.ofSources sources).value method).map (·.receiver)).Sublist
      ((selection (Scope.ofSources (sources ++ more)).value method).map (·.receiver)) := by
  cases h : (Scope.ofSources sources).value.interfacesDeclaring method with
  | nil =>
    rw [selection, h]
    exact List.nil_sublist _
  | cons target others =>
    have hmore : (Scope.ofSources (sources ++ more)).value.interfacesDeclaring method
        = target :: (others ++ (Scope.ofSources more).value.interfacesDeclaring method) := by
      rw [← List.cons_append, ← h]
      simp only [Scope.interfacesDeclaring, Scope.ofSources_value, List.flatMap_append,
        List.filter_append]
    rw [map_receiver_selection h, map_receiver_selection hmore]
    simp only [Scope.ofSources_value, List.flatMap_append]
    exact filter_covers_sublist_append _ _ target

/-- **More code keeps what is satisfied.** Where each method that was declared is declared still, a
type goes with the interfaces it went with, in their order, under `subset` and under `nameOverlap`.
The query for a method answers with the selection from its sources, and with more sources behind,
the types that are selected are those from before, in their order, and perhaps others. A type that
goes with an interface by the methods of one source does so by those of all. -/
theorem satisfaction_kept :
    (∀ policy : Policy, policy ≠ .exact → ∀ ds es, DeclaredIn ds es → ∀ interfaces type,
        ((Resolver.ofDeclarations policy interfaces ds).satisfiedInterfaces type).Sublist
          ((Resolver.ofDeclarations policy interfaces es).satisfiedInterfaces type))
      ∧ (∀ parser fs settings root method, Text.isBlankText root = false →
          Text.isBlankText method = false → fs.scanFault? parser settings root true = none →
            result (implementations parser fs settings (.text root) (.text method))
              = .ok (selection (Scope.ofSources (fs.sources parser settings root true)).value
                  method))
      ∧ (∀ sources more method,
        ((selection (Scope.ofSources sources).value method).map (·.receiver)).Sublist
          ((selection (Scope.ofSources (sources ++ more)).value method).map (·.receiver)))
      ∧ ∀ policy : Policy, policy ≠ .exact → ∀ sources, ∀ s ∈ sources, ∀ interfaces type i,
        (Resolver.ofDeclarations policy interfaces s.methods.value).satisfies type i →
          (Resolver.ofDeclarations policy interfaces
            (Scope.ofSources sources).value.methods).satisfies type i := by
  refine ⟨?_, ?_, selection_sublist_append, ?_⟩
  · intro policy hpolicy ds es h interfaces type
    apply List.monotone_filter_right
    intro i hsatisfies
    exact h.satisfies hpolicy hsatisfies
  · intro parser fs settings root method hroot hmethod hscan
    exact implementations_result_selection hroot hmethod hscan
  · intro policy hpolicy sources s hs interfaces type i hsatisfies
    have hpart : DeclaredIn s.methods.value (Scope.ofSources sources).value.methods := by
      apply DeclaredIn.of_subset
      intro d hd
      rw [Scope.ofSources_value]
      exact List.mem_flatMap.mpr ⟨s, hs, hd⟩
    exact hpart.satisfies hpolicy hsatisfies

-- under `exact` one method more is enough to lose an interface
example :
    ((Resolver.ofDeclarations .exact streams (declaredOn "*File" ["Close"])).satisfiedInterfaces
        "*File").map (·.name) = ["Closer"]
      ∧ ((Resolver.ofDeclarations .exact streams streamMethods).satisfiedInterfaces
        "*File").map (·.name) = ["Stream"] := by
  decide

/-- A source with one method. -/
def sourceOf (path receiver method : String) : Source where
  path := path
  tree := methodNode receiver method
  content := []

/-- A lock can be closed, with the methods of its own file alone and with those of another one
behind; the methods of files that are seen besides take no interface away from it. -/
theorem satisfaction_kept_lock :
    (Policy.subset ≠ .exact ∧ DeclaredIn (declaredOn "Lock" ["Close"]) streamMethods
        ∧ ((Resolver.ofDeclarations .subset streams
              (declaredOn "Lock" ["Close"])).satisfiedInterfaces "Lock").Sublist
          ((Resolver.ofDeclarations .subset streams streamMethods).satisfiedInterfaces "Lock"))
      ∧ (shapes.scanFault? shapeParser {} "." true = none
        ∧ result (implementations shapeParser shapes {} (.text ".") (.text "Area"))
          = .ok (selection (Scope.ofSources (shapes.sources shapeParser {} "." true)).value "Area"))
      ∧ (Resolver.ofDeclarations .subset streams
          (sourceOf "lock.go" "Lock" "Close").methods.value).satisfies "Lock"
            (interfaceOn "Closer" ["Close"])
      ∧ (Resolver.ofDeclarations .subset streams (Scope.ofSources
          [sourceOf "lock.go" "Lock" "Close",
            sourceOf "file.go" "File" "Read"]).value.methods).satisfies
            "Lock" (interfaceOn "Closer" ["Close"]) := by
  have hsubset : Policy.subset ≠ .exact := by decide
  have hmore : DeclaredIn (declaredOn "Lock" ["Close"]) streamMethods := by decide
  have hscan := scanFault?_shapes
  have hlock : (Resolver.ofDeclarations .subset streams
      (sourceOf "lock.go" "Lock" "Close").methods.value).satisfies "Lock"
        (interfaceOn "Closer" ["Close"]) := by
    decide +kernel
  obtain ⟨hkept, hselection, -, hscope⟩ := satisfaction_kept
  refine ⟨⟨hsubset, hmore, hkept _ hsubset _ _ hmore _ _⟩, ⟨hscan, ?_⟩, hlock, ?_⟩
  · exact hselection shapeParser shapes {} "." "Area" (by decide) (by decide) hscan
  · exact hscope _ hsubset _ _ List.mem_cons_self _ _ _ hlock

end Query

end InterfaceAtlas
