import InterfaceAtlas.Proofs.Matching.Resolution
import Mathlib.Algebra.BigOperators.Ring.List
import Mathlib.Algebra.Order.BigOperators.Group.List
import Mathlib.Algebra.Ring.Nat

/-!
# How the policies nest

A type that goes with an interface under `exact` does so under `subset`, and then it declares each
method of the interface. `policies_nest` carries this over to the relations, though they are filled
in two ways: under `exact` and `subset` an interface mentions each of its methods once for each type
that goes with it, and under `nameOverlap` as often as it names the method, once for each type that
declares it. Both numbers are sums over the interfaces of one name (`count_byType`,
`count_byName`), and the sums are compared interface by interface.
-/

namespace InterfaceAtlas

variable {policy : Policy} {ds : List MethodDeclaration} {i : InterfaceDeclaration}
  {method : String}

/-! ## Types -/

/-- Fewer things pass a stricter test. -/
lemma length_filter_le_of_imp {α : Type} {p q : α → Prop} [DecidablePred p] [DecidablePred q]
    (xs : List α) (h : ∀ a, p a → q a) :
    (xs.filter fun a => p a).length ≤ (xs.filter fun a => q a).length := by
  rw [← List.countP_eq_length_filter, ← List.countP_eq_length_filter]
  apply List.countP_mono_left
  intro a _ hp
  exact decide_eq_true (h a (of_decide_eq_true hp))

lemma ne_nil_of_length_le {α β : Type} {xs : List α} {ys : List β} (h : xs.length ≤ ys.length)
    (hne : xs ≠ []) : ys ≠ [] := by
  have hpos := List.length_pos_iff.mpr hne
  exact List.length_pos_iff.mp (by omega)

lemma length_admitted_exact_le (ds : List MethodDeclaration) (i : InterfaceDeclaration) :
    (Policy.admitted .exact ds i).length ≤ (Policy.admitted .subset ds i).length := by
  apply length_filter_le_of_imp
  intro type hexact
  exact hexact.1

lemma length_admitted_le_declarers (hpolicy : policy ≠ .nameOverlap)
    (hmethod : method ∈ i.methodNames) :
    (policy.admitted ds i).length ≤ (declarers ds method).length := by
  apply length_filter_le_of_imp
  intro type hadmits
  exact hadmits.covers hpolicy method hmethod

/-! ## Mentions -/

/-- An interface mentions each of its methods once for each type that goes with it. -/
lemma count_methodsPerType :
    (methodsPerType policy ds i).count method
      = if method ∈ i.methodNames then (policy.admitted ds i).length else 0 := by
  have hcount : i.methodNames.eraseDups.count method
      = if method ∈ i.methodNames then 1 else 0 := by
    rw [(nodup_eraseDups i.methodNames).count]
    simp only [List.mem_eraseDups]
  rw [methodsPerType, List.count_flatMap]
  have hconst : (policy.admitted ds i).map
      (List.count method ∘ fun _ => i.methodNames.eraseDups)
      = List.replicate (policy.admitted ds i).length (i.methodNames.eraseDups.count method) :=
    List.map_const'
  rw [hconst, List.sum_replicate_nat, hcount]
  split_ifs
  · rw [Nat.mul_one]
  · rw [Nat.mul_zero]

/-- A name mentions a method as often as its interfaces do, once for each type that declares it. -/
lemma count_methodsPerDeclarer (interfaces : List InterfaceDeclaration)
    (ds : List MethodDeclaration) (name method : String) :
    (methodsPerDeclarer interfaces ds name).count method
      = (methodsUnderName interfaces name).count method * (declarers ds method).length := by
  rw [methodsPerDeclarer]
  induction methodsUnderName interfaces name with
  | nil => simp
  | cons first more ih =>
    rw [List.flatMap_cons, List.count_append, ih, List.count_replicate, List.count_cons]
    by_cases h : first = method
    · subst h
      rw [if_pos (beq_self_eq_true first), if_pos (beq_self_eq_true first), Nat.add_mul,
        Nat.one_mul, Nat.add_comm]
    · have hne : (first == method) = false := beq_false_of_ne h
      simp [hne]

/-- How often the relations of types mention a method under a name. -/
lemma count_byType (hpolicy : policy ≠ .nameOverlap) (interfaces : List InterfaceDeclaration)
    (ds : List MethodDeclaration) (name method : String) :
    (((resolved policy interfaces ds).implementations.get? name).getD []).count method
      = ((interfaces.filter fun i => i.name = name).map fun i =>
          if method ∈ i.methodNames then (policy.admitted ds i).length else 0).sum := by
  rw [getD_implementations_byType hpolicy, List.count_flatMap]
  simp only [Function.comp_def, count_methodsPerType]

/-- How often the relations of names mention a method under a name. -/
lemma count_byName (interfaces : List InterfaceDeclaration) (ds : List MethodDeclaration)
    (name method : String) :
    (((resolved .nameOverlap interfaces ds).implementations.get? name).getD []).count method
      = ((interfaces.filter fun i => i.name = name).map fun i =>
          i.methodNames.count method * (declarers ds method).length).sum := by
  rw [getD_implementations_byName, count_methodsPerDeclarer, methodsUnderName, List.count_flatMap,
    List.sum_map_mul_right]
  rfl

/-! ## Relations -/

/-- **The policies nest.** Whatever the interfaces and the declared methods are: under each name,
`exact` mentions a method at most as often as `subset`, and `subset` at most as often as
`nameOverlap`. So a method that holds an interface under one of them holds one under the next. -/
theorem policies_nest (interfaces : List InterfaceDeclaration) (ds : List MethodDeclaration) :
    (∀ name method,
        (((resolved .exact interfaces ds).implementations.get? name).getD []).count method
          ≤ (((resolved .subset interfaces ds).implementations.get? name).getD []).count method
        ∧ (((resolved .subset interfaces ds).implementations.get? name).getD []).count method
          ≤ (((resolved .nameOverlap interfaces ds).implementations.get? name).getD []).count
              method)
      ∧ (resolved .exact interfaces ds).interfaceOf.keys
        ⊆ (resolved .subset interfaces ds).interfaceOf.keys
      ∧ (resolved .subset interfaces ds).interfaceOf.keys
        ⊆ (resolved .nameOverlap interfaces ds).interfaceOf.keys := by
  have hexact : Policy.exact ≠ .nameOverlap := by decide
  have hsubset : Policy.subset ≠ .nameOverlap := by decide
  refine ⟨fun name method => ⟨?_, ?_⟩, ?_, ?_⟩
  · rw [count_byType hexact, count_byType hsubset]
    apply List.sum_le_sum
    intro i _
    split_ifs
    · exact length_admitted_exact_le ds i
    · exact le_rfl
  · rw [count_byType hsubset, count_byName]
    apply List.sum_le_sum
    intro i _
    split_ifs with hmethod
    · -- the interface names the method once or more, and its types all declare it
      have hnamed : 1 ≤ i.methodNames.count method := List.count_pos_iff.mpr hmethod
      calc (Policy.admitted .subset ds i).length
          ≤ (declarers ds method).length := length_admitted_le_declarers hsubset hmethod
        _ ≤ i.methodNames.count method * (declarers ds method).length :=
            Nat.le_mul_of_pos_left _ hnamed
    · exact Nat.zero_le _
  · intro method hmethod
    rw [mem_keys_interfaceOf_byType hexact] at hmethod
    obtain ⟨i, hi, hnames, hadmitted⟩ := hmethod
    rw [mem_keys_interfaceOf_byType hsubset]
    exact ⟨i, hi, hnames, ne_nil_of_length_le (length_admitted_exact_le ds i) hadmitted⟩
  · intro method hmethod
    rw [mem_keys_interfaceOf_byType hsubset] at hmethod
    obtain ⟨i, hi, hnames, hadmitted⟩ := hmethod
    rw [mem_keys_interfaceOf_byName, ← declarers_ne_nil_iff]
    have hle : (Policy.admitted .subset ds i).length ≤ (declarers ds method).length :=
      length_admitted_le_declarers hsubset hnames
    exact ⟨⟨i, hi, hnames⟩, ne_nil_of_length_le hle hadmitted⟩

end InterfaceAtlas
