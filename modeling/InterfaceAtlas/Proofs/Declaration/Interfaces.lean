import InterfaceAtlas.Declaration.Interfaces
import Mathlib.Data.List.Basic

/-!
# What the interfaces of a tree depend on

The path of a file stands in the places of its declarations and nowhere else, so the methods that
interfaces name are those of the tree (`methodNames_interfacesOf`).
-/

namespace InterfaceAtlas

/-- What is collected is what there is for each member of the list. -/
lemma Logged.value_collect {α β : Type} (f : α → Logged (Option β)) (xs : List α) :
    (collect f xs).value = xs.filterMap fun a => (f a).value := by
  induction xs with
  | nil => rfl
  | cons a more ih =>
    rw [collect, value_bind, List.filterMap_cons, ← ih]
    cases (f a).value <;> rfl

namespace Declaration

/-- The name of an element depends on the element alone. -/
lemma name_interfaceMethod (owner file other : String) (n : Node) :
    (interfaceMethod owner file n).value.map (·.name)
      = (interfaceMethod owner other n).value.map (·.name) := by
  rw [interfaceMethod, interfaceMethod]
  split
  · dsimp only
    split <;> rfl
  · rfl

/-- The names of an interface's methods depend on the declaration alone. -/
lemma methodNames_interfaceOf (file other : String) (n : Node) :
    (interfaceOf file n).value.map (·.methodNames)
      = (interfaceOf other n).value.map (·.methodNames) := by
  rw [interfaceOf, interfaceOf]
  split
  · split
    · rfl
    · simp only [Logged.value_bind, Logged.value_pure, Option.map_some, Option.some_inj,
        InterfaceDeclaration.methodNames, Logged.value_collect, List.map_filterMap]
      exact List.filterMap_congr fun c _ => name_interfaceMethod _ file other c
  · rfl

/-- Under whatever path a tree is read, its interfaces name the same methods. -/
theorem methodNames_interfacesOf (file other : String) (root : Node) :
    (interfacesOf file root).value.map (·.methodNames)
      = (interfacesOf other root).value.map (·.methodNames) := by
  rw [interfacesOf, interfacesOf, Node.dispatch, Node.dispatch, Logged.value_collect,
    Logged.value_collect, List.map_filterMap, List.map_filterMap]
  refine List.filterMap_congr fun n _ => ?_
  by_cases h : declaresType n.kind
  · rw [if_pos h, if_pos h]
    exact methodNames_interfaceOf file other n
  · rw [if_neg h, if_neg h]

end Declaration

end InterfaceAtlas
