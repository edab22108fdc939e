import InterfaceAtlas.Proofs.Syntax.Walk
import Mathlib.Data.List.Induction
import Mathlib.Logic.Function.Iterate

/-!
# Walks turn by turn

A walk keeps a list of trees that wait. At each turn it takes the last of them, meets its root, and
has the trees wait instead that this root opens. Walks differ in what a node opens, and with it in
the order in which nodes are met (`FollowsOrder`). For all of them, `met_after` says what was met
after so many turns, and `waiting_after_eq_nil_iff` after how many turns nothing is left.
-/

namespace InterfaceAtlas.Node

/-- A walk under way. -/
structure Progress where
  /-- The trees that wait. The last one is next. -/
  waiting : List Node
  /-- The nodes met so far, one for each turn. -/
  met : List Node

/-- A node comes in front of what it opens, and of the trees that it opens the last comes first. -/
def FollowsOrder (opens order : Node → List Node) : Prop :=
  ∀ n, order n = n :: (opens n).reverse.flatMap order

namespace Progress

/-- A walk over a tree before its first turn. -/
def start (root : Node) : Progress := ⟨[root], []⟩

/-- One turn of a walk. When no tree waits, nothing happens any more. -/
def turn (opens : Node → List Node) (p : Progress) : Progress :=
  match p.waiting.getLast? with
  | none => p
  | some n => ⟨p.waiting.dropLast ++ opens n, p.met ++ [n]⟩

/-- A walk over a tree after some turns. -/
def after (opens : Node → List Node) (root : Node) (turns : Nat) : Progress :=
  (turn opens)^[turns] (start root)

/-- The nodes that a walk has still to meet. -/
def ahead (order : Node → List Node) (p : Progress) : List Node := p.waiting.reverse.flatMap order

variable {opens order : Node → List Node}

lemma turn_concat (front : List Node) (n : Node) (met : List Node) :
    turn opens ⟨front ++ [n], met⟩ = ⟨front ++ opens n, met ++ [n]⟩ := by
  simp [turn]

lemma ahead_concat (hopens : FollowsOrder opens order) (front : List Node) (n : Node)
    (met : List Node) :
    ahead order ⟨front ++ [n], met⟩ = n :: ahead order ⟨front ++ opens n, met⟩ := by
  simp [ahead, hopens n, List.flatMap_append]

/-- A turn meets the first of the nodes ahead, and the others stay ahead. -/
theorem turn_step (hopens : FollowsOrder opens order) (p : Progress) :
    (p.turn opens).met = p.met ++ (p.ahead order).take 1
      ∧ (p.turn opens).ahead order = (p.ahead order).drop 1 := by
  obtain ⟨waiting, met⟩ := p
  cases waiting using List.reverseRecOn with
  | nil => exact ⟨(List.append_nil met).symm, rfl⟩
  | append_singleton front n =>
    rw [turn_concat, ahead_concat hopens]
    exact ⟨rfl, rfl⟩

/-- After some turns the first nodes of the order were met, and the others are ahead. -/
theorem after_run (hopens : FollowsOrder opens order) (root : Node) (turns : Nat) :
    (after opens root turns).met = (order root).take turns
      ∧ (after opens root turns).ahead order = (order root).drop turns := by
  induction turns with
  | zero => exact ⟨rfl, List.flatMap_singleton order root⟩
  | succ turns ih =>
    have hturn : after opens root (turns + 1) = (after opens root turns).turn opens :=
      Function.iterate_succ_apply' _ _ _
    obtain ⟨hmet, hahead⟩ := turn_step hopens (after opens root turns)
    rw [hturn, hmet, hahead, ih.1, ih.2]
    exact ⟨List.take_add.symm, List.drop_drop⟩

theorem met_after (hopens : FollowsOrder opens order) (root : Node) (turns : Nat) :
    (after opens root turns).met = (order root).take turns :=
  (after_run hopens root turns).1

/-- No tree waits exactly if no node is ahead. -/
lemma waiting_eq_nil_iff (hopens : FollowsOrder opens order) (p : Progress) :
    p.waiting = [] ↔ p.ahead order = [] := by
  obtain ⟨waiting, met⟩ := p
  cases waiting using List.reverseRecOn with
  | nil => exact iff_of_true rfl rfl
  | append_singleton front n =>
    rw [ahead_concat hopens]
    exact iff_of_false (List.append_ne_nil_of_right_ne_nil _ (List.cons_ne_nil _ _))
      (List.cons_ne_nil _ _)

/-- A walk is over after as many turns as there are nodes in its order. -/
theorem waiting_after_eq_nil_iff (hopens : FollowsOrder opens order) (root : Node) (turns : Nat) :
    (after opens root turns).waiting = [] ↔ (order root).length ≤ turns := by
  rw [waiting_eq_nil_iff hopens, (after_run hopens root turns).2, List.drop_eq_nil_iff]

end Progress

end InterfaceAtlas.Node
