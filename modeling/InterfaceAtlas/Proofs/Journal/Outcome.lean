import InterfaceAtlas.Journal.Logged
import Mathlib.Data.List.Basic

/-!
# How computations with diagnostics end

A computation that says things on its way may also end in an error. `Logged.outcome` forgets what it
says and keeps the value or the error. The lemmas read an outcome piece by piece, in the order in
which the computation is put together.
-/

namespace InterfaceAtlas.Logged

variable {α β ε : Type}

instance : LawfulMonad Logged := by
  refine LawfulMonad.mk' Logged (fun x => ?_) (fun a f => rfl) (fun x f g => ?_)
  · obtain ⟨a, events⟩ := x
    show (⟨a, events ++ []⟩ : Logged _) = ⟨a, events⟩
    rw [List.append_nil]
  · show (⟨_, (x.events ++ _) ++ _⟩ : Logged _) = ⟨_, x.events ++ (_ ++ _)⟩
    rw [List.append_assoc]
    rfl

/-! ## Values -/

@[simp] lemma value_map (f : α → β) (x : Logged α) : (f <$> x).value = f x.value := rfl

/-- A phase is said, but nothing is computed from it. -/
@[simp] lemma value_inPhase (phase : String) (x : Logged α) : (inPhase phase x).value = x.value :=
  rfl

/-- The values of a loop that only says things on its way. -/
lemma value_mapM (f : α → Logged β) (xs : List α) :
    (xs.mapM f).value = xs.map fun a => (f a).value := by
  induction xs with
  | nil => rfl
  | cons a more ih => rw [List.mapM_cons, value_bind, value_bind, value_pure, ih, List.map_cons]

/-! ## Values or errors -/

/-- A computation in two parts that ends well has ended well in both. -/
lemma exists_of_bind_ok {x : Except ε α} {f : α → Except ε β} {b : β} (h : x >>= f = .ok b) :
    ∃ a, x = .ok a ∧ f a = .ok b := by
  cases x with
  | error e => cases h
  | ok a => exact ⟨a, rfl, h⟩

lemma exists_of_map_ok {x : Except ε α} {f : α → β} {b : β} (h : x.map f = .ok b) :
    ∃ a, x = .ok a ∧ f a = b := by
  cases x with
  | error e => cases h
  | ok a => exact ⟨a, rfl, Except.ok.inj h⟩

lemma of_mapError_ok {δ : Type} {x : Except ε α} {f : ε → δ} {a : α} (h : x.mapError f = .ok a) :
    x = .ok a := by
  cases x with
  | error e => cases h
  | ok b => exact congrArg _ (Except.ok.inj h)

/-- The value of a computation or its error, without the diagnostics. -/
def outcome (x : ExceptT ε Logged α) : Except ε α := x.run.value

/-- What a computation says does not count for its outcome. -/
lemma outcome_bind (x : ExceptT ε Logged α) (f : α → ExceptT ε Logged β) :
    outcome (x >>= f) = outcome x >>= fun a => outcome (f a) := by
  show ((x.run >>= _ : Logged (Except ε β))).value = _
  rw [value_bind]
  show _ = Except.bind x.run.value _
  cases x.run.value <;> rfl

/-- After a computation that has a value it goes on with this value. -/
lemma outcome_bind_ok {x : ExceptT ε Logged α} {a : α} (h : outcome x = .ok a)
    (f : α → ExceptT ε Logged β) : outcome (x >>= f) = outcome (f a) := by
  rw [outcome_bind, h]
  rfl

/-- After an error it does not go on. -/
lemma outcome_bind_error {x : ExceptT ε Logged α} {e : ε} (h : outcome x = .error e)
    (f : α → ExceptT ε Logged β) : outcome (x >>= f) = .error e := by
  rw [outcome_bind, h]
  rfl

/-- What has a value at its end had one at each step. -/
lemma exists_of_outcome_bind_ok {x : ExceptT ε Logged α} {f : α → ExceptT ε Logged β} {b : β}
    (h : outcome (x >>= f) = .ok b) : ∃ a, outcome x = .ok a ∧ outcome (f a) = .ok b := by
  rw [outcome_bind] at h
  exact exists_of_bind_ok h

lemma outcome_map (f : α → β) (x : ExceptT ε Logged α) :
    outcome (f <$> x) = (outcome x).map f := by
  rw [← bind_pure_comp, outcome_bind]
  cases outcome x <;> rfl

/-! ## Values or errors, with diagnostics -/

/-- After a value, what is said comes from both computations. -/
lemma run_bind_ok {x : ExceptT ε Logged α} {a : α} {events : List Event}
    (h : x.run = ⟨.ok a, events⟩) (f : α → ExceptT ε Logged β) :
    (x >>= f).run = ⟨(f a).run.value, events ++ (f a).run.events⟩ := by
  rw [ExceptT.run_bind, h]
  rfl

/-- After an error nothing more is said. -/
lemma run_bind_error {x : ExceptT ε Logged α} {e : ε} {events : List Event}
    (h : x.run = ⟨.error e, events⟩) (f : α → ExceptT ε Logged β) :
    (x >>= f).run = ⟨.error e, events⟩ := by
  rw [ExceptT.run_bind, h]
  exact congrArg (Logged.mk _) (List.append_nil events)

end InterfaceAtlas.Logged
