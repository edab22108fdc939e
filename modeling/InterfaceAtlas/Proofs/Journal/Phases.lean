import InterfaceAtlas.Journal.Console
import InterfaceAtlas.Proofs.Journal.Outcome

/-!
# Phases around a computation

What a computation says is stamped with the phase of the moment, so it depends on the phases that
the computation starts in. `Logged.Keeps` says of a computation that it leaves these phases as it
found them and that all its entries have a property. It is put together from the pieces of a
computation, whether this ends in a value or in an error, and a phase of its own is taken care of by
`keeps_inPhase`.
-/

namespace InterfaceAtlas

/-- Events are run one after the other. -/
lemma Phases.run_append (p : Phases) (xs ys : List Event) :
    p.run (xs ++ ys) = (p.run xs).run ys :=
  List.foldl_append

/-- Later events are stamped with the phase that the earlier ones have led to. -/
lemma Event.stamp_append (p : Phases) (xs ys : List Event) :
    stamp p (xs ++ ys) = stamp p xs ++ stamp (p.run xs) ys := by
  induction xs generalizing p with
  | nil => rfl
  | cons e more ih =>
    cases e with
    | say record => exact congrArg (_ :: ·) (ih p)
    | enter phase => exact ih _
    | leave => exact ih _

namespace Logged

/-- A computation that leaves the phases as it found them, and of whose entries each has a
property. -/
structure Keeps {α : Type} (p : Phases) (good : Entry → Prop) (x : Logged α) : Prop where
  returns : p.run x.events = p
  entries : ∀ e ∈ Event.stamp p x.events, good e

variable {α β ε : Type} {p : Phases} {good : Entry → Prop}

/-! ## Values -/

/-- Where nothing is said there is nothing to place. -/
lemma keeps_pure (a : α) : Keeps p good (pure a) :=
  ⟨rfl, fun _ he => absurd he List.not_mem_nil⟩

/-- A single message is placed by the phase in which it is said. -/
lemma keeps_say {level : Level} {speaker : Speaker} {message : String}
    (h : good ⟨p.current, ⟨level, speaker, message⟩⟩) : Keeps p good (say level speaker message) :=
  ⟨rfl, fun _ he => List.mem_singleton.mp he ▸ h⟩

/-- What comes second starts in the phases in which the first has started. -/
lemma Keeps.bind {x : Logged α} {f : α → Logged β} (hx : Keeps p good x)
    (hf : Keeps p good (f x.value)) : Keeps p good (x >>= f) := by
  constructor
  · rw [events_bind, Phases.run_append, hx.returns, hf.returns]
  · intro e he
    rw [events_bind, Event.stamp_append, hx.returns, List.mem_append] at he
    exact he.elim (hx.entries e) (hf.entries e)

/-- What is made of a result does not touch what was said before. -/
lemma Keeps.map {x : Logged α} (hx : Keeps p good x) (f : α → β) : Keeps p good (f <$> x) :=
  hx.bind (keeps_pure _)

/-- A phase ends with the computation that it was entered for, and gives way to the one before. -/
lemma keeps_inPhase {x : Logged α} {phase : String}
    (hx : Keeps ⟨phase, p.current :: p.waiting⟩ good x) : Keeps p good (inPhase phase x) := by
  constructor
  · show Phases.run ⟨phase, p.current :: p.waiting⟩ (x.events ++ [.leave]) = p
    rw [Phases.run_append, hx.returns]
    rfl
  · intro e he
    refine hx.entries e ?_
    change e ∈ Event.stamp ⟨phase, p.current :: p.waiting⟩ (x.events ++ [.leave]) at he
    rw [Event.stamp_append, List.mem_append] at he
    exact he.resolve_right List.not_mem_nil

/-- A loop keeps phases if each turn of it does. -/
lemma keeps_mapM {f : α → Logged β} (hf : ∀ a, Keeps p good (f a)) (xs : List α) :
    Keeps p good (xs.mapM f) := by
  induction xs with
  | nil => exact keeps_pure []
  | cons a more ih =>
    rw [List.mapM_cons]
    exact (hf a).bind (ih.bind (keeps_pure _))

/-- A loop that picks some results keeps phases if each turn of it does. -/
lemma keeps_collect {f : α → Logged (Option β)} (hf : ∀ a, Keeps p good (f a)) (xs : List α) :
    Keeps p good (collect f xs) := by
  induction xs with
  | nil => exact keeps_pure []
  | cons a more ih =>
    rw [collect]
    refine (hf a).bind ?_
    cases (f a).value with
    | none => exact ih
    | some b => exact ih.bind (keeps_pure _)

/-! ## Values or errors -/

lemma keeps_run_pure (a : α) : Keeps p good (pure a : ExceptT ε Logged α).run := keeps_pure _

/-- A fault says nothing by itself. -/
lemma keeps_run_throw (e : ε) : Keeps p good (throw e : ExceptT ε Logged α).run := keeps_pure _

/-- To lift a computation into one with faults adds nothing to what it says. -/
lemma keeps_run_lift {x : Logged α} (hx : Keeps p good x) :
    Keeps p good (ExceptT.lift x : ExceptT ε Logged α).run :=
  hx.map _

/-- An error cuts a computation off, and with it what the rest would have said. -/
lemma keeps_run_bind {x : ExceptT ε Logged α} {f : α → ExceptT ε Logged β}
    (hx : Keeps p good x.run) (hf : ∀ a, Keeps p good (f a).run) :
    Keeps p good (x >>= f).run := by
  rw [ExceptT.run_bind]
  refine hx.bind ?_
  cases x.run.value with
  | error e => exact keeps_pure _
  | ok a => exact hf a

lemma keeps_run_map {x : ExceptT ε Logged α} (hx : Keeps p good x.run) (f : α → β) :
    Keeps p good (f <$> x).run := by
  rw [ExceptT.run_map]
  exact hx.map _

end Logged

/-- Events make no difference to a console but for the phases. -/
lemma Console.noteAll_eq (c : Console) (events : List Event) :
    c.noteAll events = { c with phases := c.phases.run events } := by
  induction events generalizing c with
  | nil => rfl
  | cons e more ih => exact ih (c.note e)

end InterfaceAtlas
