import InterfaceAtlas.Journal.Level

/-!
# Computations with diagnostics

A computation hands back a value and the events that diagnostics are made of: records, and the
phases it enters and leaves. The value cannot depend on who reads the events, since no one reads
them before the value is there.

`Event.stamp` turns events into entries by putting the phase of the moment on each record.
-/

namespace InterfaceAtlas

/-- The parts of the program that speak in diagnostics. -/
inductive Speaker where
  | walker
  | loader
  | interfaces
  | methods
  | queries
  | resolver
  | settings
  | commandLine
  | other (name : String)
deriving DecidableEq, Repr, Inhabited

namespace Speaker

/-- The name of a speaker in diagnostics. -/
def title : Speaker → String
  | walker => "goast.walker"
  | loader => "goast.parser"
  | interfaces => "goast.interfaces"
  | methods => "goast.methods"
  | queries => "navigator.queries"
  | resolver => "navigator.resolver"
  | settings => "core.analyzer_config"
  | commandLine => "run_analyzer"
  | other name => name

end Speaker

/-- Something said. -/
structure Record where
  level : Level
  speaker : Speaker
  message : String
deriving DecidableEq, Repr, Inhabited

/-- What a computation tells the journal. -/
inductive Event where
  | say (record : Record)
  | enter (phase : String)
  | leave
deriving DecidableEq, Repr, Inhabited

/-- A record with the phase it was made in. -/
structure Entry where
  phase : String
  record : Record
deriving DecidableEq, Repr, Inhabited

/-- The current phase, and the phases that wait for it to end. -/
structure Phases where
  current : String := "-"
  waiting : List String := []
deriving DecidableEq, Repr, Inhabited

namespace Phases

/-- The phases after an event. A phase that ends gives way to the one it was entered from. -/
def step (p : Phases) : Event → Phases
  | .say _ => p
  | .enter phase => ⟨phase, p.current :: p.waiting⟩
  | .leave =>
    match p.waiting with
    | [] => p
    | outer :: more => ⟨outer, more⟩

/-- The phases after some events. -/
def run (p : Phases) (events : List Event) : Phases := events.foldl step p

end Phases

namespace Event

/-- The records among the events, each with its phase. -/
def stamp (p : Phases) : List Event → List Entry
  | [] => []
  | .say record :: more => ⟨p.current, record⟩ :: stamp p more
  | e :: more => stamp (p.step e) more

end Event

/-- A value with the events on the way to it. -/
structure Logged (α : Type) where
  value : α
  events : List Event
deriving Repr, Inhabited

namespace Logged

instance : Monad Logged where
  pure a := ⟨a, []⟩
  bind x f := ⟨(f x.value).value, x.events ++ (f x.value).events⟩

@[simp] theorem value_pure {α : Type} (a : α) : (pure a : Logged α).value = a := rfl

@[simp] theorem events_pure {α : Type} (a : α) : (pure a : Logged α).events = [] := rfl

@[simp] theorem value_bind {α β : Type} (x : Logged α) (f : α → Logged β) :
    (x >>= f).value = (f x.value).value := rfl

@[simp] theorem events_bind {α β : Type} (x : Logged α) (f : α → Logged β) :
    (x >>= f).events = x.events ++ (f x.value).events := rfl

/-- Says something. -/
def say (level : Level) (speaker : Speaker) (message : String) : Logged Unit :=
  ⟨(), [.say ⟨level, speaker, message⟩]⟩

/-- The computation as a phase of its own. -/
def inPhase {α : Type} (phase : String) (x : Logged α) : Logged α :=
  ⟨x.value, .enter phase :: x.events ++ [.leave]⟩

/-- The results that `f` has for the members of a list, in order. -/
def collect {α β : Type} (f : α → Logged (Option β)) : List α → Logged (List β)
  | [] => pure []
  | a :: more => do
    match ← f a with
    | some b => return b :: (← collect f more)
    | none => collect f more

end Logged

end InterfaceAtlas
