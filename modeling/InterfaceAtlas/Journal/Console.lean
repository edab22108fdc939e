import InterfaceAtlas.Journal.Logged

/-!
# The console

Diagnostics are written line by line. A console has a threshold and any number of outlets. An outlet
is plain, and writes the bare message, or structured, and puts in front of the message the time, the
level, the query and phase of the moment and the speaker. It knows query and phase through a context
that configuration attaches to it.
-/

namespace InterfaceAtlas

/-- A place where lines are written. -/
structure Outlet where
  /-- Lines have the structured form. -/
  structured : Bool := false
  /-- How many contexts are attached. -/
  contexts : Nat := 0
deriving DecidableEq, Repr, Inhabited

namespace Outlet

/-- The outlet with a context, which is attached only if there is none. -/
def attach (o : Outlet) : Outlet := if o.contexts = 0 then { o with contexts := 1 } else o

/-- The outlet in structured form. -/
def restructure (o : Outlet) : Outlet := { o with structured := true }

end Outlet

/-- The state of diagnostics. -/
structure Console where
  threshold : Level := .warning
  outlets : List Outlet := []
  phases : Phases := {}
  query : String := "-"
deriving DecidableEq, Repr, Inhabited

/-- What can be done to a console. -/
inductive Console.Action where
  /-- Sets the threshold and makes every outlet structured. -/
  | configure (level : Value)
  /-- Adds a plain outlet. -/
  | addOutlet
  /-- Names the current query. -/
  | setQuery (name : String)
  /-- Passes an event on. -/
  | note (event : Event)
deriving Inhabited

namespace Console

/-- The current phase. -/
def phase (c : Console) : String := c.phases.current

/-- The console after configuration; none if the value stands for no level. An outlet is added only
if there is none. -/
def configure? (c : Console) (level : Value) : Option Console :=
  (Level.resolve? level).map fun threshold =>
    let outlets := if c.outlets.isEmpty then [{ structured := true }]
      else c.outlets.map Outlet.restructure
    { c with threshold, outlets := outlets.map Outlet.attach }

/-- The name of a query: the one given, or a fresh one where none or an empty one is given. -/
def queryName (given : Option String) (fresh : String) : String :=
  match given with
  | none => fresh
  | some name => if name == "" then fresh else name

/-- Whether a record gets past the threshold. Nothing at or below zero does. -/
def admits (c : Console) (r : Record) : Bool :=
  0 < r.level.rank && c.threshold.rank ≤ r.level.rank

/-- The structured line of a record. -/
def line (c : Console) (time : String) (r : Record) : String :=
  " | ".intercalate [time, r.level.title, "query_id=" ++ c.query, "phase=" ++ c.phase,
    r.speaker.title, r.message]

/-- What some outlets write of a record, one after the other. A context puts query and phase on the
record, where they stay for the outlets behind; `known` says whether they are there. A structured
line cannot be made without them, and nothing is written in its place. -/
def outletLines (c : Console) (time : String) (r : Record) : Bool → List Outlet → List String
  | _, [] => []
  | known, o :: more =>
    let known := known || o.contexts != 0
    let line := if !o.structured then [r.message] else if known then [c.line time r] else []
    line ++ outletLines c time r known more

/-- What is written of a record. Where there is no outlet, warnings and worse are still written, as
bare messages. -/
def write (c : Console) (time : String) (r : Record) : List String :=
  if !c.admits r then []
  else if c.outlets.isEmpty then
    if Level.warning.rank ≤ r.level.rank then [r.message] else []
  else c.outletLines time r false c.outlets

/-- The console after an event. -/
def note (c : Console) (e : Event) : Console := { c with phases := c.phases.step e }

/-- What is written of an event. -/
def writeEvent (c : Console) (time : String) : Event → List String
  | .say r => c.write time r
  | _ => []

/-- What is written of some events. -/
def writeAll (time : String) : Console → List Event → List String
  | _, [] => []
  | c, e :: more => c.writeEvent time e ++ writeAll time (c.note e) more

/-- The console after some events. -/
def noteAll (c : Console) (events : List Event) : Console := events.foldl note c

/-- The console after an action and what it wrote; none for a configuration that fails, which
changes nothing. -/
def act? (c : Console) (time : String) : Action → Option (Console × List String)
  | .configure level => (c.configure? level).map fun c' => (c', [])
  | .addOutlet => some ({ c with outlets := c.outlets ++ [{}] }, [])
  | .setQuery name => some ({ c with query := name }, [])
  | .note e => some (c.note e, c.writeEvent time e)

end Console

end InterfaceAtlas
