import InterfaceAtlas.Proofs.Journal.Phases
import Mathlib.Data.List.Induction

/-!
# The outlets of a console

A structured line cannot be made without query and phase, which an outlet knows through a context.
Outlets are added plain, and configuration makes them structured and attaches a context. That the
two go together (`Outlet.IsMatched`) is kept by each action (`isMatched_after`), and rests on
nothing else, so each outlet writes its line of each record, at any point of any history of actions
(`orderly_afterAll`).
-/

namespace InterfaceAtlas

namespace Outlet

/-- A structured outlet has exactly one context, and a plain one has none. -/
structure IsMatched (o : Outlet) : Prop where
  structured_iff : o.structured = true ↔ 0 < o.contexts
  contexts_le : o.contexts ≤ 1

/-- A structured outlet with one context. -/
def configured : Outlet := { structured := true, contexts := 1 }

lemma isMatched_plain : IsMatched {} := ⟨by decide, by decide⟩

lemma isMatched_configured : configured.IsMatched := ⟨by decide, by decide⟩

/-- Whether an outlet was plain or structured makes no difference once it is configured. -/
lemma IsMatched.attach_restructure {o : Outlet} (h : o.IsMatched) :
    o.restructure.attach = configured := by
  have hle := h.contexts_le
  have hcontexts : o.contexts = 0 ∨ o.contexts = 1 := by omega
  rw [restructure, attach, configured]
  rcases hcontexts with hnone | hone
  · rw [if_pos hnone]
  · rw [if_neg (by rw [hone]; decide), hone]

end Outlet

namespace Console

open Outlet

/-! ## One action -/

/-- The console after an action at a time; an action that fails changes nothing. -/
def after (c : Console) (time : String) (a : Action) : Console :=
  ((c.act? time a).map Prod.fst).getD c

/-- The console after a history of actions, each at its time. -/
def afterAll (c : Console) (history : List (String × Action)) : Console :=
  history.foldl (fun c step => c.after step.1 step.2) c

lemma afterAll_concat (c : Console) (history : List (String × Action)) (time : String)
    (a : Action) :
    c.afterAll (history ++ [(time, a)]) = (c.afterAll history).after time a := by
  rw [afterAll, List.foldl_append]
  rfl

/-- The level that an action sets as the threshold. -/
def Action.level? : Action → Option Level
  | configure level => Level.resolve? level
  | _ => none

/-- The name that an action gives to the query. -/
def Action.query? : Action → Option String
  | setQuery name => some name
  | _ => none

/-- The event that an action passes on. -/
def Action.event? : Action → Option Event
  | note event => some event
  | _ => none

variable {c : Console} {time : String}

/-- Configuration at an unknown level fails. -/
lemma act?_configure_eq_none {level : Value} (h : Level.resolve? level = none) :
    c.act? time (.configure level) = none := by
  rw [act?, configure?, h]
  rfl

/-- Configuration leaves as many outlets as there were, but one at least, and all of them alike. -/
lemma act?_configure (hmatched : ∀ o ∈ c.outlets, o.IsMatched) {level : Value} {threshold : Level}
    (h : Level.resolve? level = some threshold) :
    c.act? time (.configure level)
      = some ({ c with threshold
                       outlets := List.replicate (max 1 c.outlets.length) configured }, []) := by
  have houtlets : (if c.outlets.isEmpty then [{ structured := true }]
        else c.outlets.map restructure).map attach
      = List.replicate (max 1 c.outlets.length) configured := by
    cases hc : c.outlets with
    | nil => rfl
    | cons o more =>
      rw [List.isEmpty_cons, if_neg Bool.false_ne_true, List.map_map, ← hc,
        Nat.max_eq_right (by rw [hc]; exact Nat.le_add_left 1 more.length)]
      exact List.eq_replicate_iff.mpr ⟨List.length_map _, fun x hx => by
        obtain ⟨o, ho, rfl⟩ := List.mem_map.mp hx
        exact (hmatched o ho).attach_restructure⟩
  rw [act?, configure?, h]
  simp only [Option.map_some]
  rw [houtlets]

/-- No action leaves an outlet without what it needs. -/
lemma isMatched_after (hmatched : ∀ o ∈ c.outlets, o.IsMatched) (time : String) (a : Action) :
    ∀ o ∈ (c.after time a).outlets, o.IsMatched := by
  cases a with
  | configure level =>
    cases hlevel : Level.resolve? level with
    | none => rwa [after, act?_configure_eq_none hlevel]
    | some threshold =>
      rw [after, act?_configure hmatched hlevel]
      intro o ho
      rw [List.eq_of_mem_replicate ho]
      exact isMatched_configured
  | addOutlet =>
    intro o ho
    rcases List.mem_append.mp ho with hold | hnew
    · exact hmatched o hold
    · rw [List.mem_singleton.mp hnew]
      exact isMatched_plain
  | setQuery name => exact hmatched
  | note event => exact hmatched

/-- What an action sets it sets, whatever was there, and all else stays. -/
lemma after_eq (c : Console) (time : String) (a : Action) :
    (c.after time a).threshold = a.level?.getD c.threshold
      ∧ (c.after time a).query = a.query?.getD c.query
      ∧ (c.after time a).phases = c.phases.run a.event?.toList := by
  cases a with
  | configure level =>
    rw [after, act?, configure?, Action.level?]
    cases Level.resolve? level <;> exact ⟨rfl, rfl, rfl⟩
  | addOutlet => exact ⟨rfl, rfl, rfl⟩
  | setQuery name => exact ⟨rfl, rfl, rfl⟩
  | note event => exact ⟨rfl, rfl, rfl⟩

/-! ## What is written -/

/-- Outlets that have what they need write one line each. -/
lemma outletLines_eq (c : Console) (time : String) (r : Record) (known : Bool)
    {outlets : List Outlet} (hmatched : ∀ o ∈ outlets, o.IsMatched) :
    c.outletLines time r known outlets
      = outlets.map fun o => if o.structured then c.line time r else r.message := by
  -- Whether an earlier outlet has put query and phase on the record makes no difference, as an
  -- outlet that needs them does so itself.
  induction outlets generalizing known with
  | nil => rfl
  | cons o more ih =>
    have hmore := fun known => ih known fun x hx => hmatched x (List.mem_cons_of_mem o hx)
    have ho := (hmatched o List.mem_cons_self).structured_iff
    rw [outletLines, hmore, List.map_cons]
    cases hstructured : o.structured with
    | false => rfl
    | true =>
      have hcontexts : (o.contexts != 0) = true :=
        bne_iff_ne.mpr (Nat.ne_of_gt (ho.mp hstructured))
      rw [hcontexts, Bool.or_true]
      rfl

/-- A structured line shows the query and the phase of the console. -/
lemma line_eq (c : Console) (time : String) (r : Record) :
    c.line time r = time ++ " | " ++ r.level.title ++ " | " ++ ("query_id=" ++ c.query) ++ " | "
      ++ ("phase=" ++ c.phase) ++ " | " ++ r.speaker.title ++ " | " ++ r.message :=
  rfl

/-! ## Histories -/

variable {start : Console}

/-- No history breaks the match of threshold and outlet, if it was there at the start. -/
lemma isMatched_afterAll (hstart : ∀ o ∈ start.outlets, o.IsMatched)
    (history : List (String × Action)) : ∀ o ∈ (start.afterAll history).outlets, o.IsMatched := by
  induction history using List.reverseRecOn with
  | nil => exact hstart
  | append_singleton history step ih =>
    rw [afterAll_concat]
    exact isMatched_after ih step.1 step.2

/-- What was set last stands. -/
lemma getD_getLast?_concat {α : Type} (f : Action → Option α) (history : List (String × Action))
    (time : String) (a : Action) (d : α) :
    (((history ++ [(time, a)]).filterMap fun step => f step.2).getLast?).getD d
      = (f a).getD (((history.filterMap fun step => f step.2).getLast?).getD d) := by
  rw [List.filterMap_append, List.getLast?_append]
  cases h : f a with
  | none => simp [h]
  | some x => simp [h]

/-- Of each setting the last one that was written counts. -/
lemma afterAll_eq (start : Console) (history : List (String × Action)) :
    (start.afterAll history).threshold
        = ((history.filterMap fun step => step.2.level?).getLast?).getD start.threshold
      ∧ (start.afterAll history).query
        = ((history.filterMap fun step => step.2.query?).getLast?).getD start.query
      ∧ (start.afterAll history).phases
        = start.phases.run (history.filterMap fun step => step.2.event?) := by
  induction history using List.reverseRecOn with
  | nil => exact ⟨rfl, rfl, rfl⟩
  | append_singleton history step ih =>
    obtain ⟨hthreshold, hquery, hphases⟩ := ih
    obtain ⟨hlevel, hname, hevent⟩ := after_eq (start.afterAll history) step.1 step.2
    rw [afterAll_concat, hlevel, hname, hevent, getD_getLast?_concat, getD_getLast?_concat,
      ← hthreshold, ← hquery, hphases, List.filterMap_append, Phases.run_append]
    refine ⟨rfl, rfl, ?_⟩
    cases h : step.2.event? <;> simp [h]

/-- What holds of the console `c` that a history has led to from the console `start`. -/
structure IsOrderly (start : Console) (history : List (String × Action)) (c : Console) : Prop where
  /-- A structured outlet has a context, a plain one has none, and none has two. -/
  matched : ∀ o ∈ c.outlets, o.IsMatched
  /-- The threshold is that of the last configuration that did not fail. -/
  threshold_eq : c.threshold
    = ((history.filterMap fun step => step.2.level?).getLast?).getD start.threshold
  /-- The query has the name that it was given last. -/
  query_eq : c.query = ((history.filterMap fun step => step.2.query?).getLast?).getD start.query
  /-- The phases are those that were entered and not left. -/
  phases_eq : c.phases = start.phases.run (history.filterMap fun step => step.2.event?)
  /-- Configuration at a known level sets the threshold and makes all outlets structured, each with
  one context. An outlet is added only if there is none. -/
  configure_eq : ∀ time level threshold, Level.resolve? level = some threshold →
    c.act? time (.configure level)
      = some ({ c with threshold
                       outlets := List.replicate (max 1 c.outlets.length) configured }, [])
  /-- Configuration at an unknown level fails and changes nothing. -/
  refused : ∀ time level, Level.resolve? level = none →
    c.act? time (.configure level) = none ∧ c.after time (.configure level) = c
  /-- Each outlet writes one line of each record that gets past the threshold. If it is structured,
  the line shows the query and the phase of the moment. -/
  written : ∀ time r, c.outlets ≠ [] →
    c.act? time (.note (.say r)) = some (c,
      if c.admits r then
        c.outlets.map fun o =>
          if o.structured then
            time ++ " | " ++ r.level.title ++ " | " ++ ("query_id=" ++ c.query) ++ " | "
              ++ ("phase=" ++ c.phase) ++ " | " ++ r.speaker.title ++ " | " ++ r.message
          else r.message
      else [])
  /-- Where there is no outlet, a warning or worse is still written as a bare message. -/
  unattended : ∀ time r, c.outlets = [] →
    c.act? time (.note (.say r)) = some (c,
      if c.admits r ∧ Level.warning.rank ≤ r.level.rank then [r.message] else [])

/-- What is said goes to the outlets and changes nothing. -/
lemma act?_say (c : Console) (time : String) (r : Record) :
    c.act? time (.note (.say r)) = some (c, c.write time r) :=
  rfl

/-- Matched outlets write all that the console admits, one line each. -/
lemma write_of_isMatched (hmatched : ∀ o ∈ c.outlets, o.IsMatched) (hsome : c.outlets ≠ [])
    (time : String) (r : Record) :
    c.write time r = if c.admits r then
        c.outlets.map fun o => if o.structured then c.line time r else r.message
      else [] := by
  have hsome : ¬c.outlets.isEmpty = true := by rwa [List.isEmpty_iff]
  rw [write]
  cases c.admits r with
  | false => rfl
  | true =>
    rw [if_neg (by decide), if_neg hsome, outletLines_eq c time r false hmatched, if_pos rfl]

/-- Without outlets only warnings and worse are written, as bare messages. -/
lemma write_of_nil (hnone : c.outlets = []) (time : String) (r : Record) :
    c.write time r
      = if c.admits r ∧ Level.warning.rank ≤ r.level.rank then [r.message] else [] := by
  rw [write, hnone]
  cases c.admits r <;> simp

/-- **Orderly diagnostics.** From a console without outlets, whatever has been done to it, in
whatever order and whether or not it failed, outlets have what they need, and of each record that is
let through each of them writes one line. -/
theorem orderly_afterAll (hstart : start.outlets = []) (history : List (String × Action)) :
    IsOrderly start history (start.afterAll history) := by
  have hmatched : ∀ o ∈ (start.afterAll history).outlets, o.IsMatched :=
    isMatched_afterAll (by simp [hstart]) history
  obtain ⟨hthreshold, hquery, hphases⟩ := afterAll_eq start history
  constructor
  case matched => exact hmatched
  case threshold_eq => exact hthreshold
  case query_eq => exact hquery
  case phases_eq => exact hphases
  case configure_eq => exact fun time level threshold h => act?_configure hmatched h
  case refused =>
    intro time level h
    have hfails : (start.afterAll history).act? time (.configure level) = none :=
      act?_configure_eq_none h
    exact ⟨hfails, by rw [after, hfails]; rfl⟩
  case written =>
    intro time r hsome
    simp only [act?_say, write_of_isMatched hmatched hsome, line_eq]
  case unattended =>
    intro time r hnone
    rw [act?_say, write_of_nil hnone]

/-- A plain outlet comes before a configuration and another behind it, a configuration fails, and a
phase is entered. -/
def mixed : List (String × Action) :=
  [("08:00", .addOutlet), ("08:01", .configure (.text "debug")), ("08:02", .addOutlet),
    ("08:03", .configure (.text "loud")), ("08:04", .setQuery "q"),
    ("08:05", .note (.enter "index"))]

/-- An outlet that was there when a level was set writes in lines, and one that came later does not.
The level that was refused leaves both as they were. -/
theorem orderly_afterAll_mixed :
    ({} : Console).outlets = []
      ∧ IsOrderly {} mixed (({} : Console).afterAll mixed)
      ∧ (({} : Console).afterAll mixed).outlets = [configured, {}]
      ∧ (({} : Console).afterAll mixed).act? "08:06"
          (.note (.say ⟨.debug, .walker, "Skipping directory: vendor"⟩))
        = some (({} : Console).afterAll mixed,
          ["08:06 | DEBUG | query_id=q | phase=index | goast.walker | Skipping directory: vendor",
            "Skipping directory: vendor"]) := by
  have horderly := orderly_afterAll (rfl : ({} : Console).outlets = []) mixed
  have houtlets : (({} : Console).afterAll mixed).outlets = [configured, {}] := by decide
  refine ⟨rfl, horderly, houtlets, ?_⟩
  rw [horderly.written "08:06" _ (by rw [houtlets]; decide), houtlets]
  decide

end Console

end InterfaceAtlas
