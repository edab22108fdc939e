import InterfaceAtlas.Proofs.Journal.Phases
import InterfaceAtlas.Proofs.Syntax.Walk
import InterfaceAtlas.Query.Command

/-!
# The phases of a command

A command looks for files in the phase `index` and matches what it found in the phase `resolve`; all
else it says in the phase it was started in. `Entry.IsPlaced` says so of one entry, with what this
means for those who speak in one phase only: the walker and the resolver. The lemmas follow the
program from what a single file says up to `Command.run_phases`.
-/

namespace InterfaceAtlas

open Logged

/-- The phases of a command that was started in the phase `outer`. -/
def IsPhaseOf (outer phase : String) : Prop := phase = outer ∨ phase = "index" ∨ phase = "resolve"

/-- An entry of a command that was started in the phase `outer` has one of its phases. An entry of
the walker has the phase in which files are looked for, and one of the resolver that in which types
are matched. -/
structure Entry.IsPlaced (outer : String) (e : Entry) : Prop where
  phase : IsPhaseOf outer e.phase
  walker : e.record.speaker.title = "goast.walker" → e.phase = "index"
  resolver : e.record.speaker.title = "navigator.resolver" → e.phase = "resolve"

/-- Whether a speaker may speak in any phase. -/
def Speaker.isFree (s : Speaker) : Bool :=
  s.title != "goast.walker" && s.title != "navigator.resolver"

variable {p : Phases} {outer : String} {parser : Parser}

/-- Speakers that are bound to no phase may speak in each. -/
lemma keeps_say_of_isFree {speaker : Speaker} (hp : IsPhaseOf outer p.current)
    (hfree : speaker.isFree = true) (level : Level) (message : String) :
    Keeps p (Entry.IsPlaced outer) (say level speaker message) := by
  rw [Speaker.isFree, Bool.and_eq_true, bne_iff_ne, bne_iff_ne] at hfree
  exact keeps_say ⟨hp, fun h => absurd h hfree.1, fun h => absurd h hfree.2⟩

/-! ## One file -/

lemma keeps_parse (hp : IsPhaseOf outer p.current) (content : List UInt8) :
    Keeps p (Entry.IsPlaced outer) (Source.parse parser content) :=
  (keeps_say_of_isFree hp (by decide) _ _).bind
    ((keeps_say_of_isFree hp (by decide) _ _).bind (keeps_pure _))

/-- The syntax errors of a file are reported in whatever phase it is loaded. -/
lemma keeps_accept (hp : IsPhaseOf outer p.current) (settings : Settings) (path : String)
    (content : List UInt8) :
    Keeps p (Entry.IsPlaced outer) (Source.accept parser settings path content) := by
  rw [Source.accept]
  refine (keeps_parse hp content).bind ?_
  dsimp only
  split
  · exact (keeps_say_of_isFree hp (by decide) _ _).bind (keeps_pure _)
  · split
    · exact (keeps_say_of_isFree hp (by decide) _ _).bind
        ((keeps_say_of_isFree hp (by decide) _ _).bind (keeps_pure _))
    · exact (keeps_say_of_isFree hp (by decide) _ _).bind (keeps_pure _)

/-- A file is loaded, skipped or cannot be read in whatever phase this happens. -/
lemma keeps_load (hp : IsPhaseOf outer p.current) (fs : FileSystem) (settings : Settings)
    (path : String) : Keeps p (Entry.IsPlaced outer) (Source.load parser fs settings path) := by
  rw [Source.load]
  split
  · exact (keeps_say_of_isFree hp (by decide) _ _).bind (keeps_pure _)
  · split
    · exact keeps_pure _
    · exact (keeps_say_of_isFree hp (by decide) _ _).bind (keeps_pure _)
    · exact (keeps_accept hp settings path _).bind (keeps_pure _)

lemma keeps_interfaceMethod (hp : IsPhaseOf outer p.current) (owner file : String) (n : Node) :
    Keeps p (Entry.IsPlaced outer) (Declaration.interfaceMethod owner file n) := by
  rw [Declaration.interfaceMethod]
  split
  · dsimp only
    split
    · exact (keeps_say_of_isFree hp (by decide) _ _).bind (keeps_pure _)
    · exact keeps_pure _
  · exact keeps_pure _

/-- An interface is declared, or turned down, in whatever phase its file is gone through. -/
lemma keeps_interfaceOf (hp : IsPhaseOf outer p.current) (file : String) (n : Node) :
    Keeps p (Entry.IsPlaced outer) (Declaration.interfaceOf file n) := by
  rw [Declaration.interfaceOf]
  split
  · split
    · exact keeps_pure _
    · exact (keeps_collect (keeps_interfaceMethod hp _ file) _).bind
        ((keeps_say_of_isFree hp (by decide) _ _).bind (keeps_pure _))
  · exact keeps_pure _

/-- A pass over a tree says what is said of its nodes. -/
lemma keeps_dispatch {α : Type} {good : Entry → Prop} (isHandled : String → Bool)
    {handler : Node.Handler α} (h : ∀ n, Keeps p good (handler n)) (root : Node) :
    Keeps p good (root.dispatch fun kind => if isHandled kind then some handler else none) := by
  rw [Node.dispatch_eq_collect]
  exact keeps_collect h _

lemma keeps_sourceInterfaces (hp : IsPhaseOf outer p.current) (s : Source) :
    Keeps p (Entry.IsPlaced outer) s.interfaces :=
  (keeps_dispatch Declaration.declaresType (keeps_interfaceOf hp s.path) s.tree).bind
    ((keeps_say_of_isFree hp (by decide) _ _).bind (keeps_pure _))

lemma keeps_receiverName (hp : IsPhaseOf outer p.current) (receiver : Node) :
    Keeps p (Entry.IsPlaced outer) (Declaration.receiverName receiver) := by
  rw [Declaration.receiverName]
  split
  · exact keeps_pure _
  · split
    · exact keeps_pure _
    · split
      · exact keeps_pure _
      · exact (keeps_say_of_isFree hp (by decide) _ _).bind (keeps_pure _)

/-- A method is declared, or turned down, in whatever phase its file is gone through. -/
lemma keeps_methodOf (hp : IsPhaseOf outer p.current) (file : String) (n : Node) :
    Keeps p (Entry.IsPlaced outer) (Declaration.methodOf file n) := by
  rw [Declaration.methodOf]
  split
  · exact keeps_pure _
  · refine Keeps.bind ?_ (keeps_pure _)
    cases n.child? "receiver" with
    | none => exact keeps_pure _
    | some receiver => exact keeps_receiverName hp receiver

lemma keeps_sourceMethods (hp : IsPhaseOf outer p.current) (s : Source) :
    Keeps p (Entry.IsPlaced outer) s.methods :=
  (keeps_dispatch (· == "method_declaration") (keeps_methodOf hp s.path) s.tree).bind
    ((keeps_say_of_isFree hp (by decide) _ _).bind (keeps_pure _))

/-- To go through a file for all that it declares says what both passes say. -/
lemma keeps_scopeOfSource (hp : IsPhaseOf outer p.current) (s : Source) :
    Keeps p (Entry.IsPlaced outer) (Scope.ofSource s) :=
  (keeps_sourceInterfaces hp s).bind ((keeps_sourceMethods hp s).bind (keeps_pure _))

/-! ## Matching -/

/-- What is said of a type that implements something is said in the phase of the query. -/
lemma keeps_implementationsOf (hp : IsPhaseOf outer p.current) (path : String)
    (declared : List MethodDeclaration) (resolver : Resolver) (type : String) :
    Keeps p (Entry.IsPlaced outer) (implementationsOf path declared resolver type) := by
  rw [implementationsOf]
  split
  · exact (keeps_say_of_isFree hp (by decide) _ _).bind (keeps_pure _)
  · exact (keeps_say_of_isFree hp (by decide) _ _).bind (keeps_pure _)

lemma keeps_implementationsIn (hp : IsPhaseOf outer p.current) (s : Source)
    (interfaces : List InterfaceDeclaration) :
    Keeps p (Entry.IsPlaced outer) (implementationsIn s interfaces) := by
  refine (keeps_sourceMethods hp s).bind (keeps_inPhase ?_)
  exact (keeps_mapM (keeps_implementationsOf (Or.inr (Or.inr rfl)) s.path _ _) _).bind
    (keeps_pure _)

/-- The resolver is at work in its own phase. -/
lemma keeps_resolve (hp : p.current = "resolve") (resolver : Resolver) :
    Keeps p (Entry.IsPlaced outer) resolver.resolve := by
  refine Keeps.bind (keeps_say ⟨Or.inr (Or.inr hp), fun h => ?_, fun _ => hp⟩) (keeps_pure _)
  exact absurd h (by decide : Speaker.resolver.title ≠ "goast.walker")

/-! ## Scans -/

/-- The walker is at work in its own phase. -/
lemma keeps_scanStep (hp : p.current = "index") (step : ScanStep) :
    Keeps p (Entry.IsPlaced outer) ⟨(), step.events⟩ := by
  have hsay (level : Level) (message : String) :
      Keeps p (Entry.IsPlaced outer) (say level .walker message) :=
    keeps_say ⟨Or.inr (Or.inl hp), fun _ => hp,
      fun h => absurd h (by decide : Speaker.walker.title ≠ "navigator.resolver")⟩
  cases step with
  | found path => exact keeps_pure ()
  | passedOver path => exact hsay _ _
  | fellBack root path reason => exact hsay _ _
  | unlistable root reason => exact hsay _ _
  | broken => exact keeps_pure ()

/-- What the steps of a scan say is said while the index is built. -/
lemma keeps_of_mem_loads (hp : p.current = "index") {fs : FileSystem} {settings : Settings}
    {root : String} {recursive : Bool} {step : LoadStep}
    (hstep : step ∈ fs.loads parser settings root recursive) :
    Keeps p (Entry.IsPlaced outer) ⟨(), step.events⟩ := by
  obtain ⟨s, -, rfl⟩ := List.mem_map.mp hstep
  have hload (path : String) :
      Keeps p (Entry.IsPlaced outer) (Source.load parser fs settings path) :=
    keeps_load (Or.inr (Or.inl hp)) fs settings path
  split
  · next path => exact ⟨(hload path).returns, (hload path).entries⟩
  · exact keeps_scanStep hp s

/-- A loop over the sources of a scan keeps the phases if each step of the scan and each turn of the
loop does. -/
lemma keeps_eachSource {β : Type} {good : Entry → Prop} {f : Source → Logged β}
    {steps : List LoadStep} (hsteps : ∀ step ∈ steps, Keeps p good ⟨(), step.events⟩)
    (hf : ∀ s, Keeps p good (f s)) : Keeps p good (eachSource f steps) := by
  induction steps with
  | nil => exact keeps_pure _
  | cons step more ih =>
    have hmore := ih fun s hs => hsteps s (List.mem_cons_of_mem step hs)
    rw [eachSource]
    refine (hsteps step List.mem_cons_self).bind ?_
    split
    · exact keeps_pure _
    · split
      · exact (hf _).bind (hmore.bind (keeps_pure _))
      · exact hmore

namespace Query

lemma keeps_querySay (hp : IsPhaseOf outer p.current) (level : Level) (message : String) :
    Keeps p (Entry.IsPlaced outer) (say level message).run :=
  keeps_run_lift (keeps_say_of_isFree hp (by decide) level message)

/-- A missing argument says nothing before it ends the query. -/
lemma keeps_require {good : Entry → Prop} (label : String) (v : Value) :
    Keeps p good (require label v).run := by
  unfold require
  split
  · split
    · exact keeps_run_throw _
    · exact keeps_run_pure _
  · exact keeps_run_throw _

/-- An unusable path ends a query in the phase in which it is met. -/
lemma keeps_guardPath {α : Type} {good : Entry → Prop} {x : Logged (Except UnusablePath α)}
    (hx : Keeps p good x) : Keeps p good (guardPath x).run :=
  hx.bind (keeps_pure _)

variable {fs : FileSystem} {settings : Settings}

/-- A scan is a phase of its own, also where it comes to a path that is none. -/
lemma keeps_scanWith {β : Type} {f : Source → Logged β} (root : String) (recursive : Bool)
    (hf : ∀ {p : Phases}, p.current = "index" → ∀ s, Keeps p (Entry.IsPlaced outer) (f s)) :
    Keeps p (Entry.IsPlaced outer) (scanWith parser fs settings root recursive f).run := by
  refine keeps_run_bind (keeps_guardPath (keeps_inPhase ?_)) fun _ => keeps_run_pure _
  exact keeps_eachSource (fun step hstep => keeps_of_mem_loads rfl hstep) (hf rfl)

/-- A scan of a root has a phase of its own, and is followed by the one it began in. -/
lemma keeps_scanScope (hp : IsPhaseOf outer p.current) (root : String) :
    Keeps p (Entry.IsPlaced outer) (scanScope parser fs settings root).run :=
  keeps_run_bind (keeps_scanWith root true fun h => keeps_scopeOfSource (Or.inr (Or.inl h)))
    fun _ => keeps_run_bind (keeps_querySay hp _ _) fun _ => keeps_run_pure _

lemma keeps_scanInterfaces (hp : IsPhaseOf outer p.current) (root : String) :
    Keeps p (Entry.IsPlaced outer) (scanInterfaces parser fs settings root).run :=
  keeps_run_bind (keeps_scanWith root true fun h => keeps_sourceInterfaces (Or.inr (Or.inl h)))
    fun _ => keeps_run_bind (keeps_querySay hp _ _) fun _ => keeps_run_pure _

/-! ## Queries -/

lemma keeps_fileInterfaces (hp : IsPhaseOf outer p.current) (file : Value) :
    Keeps p (Entry.IsPlaced outer) (fileInterfaces parser fs settings file).run := by
  refine keeps_run_bind (keeps_require _ _) fun path => ?_
  refine keeps_run_bind (keeps_guardPath (keeps_load hp fs settings path)) fun source => ?_
  cases source with
  | none => exact keeps_run_pure _
  | some s =>
    exact keeps_run_bind (keeps_run_lift (keeps_sourceInterfaces hp s)) fun _ => keeps_run_pure _

/-- The query for the implementations in a file. -/
lemma keeps_fileImplementations (hp : IsPhaseOf outer p.current) (file : Value) :
    Keeps p (Entry.IsPlaced outer) (fileImplementations parser fs settings file).run := by
  refine keeps_run_bind (keeps_require _ _) fun path => ?_
  refine keeps_run_bind (keeps_guardPath (keeps_load hp fs settings path)) fun source => ?_
  cases source with
  | none => exact keeps_run_pure _
  | some s =>
    refine keeps_run_bind (keeps_scanInterfaces hp _) fun found => ?_
    refine keeps_run_bind (keeps_run_lift (keeps_implementationsIn hp s found)) fun _ => ?_
    exact keeps_run_bind (keeps_querySay hp _ _) fun _ => keeps_run_pure _

lemma keeps_interfaces (hp : IsPhaseOf outer p.current) (root method : Value) :
    Keeps p (Entry.IsPlaced outer) (interfaces parser fs settings root method).run :=
  keeps_run_bind (keeps_require _ _) fun _ => keeps_run_bind (keeps_require _ _) fun _ =>
    keeps_run_bind (keeps_scanInterfaces hp _) fun _ => keeps_run_pure _

lemma keeps_allInterfaces (hp : IsPhaseOf outer p.current) (root : Value) :
    Keeps p (Entry.IsPlaced outer) (allInterfaces parser fs settings root).run :=
  keeps_run_bind (keeps_require _ _) fun _ =>
    keeps_run_bind (keeps_scanInterfaces hp _) fun _ => keeps_run_pure _

/-- The query for the implementations under a root. -/
lemma keeps_implementations (hp : IsPhaseOf outer p.current) (root method : Value) :
    Keeps p (Entry.IsPlaced outer) (implementations parser fs settings root method).run := by
  refine keeps_run_bind (keeps_require _ _) fun _ => ?_
  refine keeps_run_bind (keeps_require _ _) fun name => ?_
  refine keeps_run_bind (keeps_scanScope hp _) fun scope => ?_
  dsimp only
  split
  · exact keeps_run_bind (keeps_querySay hp _ _) fun _ => keeps_run_pure _
  · next target others _ =>
    have hfound (message : List MethodDeclaration → String) :
        Keeps p (Entry.IsPlaced outer) (do
          let found ← ExceptT.lift
            (inPhase "resolve" (pure (implementationsFor scope target name)))
          say .info (message found)
          return found : Answer _).run :=
      keeps_run_bind (keeps_run_lift (keeps_inPhase (keeps_pure _))) fun _ =>
        keeps_run_bind (keeps_querySay hp _ _) fun _ => keeps_run_pure _
    split
    · exact keeps_run_bind (keeps_querySay hp _ _) fun _ => hfound _
    · exact hfound _

/-- The query for the relations in a package, which loads file after file. -/
lemma keeps_packageRelations (hp : IsPhaseOf outer p.current) (directory : Value) :
    Keeps p (Entry.IsPlaced outer) (packageRelations parser fs settings directory).run := by
  refine keeps_run_bind (keeps_require _ _) fun path => ?_
  refine keeps_run_bind (keeps_scanWith path false fun _ _ => keeps_pure _) fun found => ?_
  refine keeps_run_bind (keeps_querySay hp _ _) fun _ => ?_
  split
  · exact keeps_run_pure _
  · refine keeps_run_bind (keeps_scanInterfaces hp _) fun interfaces => ?_
    refine keeps_run_bind (keeps_run_lift (keeps_mapM (fun s => ?_) _)) fun parts => ?_
    · exact (keeps_sourceInterfaces hp s).bind
        ((keeps_implementationsIn hp s interfaces).bind (keeps_pure _))
    · refine keeps_run_bind (keeps_run_lift (keeps_inPhase (keeps_resolve rfl _))) fun _ => ?_
      exact keeps_run_bind (keeps_querySay hp _ _) fun _ => keeps_run_pure _

end Query

namespace Command

open Query

variable {fs : FileSystem} {settings : Settings}

/-- All queries keep phases. -/
lemma keeps_answer? (hp : IsPhaseOf outer p.current) (c : Command) (arguments : List Value)
    {x : Answer Json} (hx : c.answer? parser fs settings arguments = some x) :
    Keeps p (Entry.IsPlaced outer) x.run := by
  unfold answer? at hx
  split at hx
  · obtain rfl := Option.some.inj hx
    exact keeps_run_map (keeps_implementations hp _ _) _
  · obtain rfl := Option.some.inj hx
    exact keeps_run_map (keeps_interfaces hp _ _) _
  · obtain rfl := Option.some.inj hx
    exact keeps_run_map (keeps_fileInterfaces hp _) _
  · obtain rfl := Option.some.inj hx
    exact keeps_run_map (keeps_fileImplementations hp _) _
  · obtain rfl := Option.some.inj hx
    exact keeps_run_map (keeps_packageRelations hp _) _
  · obtain rfl := Option.some.inj hx
    exact keeps_run_map (keeps_allInterfaces hp _) _
  · exact absurd hx (by simp)

/-- A command keeps phases, whatever comes of its query. -/
lemma keeps_run (hp : IsPhaseOf outer p.current) (parser : Parser) (fs : FileSystem)
    (settings : Settings) (verb : String) (arguments : List Value) :
    Keeps p (Entry.IsPlaced outer) (run parser fs settings verb arguments) := by
  rw [run]
  split
  · exact keeps_pure _
  · split
    · exact keeps_pure _
    · next hx => exact (keeps_answer? hp _ arguments hx).bind (keeps_pure _)

/-- **The phases of a command.** Whether a command ends with an answer or with a fault, the console
is as before, with its phase and its query, and each entry that was made on the way is placed. -/
theorem run_phases (c : Console) (parser : Parser) (fs : FileSystem) (settings : Settings)
    (verb : String) (arguments : List Value) :
    (c.noteAll (run parser fs settings verb arguments).events).phase = c.phase
      ∧ (c.noteAll (run parser fs settings verb arguments).events).query = c.query
      ∧ c.noteAll (run parser fs settings verb arguments).events = c
      ∧ ∀ e ∈ Event.stamp c.phases (run parser fs settings verb arguments).events,
          e.IsPlaced c.phase := by
  have hrun : Keeps c.phases (Entry.IsPlaced c.phase) (run parser fs settings verb arguments) :=
    keeps_run (Or.inl rfl) parser fs settings verb arguments
  have hconsole : c.noteAll (run parser fs settings verb arguments).events = c := by
    rw [Console.noteAll_eq, hrun.returns]
  exact ⟨by rw [hconsole], by rw [hconsole], hconsole, hrun.entries⟩

end Command

end InterfaceAtlas
