import InterfaceAtlas.CommandLine.Run
import InterfaceAtlas.Proofs.Journal.Level
import InterfaceAtlas.Proofs.Query.Outcome
import InterfaceAtlas.Proofs.Settings.Outcome

/-!
# How runs end

A run that was not asked for help prints one line of JSON and ends with status zero, or it prints
nothing and ends with another status: two if its command line is misuse, and one otherwise. Status
zero means that there are settings, that the command has a payload, and that the output takes it.

A run could still end in a way that this leaves out if its diagnostics could not be configured.
`Request.configures` says that they always can: a level on the command line was checked when it was
read, and settings name none but levels.
-/

namespace InterfaceAtlas.CommandLine

/-! ## Levels on the command line -/

/-- The level that some options name, if they do, stands for a level. -/
def Options.Resolves (o : Options) : Prop :=
  ∀ text, o.logLevel = some text → (Level.resolve? (.text text)).isSome

/-- A level that was set is one that the console resolves. -/
lemma resolves_of_setLevel {o o' : Options} {text : String} (h : o.setLevel text = .ok o') :
    o'.Resolves := by
  unfold Options.setLevel at h
  cases hlevel : Level.resolve? (.text text) with
  | none => simp [hlevel] at h
  | some level =>
    rw [hlevel] at h
    obtain rfl := Except.ok.inj h
    intro stored hstored
    obtain rfl := Option.some.inj hstored
    rw [Level.resolve?_capitals, hlevel]
    rfl

/-- Every word in front of the verb keeps the level one that resolves. -/
lemma resolves_of_readFront {o : Options} {unknown : List String} {words : List Word}
    {front : Front} (ho : o.Resolves) (h : readFront o unknown words = .ok front) :
    front.options.Resolves := by
  fun_induction readFront o unknown words with
  -- unknown words and the other two options leave the level as it is
  | case1 _ _ _ _ ih | case4 _ _ _ _ ih | case5 _ _ _ _ _ ih | case6 _ _ _ _ _ ih => exact ih ho h
  -- a level is checked before its capitals are stored
  | case8 o unknown value _ more ih | case9 o unknown _ value more ih =>
    obtain ⟨o', hlevel, hrest⟩ := Logged.exists_of_bind_ok h
    exact ih o' (resolves_of_setLevel hlevel) hrest
  | case2 | case3 | case7 | case10 => cases h
  | case11 =>
    obtain rfl := Except.ok.inj h
    exact ho

/-- The verb of a request has no say in its options. -/
lemma options_of_ofVerb {front : Front} {verb : String} {arguments : List String}
    {request : Request} (h : Request.ofVerb front verb arguments = .ok request) :
    request.options = front.options := by
  unfold Request.ofVerb at h
  split at h
  · cases h
  · obtain ⟨back, -, hback⟩ := Logged.exists_of_bind_ok h
    split at hback
    · obtain rfl := Except.ok.inj hback
      rfl
    · cases hback

/-- No request is read with a level that the console does not resolve. -/
lemma resolves_of_read {argv : List String} {request : Request}
    (h : Request.read argv = .ok request) : request.options.Resolves := by
  unfold Request.read at h
  obtain ⟨front, hfront, hverb⟩ := Logged.exists_of_bind_ok h
  obtain ⟨words, -, hwords⟩ := Logged.exists_of_bind_ok (Logged.of_mapError_ok hfront)
  have hdefault : ({} : Options).Resolves := by
    intro text htext
    cases htext
  split at hverb
  · cases hverb
  · cases hverb
  · rw [options_of_ofVerb hverb]
    exact resolves_of_readFront hdefault hwords

namespace Request

/-- Diagnostics can be configured for every request under every settings. -/
lemma configures {argv : List String} {request : Request} {s : Surroundings} {settings : Settings}
    (h : read argv = .ok request) (hsettings : (request.settings s).value = .ok settings) :
    (({} : Console).configure?
      (.text (request.options.logLevel.getD settings.logLevel))).isSome := by
  rw [Console.configure?, Option.isSome_map]
  cases hlevel : request.options.logLevel with
  | some text => exact resolves_of_read h text hlevel
  | none =>
    have hname : Level.isName settings.logLevel := Settings.isName_of_load hsettings
    rw [Option.getD_none, Level.resolve?_of_isName hname, Option.isSome_map]
    exact hname

/-! ## Requests -/

/-- The arguments of a request as its command takes them. One without a value is no text. -/
def values (r : Request) : List Value := r.arguments.map fun argument =>
  argument.elim (.list []) .text

/-- There are settings for a request, and under them its command has a payload. -/
def Answers (r : Request) (s : Surroundings) (payload : Json) : Prop :=
  ∃ settings, (r.settings s).value = .ok settings
    ∧ (Command.run s.parser s.files settings r.command.verb r.values).value = .ok payload

/-- All arguments have values, or there is one that is no text. -/
lemma values_cases (r : Request) :
    (∃ arguments, r.arguments.mapM id = some arguments ∧ r.values = arguments.map .text)
      ∨ (r.arguments.mapM id = none ∧ .list [] ∈ r.values) := by
  unfold values
  induction r.arguments with
  | nil => exact Or.inl ⟨[], rfl, rfl⟩
  | cons argument more ih =>
    cases argument with
    | none => exact Or.inr ⟨rfl, by simp⟩
    | some text =>
      obtain ⟨arguments, hmore, hvalues⟩ | ⟨hmore, hmem⟩ := ih
      · exact Or.inl ⟨text :: arguments, by simp [hmore], by simp [hvalues]⟩
      · exact Or.inr ⟨by simp [hmore], by simp [hmem]⟩

/-- A request is answered as its command is, and each fault of a query is a failure. -/
lemma answer_value (r : Request) (arguments : List String) (parser : Parser) (fs : FileSystem)
    (settings : Settings) :
    (r.answer arguments parser fs settings).value
      = match (Command.run parser fs settings r.command.verb (arguments.map .text)).value with
        | .ok payload => .answer payload
        | .error _ => .failure := by
  rw [answer, Logged.value_bind, Logged.value_bind, Logged.value_inPhase]
  cases (Command.run parser fs settings r.command.verb (arguments.map .text)).value <;> rfl

/-- A request that has a payload prints it. -/
lemma outcome_of_answers {r : Request} {s : Surroundings} {payload : Json}
    (h : r.Answers s payload) : (r.run s).outcome = (Outcome.answer payload).printed s.takes := by
  obtain ⟨settings, hsettings, hpayload⟩ := h
  obtain ⟨arguments, harguments, hvalues⟩ | ⟨-, hmem⟩ := r.values_cases
  · rw [hvalues] at hpayload
    have hanswer : (r.answer arguments s.parser s.files settings).value = .answer payload := by
      rw [answer_value, hpayload]
    simp only [run, hsettings, harguments, hanswer]
  · -- a command has no payload for a value that is no text
    have hfilled := Command.isFilled_of_run hpayload _ hmem
    cases hfilled

/-- A request that is answered ends with the answer, if the output takes it. -/
lemma outcome_of_takes {r : Request} {s : Surroundings} {payload : Json}
    (h : r.Answers s payload) (htakes : s.takes payload.encode = true) :
    (r.run s).outcome = .answer payload := by
  rw [outcome_of_answers h, Outcome.printed, if_pos htakes]

end Request

/-! ## Runs -/

/-- Surroundings of a run in the directory with one file. The output takes all texts. -/
def shapeSurroundings : Surroundings where
  files := Query.shapes
  parser := Query.shapeParser
  loader := Yaml.loader
  takes := fun _ => true
  time := ""
  query := "-"

/-- The request for the interfaces of a file. -/
def fileRequest (path : String) : Request where
  command := .findFileInterfaces
  arguments := [some path]

/-- Where nothing is said of settings, the request has the interfaces of a file that can be
loaded. -/
lemma answers_fileRequest {s : Surroundings} {path : String} {source : Source}
    (hsettings : ((fileRequest path).settings s).value = .ok {})
    (hblank : Text.isBlankText path = false)
    (hload : (Source.load s.parser s.files {} path).value = .ok (some source)) :
    (fileRequest path).Answers s
      (Wire.interfaces true (Query.methodsNamed source.interfaces.value)) := by
  refine ⟨{}, hsettings, ?_⟩
  show (Command.run s.parser s.files {} Command.findFileInterfaces.verb [.text path]).value = _
  rw [Command.run_value rfl, Query.result_map, Query.fileInterfaces_of_load hblank hload]
  rfl

/-- The request for the interfaces in a file is answered. -/
lemma answers_shapes :
    (fileRequest "./shape.go").Answers shapeSurroundings
      (Wire.interfaces true Query.shape.methods) := by
  have hmethods : Query.methodsNamed Query.shapeSource.interfaces.value = Query.shape.methods := by
    rw [Query.interfaces_shapeSource]
    rfl
  rw [← hmethods]
  exact answers_fileRequest rfl (by decide) Query.load_shapes

end InterfaceAtlas.CommandLine
