import InterfaceAtlas.Proofs.CommandLine.Outcome
import InterfaceAtlas.Proofs.Query.Level

/-!
# Runs and the level of diagnostics

The level of diagnostics can be named on the command line, in the environment and in the settings,
and answers do not depend on it. `run_outcome_eq_of_sameButLevels` compares two runs whose command
lines say the same apart from levels, in environments that are the same apart from the level: they
end the same.

The comparison follows a run. Command lines that say the same apart from levels are the same misuse,
or they are requests that differ in the level alone (`read_withoutLevels`). For such requests there
are the same settings apart from the level (`Request.settings_withLevel`), and no query reads the
level (`Command.run_withLevel`).
-/

namespace InterfaceAtlas

/-! ## Without the level -/

/-- The environment without the variable for the level. -/
def Environment.withoutLevel (env : Environment) : Environment := { env with logLevel := none }

namespace CommandLine

/-- The options without the level. -/
def Options.withoutLevel (o : Options) : Options := { o with logLevel := none }

/-- What stands in front of the verb, without the level. -/
def Front.withoutLevel (front : Front) : Front :=
  { front with options := front.options.withoutLevel }

/-- The request without the level. -/
def Request.withoutLevel (r : Request) : Request := { r with options := r.options.withoutLevel }

/-- Whether a text is accepted as a level. -/
def isLevel (text : String) : Bool := (Level.resolve? (.text text)).isSome

/-- The words of a command line without the levels in front of the verb, as far as they are
accepted. Where an option lacks the value that it takes, it goes with the word behind it. -/
def withoutLevels : List Word → List Word
  | .option .logLevel (some value) text :: more =>
    if isLevel value then withoutLevels more
    else .option .logLevel (some value) text :: withoutLevels more
  | .option .logLevel none text :: .operand value :: more =>
    if isLevel value then withoutLevels more
    else .option .logLevel none text :: .operand value :: withoutLevels more
  | .option .logLevel none text :: next :: more =>
    .option .logLevel none text :: next :: withoutLevels more
  | .option .config none text :: next :: more =>
    .option .config none text :: next :: withoutLevels more
  | .option switch value text :: more => .option switch value text :: withoutLevels more
  | .unknown text :: more => .unknown text :: withoutLevels more
  | rest => rest

/-- Two command lines say the same apart from levels. -/
def SameButLevels (argv argv' : List String) : Prop :=
  (readWords allSpellings argv).map withoutLevels = (readWords allSpellings argv').map withoutLevels

instance (argv argv' : List String) : Decidable (SameButLevels argv argv') :=
  inferInstanceAs (Decidable (_ = _))

/-! ## Levels as arguments -/

/-- What begins with a character that is not white space still does so without white space. -/
lemma exists_trim_eq_cons {c : Char} (h : Text.isBlank c = false) (cs : List Char) :
    ∃ rest, Text.trim (c :: cs) = c :: rest := by
  have hkeep : (c :: cs).dropWhile Text.isBlank = c :: cs := by simp [h]
  rw [Text.trim, hkeep, List.reverse_cons, List.dropWhile_append]
  split_ifs
  · exact ⟨[], by simp [h]⟩
  · exact ⟨_, by rw [List.reverse_append, List.reverse_singleton, List.singleton_append]⟩

/-- No level begins with a hyphen. -/
lemma head?_ne_hyphen {text : String} (h : isLevel text) : text.toList.head? ≠ some '-' := by
  intro hhead
  obtain ⟨cs, hcs⟩ := List.head?_eq_some_iff.mp hhead
  obtain ⟨rest, hrest⟩ := exists_trim_eq_cons (by decide : Text.isBlank '-' = false) cs
  -- the hyphen is still there in the spelling under which the name is looked up
  have hnormal : (Level.normalName text).toList = '-' :: rest.flatMap Text.capital := by
    have hcapital : Text.capital '-' = ['-'] := by decide
    simp [Level.normalName, Text.strip, Text.capitals, hcs, hrest, hcapital]
  rw [isLevel, Level.resolve?_text, Option.isSome_map] at h
  obtain ⟨entry, hmem, hname⟩ := List.lookup_isSome_iff.mp h
  have hnames : ∀ entry ∈ Level.names, entry.1.toList.head? ≠ some '-' := by decide
  refine hnames entry hmem ?_
  rw [← eq_of_beq hname, hnormal, List.head?_cons]

/-- A level is read as the operand that an option takes. -/
lemma readWord_level {text : String} (h : isLevel text) (table : Spellings) :
    readWord table text = .ok (.operand text) := by
  have hhead := head?_ne_hyphen h
  unfold readWord
  split
  · next hcs => simp [hcs] at hhead
  · next hcs => simp [hcs] at hhead
  · next hcs => simp [hcs] at hhead
  · rfl

/-- An argument in front of the divider is read by itself. -/
lemma readWords_cons {table : Spellings} {arg : String} {word : Word} (hdivider : arg ≠ "--")
    (hword : readWord table arg = .ok word) (more : List String) :
    readWords table (arg :: more) = (readWords table more).map (word :: ·) := by
  rw [readWords, if_neg hdivider, hword]
  rfl

/-- A level that is accepted may be put in front of any command line. -/
lemma sameButLevels_cons {text : String} (h : isLevel text) (argv : List String) :
    SameButLevels ("--log-level" :: text :: argv) argv := by
  have hoption : readWord allSpellings "--log-level"
      = .ok (.option .logLevel none "--log-level") := by decide
  have hdivider : text ≠ "--" := by
    intro heq
    exact head?_ne_hyphen h (by rw [heq]; decide)
  unfold SameButLevels
  rw [readWords_cons (by decide) hoption, readWords_cons hdivider (readWord_level h _)]
  cases readWords allSpellings argv with
  | error a => rfl
  | ok words =>
    have hwords : withoutLevels (.option .logLevel none "--log-level" :: .operand text :: words)
        = withoutLevels words := if_pos h
    exact congrArg Except.ok hwords

/-! ## Reading command lines -/

/-- To set a level changes nothing but the level. -/
lemma withoutLevel_setLevel {o o' : Options} {text : String} (h : o.setLevel text = .ok o') :
    o'.withoutLevel = o.withoutLevel := by
  unfold Options.setLevel at h
  cases hlevel : Level.resolve? (.text text) with
  | none => simp [hlevel] at h
  | some level =>
    rw [hlevel] at h
    obtain rfl := Except.ok.inj h
    rfl

lemma withoutLevel_setConfig {o o' : Options} (h : o.withoutLevel = o'.withoutLevel)
    (path : String) : (o.setConfig path).withoutLevel = (o'.setConfig path).withoutLevel :=
  congrArg (Options.setConfig · path) h

lemma withoutLevel_strict {o o' : Options} (h : o.withoutLevel = o'.withoutLevel) :
    { o with strict := true }.withoutLevel = { o' with strict := true }.withoutLevel :=
  congrArg (fun p : Options => { p with strict := true }) h

/-- A level that is one can be set, whatever was set before. -/
lemma exists_setLevel (o : Options) {text : String} (h : isLevel text) :
    ∃ o', o.setLevel text = .ok o' := by
  obtain ⟨level, hlevel⟩ := Option.isSome_iff_exists.mp h
  unfold Options.setLevel
  rw [hlevel]
  exact ⟨_, rfl⟩

/-- Any other text is misuse, and is named as it was given. -/
lemma setLevel_error (o : Options) {text : String} (h : ¬ isLevel text) :
    o.setLevel text = .error (.misuse (.unknownLevel text)) := by
  have hnone : Level.resolve? (.text text) = none := Option.not_isSome_iff_eq_none.mp h
  unfold Options.setLevel
  rw [hnone]

/-- Levels leave no trace in what is read in front of the verb, apart from the level itself. -/
lemma readFront_withoutLevels {o o' : Options} (h : o.withoutLevel = o'.withoutLevel)
    (unknown : List String) (words : List Word) :
    (readFront o unknown words).map Front.withoutLevel
      = (readFront o' unknown (withoutLevels words)).map Front.withoutLevel := by
  fun_induction withoutLevels words generalizing o o' unknown with
  | case1 value text more hlevel ih =>
    obtain ⟨p, hp⟩ := exists_setLevel o hlevel
    rw [readFront, hp]
    exact ih ((withoutLevel_setLevel hp).trans h) unknown
  | case2 value text more hlevel ih =>
    rw [readFront, readFront, setLevel_error o hlevel, setLevel_error o' hlevel]
    rfl
  | case3 text value more hlevel ih =>
    obtain ⟨p, hp⟩ := exists_setLevel o hlevel
    rw [readFront, hp]
    exact ih ((withoutLevel_setLevel hp).trans h) unknown
  | case4 text value more hlevel ih =>
    rw [readFront, readFront, setLevel_error o hlevel, setLevel_error o' hlevel]
    rfl
  -- the word behind such an option is no value, or it is the same value on both sides
  | case5 text next more hnext ih =>
    cases next with
    | operand value => exact absurd rfl (hnext value)
    | divider | option | unknown => rfl
  | case6 text next more ih =>
    cases next with
    | operand value => exact ih (withoutLevel_setConfig h value) unknown
    | divider | option | unknown => rfl
  | case7 switch value text more hattached _ happart hconfig ih =>
    cases switch with
    | help => rfl
    | config =>
      cases value with
      | some path => exact ih (withoutLevel_setConfig h path) unknown
      | none =>
        cases more with
        | nil => rfl
        | cons next more => exact (hconfig next more rfl rfl rfl).elim
    | logLevel =>
      cases value with
      | some level => exact (hattached level rfl rfl).elim
      | none =>
        cases more with
        | nil => rfl
        | cons next more => exact (happart next more rfl rfl rfl).elim
    | strictConfig =>
      cases value with
      | some excess => rfl
      | none => exact ih (withoutLevel_strict h) unknown
  | case8 text more ih => exact ih h (unknown ++ [text])
  -- at the verb, or at the end, the options are handed over as they are
  | case9 rest _ _ _ _ hoption hunknown =>
    have hrest : ∀ p : Options, readFront p unknown rest = .ok ⟨p, unknown, rest⟩ := by
      intro p
      cases rest with
      | nil => rfl
      | cons word more =>
        cases word with
        | operand | divider => rfl
        | option switch value text => exact (hoption switch value text more rfl).elim
        | unknown text => exact (hunknown text more rfl).elim
    rw [hrest, hrest]
    exact congrArg (fun options => Except.ok (Front.mk options unknown rest)) h

/-- Behind the verb the level does not matter. -/
lemma ofVerb_withoutLevel (front : Front) (verb : String) (arguments : List String) :
    Request.ofVerb front.withoutLevel verb arguments
      = (Request.ofVerb front verb arguments).map Request.withoutLevel := by
  have hunknown : front.withoutLevel.unknown = front.unknown := rfl
  unfold Request.ofVerb
  cases Command.ofVerb? verb with
  | none => rfl
  | some c =>
    dsimp only
    rw [hunknown]
    cases readBack c arguments with
    | error stop => rfl
    | ok back =>
      dsimp only [Except.mapError, bind, Except.bind]
      cases front.unknown ++ back.surplus with
      | nil => rfl
      | cons text more => rfl

/-- The request that what stands in front of the verb leads to. -/
def Request.ofFront (front : Front) : Except Rejection Request :=
  match front.rest.map Word.text with
  | [] | ["--"] => .error (.misuse { misuse := .missing ["command"] })
  | verb :: more => ofVerb front verb more

lemma read_eq_ofFront (argv : List String) :
    Request.read argv
      = ((wordsOf allSpellings argv >>= readFront {} []).mapError (Rejection.ofStop none))
        >>= Request.ofFront := rfl

/-- What is requested does not depend on the level, but for the level itself. -/
lemma ofFront_withoutLevel (front : Front) :
    Request.ofFront front.withoutLevel = (Request.ofFront front).map Request.withoutLevel := by
  have hrest : front.withoutLevel.rest = front.rest := rfl
  unfold Request.ofFront
  rw [hrest]
  split
  · rfl
  · rfl
  · exact ofVerb_withoutLevel front _ _

/-- Command lines that differ in levels alone have the same front, but for its level. -/
lemma front_withoutLevels {argv argv' : List String} (h : SameButLevels argv argv') :
    (wordsOf allSpellings argv >>= readFront {} []).map Front.withoutLevel
      = (wordsOf allSpellings argv' >>= readFront {} []).map Front.withoutLevel := by
  unfold SameButLevels at h
  unfold wordsOf
  cases hwords : readWords allSpellings argv with
  | error a =>
    cases hwords' : readWords allSpellings argv' with
    | error b =>
      rw [hwords, hwords'] at h
      obtain rfl := Except.error.inj h
      rfl
    | ok words' => simp [hwords, hwords', Except.map] at h
  | ok words =>
    cases hwords' : readWords allSpellings argv' with
    | error b => simp [hwords, hwords', Except.map] at h
    | ok words' =>
      rw [hwords, hwords'] at h
      have hsame : withoutLevels words = withoutLevels words' := Except.ok.inj h
      show (readFront {} [] words).map _ = (readFront {} [] words').map _
      rw [readFront_withoutLevels rfl, hsame, ← readFront_withoutLevels rfl]

/-- Command lines that say the same apart from levels are the same misuse, or requests that differ
in the level alone. -/
theorem read_withoutLevels {argv argv' : List String} (h : SameButLevels argv argv') :
    (Request.read argv).map Request.withoutLevel
      = (Request.read argv').map Request.withoutLevel := by
  -- the level is dropped before the verb is looked at, which makes no difference
  have hread : ∀ argv, (Request.read argv).map Request.withoutLevel
      = (((wordsOf allSpellings argv >>= readFront {} []).map Front.withoutLevel).mapError
          (Rejection.ofStop none)) >>= Request.ofFront := by
    intro argv
    rw [read_eq_ofFront]
    cases wordsOf allSpellings argv >>= readFront {} [] with
    | error stop => rfl
    | ok front => exact (ofFront_withoutLevel front).symm
  rw [hread, hread, front_withoutLevels h]

/-! ## Settings -/

/-- The environment's say on the level leaves all other settings as they are. -/
lemma apply_withLevel {env env' : Environment} (h : env.withoutLevel = env'.withoutLevel)
    (s : Settings) (level : String) :
    (env.apply s).value.withLevel level = (env'.apply s).value.withLevel level := by
  have hdirs : env.excludeDirs = env'.excludeDirs := (congrArg Environment.excludeDirs h :)
  have hskip : env.skipErrorFiles = env'.skipErrorFiles :=
    (congrArg Environment.skipErrorFiles h :)
  simp only [Environment.apply, Logged.value_bind, Logged.value_pure, Settings.withLevel, hdirs,
    hskip]

/-- Whether settings load, and as what, does not depend on the level in the environment, but for the
level itself. -/
lemma outcome_load_withLevel {env env' : Environment} (h : env.withoutLevel = env'.withoutLevel)
    (loader : Loader) (fs : FileSystem) (path : Option String) (strict : Option Bool)
    (level : String) :
    (Logged.outcome (Settings.load loader fs env path strict)).map (·.withLevel level)
      = (Logged.outcome (Settings.load loader fs env' path strict)).map (·.withLevel level) := by
  have hstrict : env.isStrict false = env'.isStrict false :=
    (congrArg (Environment.isStrict · false) h :)
  rw [Settings.outcome_load, Settings.outcome_load, hstrict]
  cases Logged.outcome (Settings.applyFile loader fs path (strict.getD (env'.isStrict false))) with
  | error e => rfl
  | ok s => exact congrArg Except.ok (apply_withLevel h s level)

/-! ## Runs -/

/-- Two runs on the same files, in environments that are the same apart from the variable for the
level. Files are parsed and loaded alike, and the output takes the same texts. -/
structure Surroundings.SameButLevel (s s' : Surroundings) : Prop where
  files : s.files = s'.files
  environment : s.environment.withoutLevel = s'.environment.withoutLevel
  parser : s.parser = s'.parser
  loader : s.loader = s'.loader
  takes : s.takes = s'.takes

namespace Request

variable {r r' : Request} {s s' : Surroundings}

/-- Requests that differ in the level alone have the same settings, apart from the level. -/
lemma settings_withLevel (hr : r.withoutLevel = r'.withoutLevel) (hs : s.SameButLevel s')
    (level : String) :
    (r.settings s).value.map (·.withLevel level)
      = (r'.settings s').value.map (·.withLevel level) := by
  have hconfig : r.options.config = r'.options.config :=
    (congrArg (fun q : Request => q.options.config) hr :)
  have hstrict : r.options.strict = r'.options.strict :=
    (congrArg (fun q : Request => q.options.strict) hr :)
  unfold settings
  rw [hconfig, hstrict, hs.files, hs.loader]
  exact outcome_load_withLevel hs.environment s'.loader s'.files _ _ level

/-- The answer to a request depends on its command and not on any level. -/
lemma answer_withLevel (hcommand : r.command = r'.command) (arguments : List String)
    (parser : Parser) (fs : FileSystem) {settings settings' : Settings} {level : String}
    (h : settings.withLevel level = settings'.withLevel level) :
    (r.answer arguments parser fs settings).value
      = (r'.answer arguments parser fs settings').value := by
  rw [answer_value, answer_value, hcommand, ← Command.run_withLevel parser fs settings level, h,
    Command.run_withLevel]

/-- Requests that differ in the level alone end alike. -/
lemma run_outcome_of_withoutLevel (hr : r.withoutLevel = r'.withoutLevel)
    (hs : s.SameButLevel s') : (r.run s).outcome = (r'.run s').outcome := by
  have hcommand : r.command = r'.command := (congrArg Request.command hr :)
  have harguments : r.arguments = r'.arguments := (congrArg Request.arguments hr :)
  have hsettings := settings_withLevel hr hs ""
  cases hload : (r.settings s).value with
  | error e =>
    cases hload' : (r'.settings s').value with
    | error e' =>
      rw [hload, hload'] at hsettings
      obtain rfl := Except.error.inj hsettings
      cases e with
      | invalid | keyNotText | fileNotText | badValue | unusablePath =>
        simp only [run, hload, hload']
    | ok settings' => simp [hload, hload', Except.map] at hsettings
  | ok settings =>
    cases hload' : (r'.settings s').value with
    | error e' => simp [hload, hload', Except.map] at hsettings
    | ok settings' =>
      rw [hload, hload'] at hsettings
      have hsame := Except.ok.inj hsettings
      simp only [run, hload, hload', harguments, hs.files, hs.parser, hs.takes]
      cases r'.arguments.mapM id with
      | none => rfl
      | some arguments =>
        exact congrArg (Outcome.printed s'.takes)
          (answer_withLevel hcommand arguments s'.parser s'.files hsame)

end Request

/-- Diagnostics can be configured in a run: where it comes to that, the level in force is one. -/
def Configures (s : Surroundings) (argv : List String) : Prop :=
  ∀ request settings, Request.read argv = .ok request → (request.settings s).value = .ok settings →
    (({} : Console).configure? (.text (request.options.logLevel.getD settings.logLevel))).isSome

lemma configures (s : Surroundings) (argv : List String) : Configures s argv :=
  fun _ _ hread hsettings => Request.configures hread hsettings

/-- **Diagnostics do not touch answers.** Two runs on the same files, whose command lines say the
same apart from levels that are accepted and whose environments are the same apart from the variable
for the level, end the same: they print the same and have the same status. Whatever the levels are,
diagnostics can be configured in both. -/
theorem run_outcome_eq_of_sameButLevels {s s' : Surroundings} {argv argv' : List String}
    (hargv : SameButLevels argv argv') (hs : s.SameButLevel s') :
    (run s argv).outcome = (run s' argv').outcome
      ∧ (run s argv).outcome.output = (run s' argv').outcome.output
      ∧ (run s argv).outcome.status = (run s' argv').outcome.status
      ∧ Configures s argv ∧ Configures s' argv' := by
  have houtcome : (run s argv).outcome = (run s' argv').outcome := by
    have hread := read_withoutLevels hargv
    unfold run
    cases hrequest : Request.read argv with
    | error rejection =>
      cases hrequest' : Request.read argv' with
      | error rejection' =>
        rw [hrequest, hrequest'] at hread
        obtain rfl := Except.error.inj hread
        cases rejection with
        | help | misuse => rfl
      | ok request' => simp [hrequest, hrequest', Except.map] at hread
    | ok request =>
      cases hrequest' : Request.read argv' with
      | error rejection' => simp [hrequest, hrequest', Except.map] at hread
      | ok request' =>
        rw [hrequest, hrequest'] at hread
        exact Request.run_outcome_of_withoutLevel (Except.ok.inj hread) hs
  exact ⟨houtcome, congrArg Outcome.output houtcome, congrArg Outcome.status houtcome,
    configures s argv, configures s' argv'⟩

/-- A level on the command line, or one in the environment that is none, changes only what
diagnostics say: the interfaces of the file are printed in both runs. -/
theorem run_outcome_eq_of_sameButLevels_shapes :
    SameButLevels ["--log-level", " debug ", "find-file-interfaces", "./shape.go"]
        ["find-file-interfaces", "./shape.go"]
      ∧ (run shapeSurroundings
          ["--log-level", " debug ", "find-file-interfaces", "./shape.go"]).outcome
        = (run { shapeSurroundings with environment := { logLevel := some "loud" }, time := "noon" }
            ["find-file-interfaces", "./shape.go"]).outcome
      ∧ (run shapeSurroundings
          ["--log-level", " debug ", "find-file-interfaces", "./shape.go"]).outcome
        = .answer (Wire.interfaces true Query.shape.methods) := by
  have hargv : SameButLevels ["--log-level", " debug ", "find-file-interfaces", "./shape.go"]
      ["find-file-interfaces", "./shape.go"] := sameButLevels_cons (by decide) _
  have hread : Request.read ["find-file-interfaces", "./shape.go"]
      = .ok (fileRequest "./shape.go") := by
    decide
  have hanswer : (run shapeSurroundings ["find-file-interfaces", "./shape.go"]).outcome
      = .answer (Wire.interfaces true Query.shape.methods) := by
    simp only [run, hread, Request.outcome_of_takes answers_shapes rfl]
  refine ⟨hargv, (run_outcome_eq_of_sameButLevels hargv ⟨rfl, rfl, rfl, rfl, rfl⟩).1, ?_⟩
  exact (run_outcome_eq_of_sameButLevels hargv ⟨rfl, rfl, rfl, rfl, rfl⟩).1.trans hanswer

/-- Levels may be attached, cut short and repeated, also between other options. -/
example : SameButLevels
    ["--log=debug", "--config", "c.yml", "--log-level", "Error", "find-all-interfaces", "."]
    ["--config", "c.yml", "--log-level=INFO", "find-all-interfaces", "."] := by
  decide

end CommandLine

end InterfaceAtlas
