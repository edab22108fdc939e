import InterfaceAtlas.CommandLine.Request
import InterfaceAtlas.Proofs.Journal.CapitalForms
import InterfaceAtlas.Proofs.Settings.Normal

/-!
# Where a level can be named

A level can be named on the command line, in a file of settings and in the environment, and
diagnostics resolve what has been stored. The command line stores the text in capitals with the
white space around it; the other two take the white space off first. `entries_agree` says that all
of them take the same texts, that they refuse the others each in its own way, and that what they
store stands for the level that the text itself stands for.
-/

namespace InterfaceAtlas

namespace Settings

open Logged

variable {text : String}

/-! ## Files that name a level -/

/-- A mapping that says nothing but a level. -/
def levelMapping (text : String) : Payload := [(.text "log_level", .text text)]

lemma isText_levelMapping (text : String) :
    ∀ key ∈ (levelMapping text).map Prod.fst, key.isText := by
  simp [levelMapping, Value.isText]

lemma lookup?_levelMapping (text : String) :
    lookup? Field.logLevel.key (levelMapping text) = some (.text text) := rfl

lemma lookup?_levelMapping_of_ne {field : Field} (h : field ≠ .logLevel) (text : String) :
    lookup? field.key (levelMapping text) = none := by
  cases field with
  | logLevel => exact absurd rfl h
  | excludedTokens | sourceSuffix | testSuffix | skipFaulty => rfl

/-- The entry of a level is read as its text is. -/
lemma reading?_levelMapping (text : String) :
    Field.logLevel.reading? (levelMapping text) = some (readLevel (.text text)) := by
  unfold Field.reading?
  rw [lookup?_levelMapping, Option.map_some, Field.read]

/-- Nothing but the level can be wrong with such a mapping. -/
lemma faults_levelMapping (text : String) :
    faults (levelMapping text) = (faultOf? (some (readLevel (.text text)))).toList := by
  have hkeys : keyFaults (levelMapping text) = [] := rfl
  have hothers : ∀ field : Field, field ≠ .logLevel → field.faults (levelMapping text) = [] := by
    intro field hne
    rw [Field.faults, Field.reading?, lookup?_levelMapping_of_ne hne]
    rfl
  unfold faults
  simp only [hkeys, Field.all, List.flatMap_cons, List.flatMap_nil,
    hothers .excludedTokens (by decide), hothers .sourceSuffix (by decide),
    hothers .testSuffix (by decide), hothers .skipFaulty (by decide), List.nil_append,
    List.append_nil]
  rw [Field.faults, reading?_levelMapping]

/-- Such a mapping sets the level, or leaves it as it was. -/
lemma settled_levelMapping (start : Settings) (text : String) :
    settled start (levelMapping text)
      = { start with logLevel := contentOr start.logLevel (some (readLevel (.text text))) } := by
  apply eq_of_fields
  intro field
  rw [of_settled]
  by_cases hlevel : field = .logLevel
  · subst hlevel
    rw [reading?_levelMapping, Field.of, Field.of]
  · rw [Field.reading?, lookup?_levelMapping_of_ne hlevel]
    cases field with
    | logLevel => exact absurd rfl hlevel
    | excludedTokens | sourceSuffix | testSuffix | skipFaulty => rfl

/-- A name of a level is taken in both modes, in its normal form, and nothing is said. -/
lemma run_apply_levelMapping (hname : Level.isName (Level.normalName text)) (strict : Bool)
    (start : Settings) :
    (apply strict start (levelMapping text)).run
      = ⟨.ok { start with logLevel := Level.normalName text }, []⟩ := by
  have hread : readLevel (.text text) = .ok (Level.normalName text) := by
    rw [readLevel_text, if_pos hname]
  have hfaults : faults (levelMapping text) = [] := by
    rw [faults_levelMapping, hread]
    rfl
  have hsettled : settled start (levelMapping text)
      = { start with logLevel := Level.normalName text } := by
    rw [settled_levelMapping, hread]
    rfl
  cases strict with
  | false =>
    rw [run_apply_lenient (isText_levelMapping text), hfaults, hsettled]
    rfl
  | true =>
    rw [run_apply_strict (isText_levelMapping text), hfaults, hsettled]
    rfl

/-- A mapping with a text that is no level: strict validation ends with it, and lenient validation
warns and changes nothing. -/
lemma run_apply_levelMapping_unknown (hname : ¬ Level.isName (Level.normalName text))
    (start : Settings) :
    (apply true start (levelMapping text)).run
        = ⟨.error (.invalid (.badLevel (.text text))), []⟩
      ∧ (apply false start (levelMapping text)).run
        = ⟨.ok start, [.say ⟨.warning, .settings, warning (.badLevel (.text text))⟩]⟩ := by
  have hread : readLevel (.text text) = .error (.badLevel (.text text)) := by
    rw [readLevel_text, if_neg hname]
  have hfaults : faults (levelMapping text) = [.badLevel (.text text)] := by
    rw [faults_levelMapping, hread]
    rfl
  have hsettled : settled start (levelMapping text) = start := by
    rw [settled_levelMapping, hread]
    rfl
  constructor
  · rw [run_apply_strict (isText_levelMapping text), hfaults]
    rfl
  · rw [run_apply_lenient (isText_levelMapping text), hfaults, hsettled]
    rfl

/-! ## Variables that name a level -/

lemma events_apply (env : Environment) (start : Settings) :
    (env.apply start).events = (env.levelOr start.logLevel).events := by
  unfold Environment.apply
  rw [events_bind, events_pure, List.append_nil]

/-- A name of a level in the environment is taken in its normal form. -/
lemma levelOr_named {env : Environment} (hset : env.logLevel = some text)
    (hname : Level.isName (Level.normalName text)) (current : String) :
    env.levelOr current = pure (Level.normalName text) := by
  -- an empty variable counts as none, but it is no name either
  have hempty : text ≠ "" := by
    rintro rfl
    exact absurd hname (by decide)
  unfold Environment.levelOr
  rw [hset]
  dsimp only
  rw [if_neg (by simpa using hempty), if_pos hname]

/-- A text in the environment that names no level is warned of and left out. -/
lemma levelOr_unknown {env : Environment} (hset : env.logLevel = some text) (hempty : text ≠ "")
    (hname : ¬ Level.isName (Level.normalName text)) (current : String) :
    env.levelOr current = ⟨current,
      [.say ⟨.warning, .settings, "Ignoring unknown GO_IFACE_LOG_LEVEL=" ++ text⟩]⟩ := by
  unfold Environment.levelOr
  rw [hset]
  dsimp only
  rw [if_neg (by simpa using hempty), if_neg hname]
  rfl

end Settings

namespace CommandLine

open Text

/-! ## All entries -/

/-- A text is taken as a level wherever one can be named. -/
structure Taken (text : String) (level : Level) : Prop where
  /-- As an option it is stored in capitals, with the white space around it. -/
  option : ∀ o : Options, o.setLevel text = .ok { o with logLevel := some (capitals text) }
  /-- In a mapping it is stored in capitals without the white space, however strict validation
  is. -/
  mapping : ∀ (strict : Bool) (start : Settings),
    (Settings.apply strict start (Settings.levelMapping text)).run
      = ⟨.ok { start with logLevel := capitals (strip text) }, []⟩
  /-- In the environment likewise. -/
  environment : ∀ (env : Environment) (start : Settings), env.logLevel = some text →
    (env.apply start).value.logLevel = capitals (strip text) ∧ (env.apply start).events = []
  /-- What the option stores stands for the same level. -/
  resolvesOption : Level.resolve? (.text (capitals text)) = some level
  /-- What is stored without the white space stands for the same level. -/
  resolvesSetting : Level.resolve? (.text (capitals (strip text))) = some level
  /-- Both are stored alike whatever the capital forms beyond ASCII are. -/
  forms : ∀ upper, CompletesCapital upper →
    formsOf upper text = capitals text ∧ formsOf upper (strip text) = capitals (strip text)

/-- A text is refused wherever a level can be named. -/
structure Refused (text : String) : Prop where
  /-- As an option it is misuse. -/
  option : ∀ o : Options, o.setLevel text = .error (.misuse (.unknownLevel text))
  /-- In a mapping it is a fault, where validation is strict. -/
  strict : ∀ start : Settings,
    (Settings.apply true start (Settings.levelMapping text)).run
      = ⟨.error (.invalid (.badLevel (.text text))), []⟩
  /-- Otherwise it is warned of. -/
  lenient : ∀ start : Settings,
    (Settings.apply false start (Settings.levelMapping text)).run
      = ⟨.ok start, [.say ⟨.warning, .settings, Settings.warning (.badLevel (.text text))⟩]⟩
  /-- In the environment it is warned of, if there is anything in it. -/
  environment : ∀ (env : Environment) (start : Settings), env.logLevel = some text → text ≠ "" →
    (env.apply start).value.logLevel = start.logLevel
      ∧ (env.apply start).events
        = [.say ⟨.warning, .settings, "Ignoring unknown GO_IFACE_LOG_LEVEL=" ++ text⟩]
  /-- It is no name whatever the capital forms beyond ASCII are. -/
  forms : ∀ upper, CompletesCapital upper → Level.isName (formsOf upper (strip text)) = false

/-- A text that a console resolves is taken by all entries. -/
lemma taken_of_resolve? {text : String} {level : Level}
    (h : Level.resolve? (.text text) = some level) : Taken text level := by
  have hname : Level.isName (Level.normalName text) := by
    rw [Level.resolve?_text] at h
    unfold Level.isName
    cases hof : Level.ofName? (Level.normalName text) with
    | none => simp [hof] at h
    | some n => rfl
  exact {
    option := by
      intro o
      unfold Options.setLevel
      rw [h]
    mapping := Settings.run_apply_levelMapping hname
    environment := by
      intro env start hset
      rw [Settings.events_apply, Settings.value_apply, Settings.levelOr_named hset hname]
      exact ⟨rfl, rfl⟩
    resolvesOption := by rw [Level.resolve?_capitals, h]
    resolvesSetting := by
      -- a name in normal form is its own normal form
      show Level.resolve? (.text (Level.normalName text)) = some level
      rw [Level.resolve?_of_isName hname, ← Level.resolve?_text, h]
    forms := fun upper hupper => Level.formsOf_of_isName hupper hname }

/-- A text that a console does not resolve is refused by all entries. -/
lemma refused_of_resolve? {text : String} (h : Level.resolve? (.text text) = none) :
    Refused text := by
  have hnone : Level.ofName? (Level.normalName text) = none := by
    rwa [Level.resolve?_text, Option.map_eq_none_iff] at h
  have hname : ¬ Level.isName (Level.normalName text) := by
    unfold Level.isName
    rw [hnone]
    exact Bool.false_ne_true
  exact {
    option := by
      intro o
      unfold Options.setLevel
      rw [h]
    strict := fun start => (Settings.run_apply_levelMapping_unknown hname start).1
    lenient := fun start => (Settings.run_apply_levelMapping_unknown hname start).2
    environment := by
      intro env start hset hempty
      rw [Settings.events_apply, Settings.value_apply, Settings.levelOr_unknown hset hempty hname]
      exact ⟨rfl, rfl⟩
    forms := by
      intro upper hupper
      unfold Level.isName
      rw [Level.ofName?_formsOf hupper, show capitals (strip text) = Level.normalName text from rfl,
        hnone]
      rfl }

/-- **A level is a level everywhere.** A text that stands for a level is taken as an option, in a
mapping and in the environment, and what each of them stores stands for that level. A text that
stands for none is refused by all of them. -/
theorem entries_agree (text : String) :
    match Level.resolve? (.text text) with
    | some level => Taken text level
    | none => Refused text := by
  cases h : Level.resolve? (.text text) with
  | some level => exact taken_of_resolve? h
  | none => exact refused_of_resolve? h

/-- A dotless letter among white space spells a level, a letter with an accent does not, also where
that letter has its capital form. -/
theorem entries_agree_dotless :
    Taken "\u00a0ınfo\t" .info ∧ Refused "ınfó"
      ∧ formsOf (Function.update capital 'ó' ['Ó']) "\u00a0ınfo\t" = "\u00a0INFO\t"
      ∧ Level.isName (formsOf (Function.update capital 'ó' ['Ó']) (strip "ınfó")) = false := by
  have hforms : CompletesCapital (Function.update capital 'ó' ['Ó']) :=
    completesCapital_capital.update (by decide) (by decide) (by decide)
      ⟨'Ó', List.mem_singleton_self _, by decide⟩
  have htaken : Taken "\u00a0ınfo\t" .info := entries_agree "\u00a0ınfo\t"
  have hrefused : Refused "ınfó" := entries_agree "ınfó"
  exact ⟨htaken, hrefused, (htaken.forms _ hforms).1, hrefused.forms _ hforms⟩

end CommandLine

end InterfaceAtlas
