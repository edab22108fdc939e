import InterfaceAtlas.Proofs.Settings.Validation

/-!
# Settings in layers

A field has its default, then what the file says of it, then what the environment says of it. Each
layer decides a field on its own, by the one key or the one variable that belongs to the field:

* `of_settled` says this of a mapping, and `of_environment` of the environment;
* `fields_layered` puts the two together. Fields with the same key and the same variable have the
  same content, whatever else differs.

The variables differ in when they count. A list of tokens and a flag count as soon as they are set;
a level counts only if it is one.
-/

namespace InterfaceAtlas

/-- The spelling of the name of a level, if a text is one in any case and among white space. -/
def Level.named? (raw : String) : Option String :=
  if isName (normalName raw) then some (normalName raw) else none

lemma Level.isName_of_named? {raw name : String} (h : named? raw = some name) : isName name := by
  unfold named? at h
  split_ifs at h with hname
  obtain rfl := Option.some.inj h
  exact hname

namespace Settings

open Logged

variable {loader : Loader} {fs : FileSystem} {env : Environment} {payload payload' : Payload}

/-! ## The layer of the environment -/

namespace Field

/-- The text of the variable that belongs to a field. -/
def environmentText? : Field → Environment → Option String
  | excludedTokens, env => env.excludeDirs
  | skipFaulty, env => env.skipErrorFiles
  | logLevel, env => env.logLevel
  | sourceSuffix, _ | testSuffix, _ => none

/-- The content that the text of a variable amounts to. -/
def override? : (field : Field) → String → Option field.Content
  | excludedTokens => fun raw => some (tokensOfText raw)
  | skipFaulty => fun raw => some (Environment.isYes raw)
  | logLevel => Level.named?
  | sourceSuffix | testSuffix => fun _ => none

end Field

lemma value_levelOr (env : Environment) (current : String) :
    (env.levelOr current).value = (env.logLevel.bind Level.named?).getD current := by
  unfold Environment.levelOr
  cases env.logLevel with
  | none => rfl
  | some raw =>
    rw [Option.bind_some, Level.named?]
    dsimp only
    by_cases hname : Level.isName (Level.normalName raw)
    · -- an empty text is no level, so it does not matter that it is looked at first
      have hempty : (raw == "") = false := by
        rw [beq_eq_false_iff_ne]
        intro hempty
        rw [hempty] at hname
        exact absurd hname (by decide)
      rw [hempty, if_pos hname, if_pos hname]
      rfl
    · rw [if_neg hname, if_neg hname]
      split_ifs <;> rfl

lemma value_apply (env : Environment) (s : Settings) :
    (env.apply s).value
      = { s with
          excludedTokens := (env.excludeDirs.map tokensOfText).getD s.excludedTokens
          skipFaulty := Environment.flag env.skipErrorFiles s.skipFaulty
          logLevel := (env.levelOr s.logLevel).value } := rfl

/-- The environment has the last word on a field, if it has one. -/
lemma of_environment (field : Field) (env : Environment) (s : Settings) :
    field.of (env.apply s).value
      = ((field.environmentText? env).bind field.override?).getD (field.of s) := by
  rw [value_apply, value_levelOr]
  cases field with
  | excludedTokens =>
    show (env.excludeDirs.map tokensOfText).getD s.excludedTokens
      = (env.excludeDirs.bind fun raw => some (tokensOfText raw)).getD s.excludedTokens
    rw [Option.map_eq_bind]
    rfl
  | skipFaulty =>
    show Environment.flag env.skipErrorFiles s.skipFaulty
      = (env.skipErrorFiles.bind fun raw => some (Environment.isYes raw)).getD s.skipFaulty
    cases env.skipErrorFiles with
    | none => rfl
    | some raw => rw [Environment.flag, Option.bind_some, Option.getD_some]
  | logLevel => rfl
  | sourceSuffix => rfl
  | testSuffix => rfl

/-! ## The layers together -/

/-- The mapping that lenient validation has from a file; without a name there is none. -/
def GivesMapping (loader : Loader) (fs : FileSystem) (path : Option String) (payload : Payload) :
    Prop :=
  (path.filter (· != "")).elim (payload = []) fun p =>
    outcome (loadFile loader fs p false) = .ok payload

/-- Settings over the settings of the file, over the defaults. -/
structure Layered (payload : Payload) (env : Environment) (fromFile s : Settings) : Prop where
  /-- Lenient validation makes something of every mapping. -/
  file : outcome (apply false {} payload) = .ok fromFile
  /-- What the file says of a field comes over the default. -/
  settles : Settles {} payload fromFile
  /-- What the environment says comes over the file. -/
  environment : (env.apply fromFile).value = s
  /-- Loading has these settings wherever a file gives this mapping and validation is lenient. -/
  loaded : ∀ loader fs path strict, strict.getD (env.isStrict false) = false →
    GivesMapping loader fs path payload → outcome (load loader fs env path strict) = .ok s
  /-- Where the environment says nothing of a field, the file has its say. -/
  unset : ∀ field : Field, field.environmentText? env = none → field.of s = field.of fromFile
  /-- Tokens that are set decide alone. -/
  tokens : ∀ raw, env.excludeDirs = some raw → s.excludedTokens = tokensOfText raw
  /-- A flag that is set decides alone. -/
  flag : ∀ raw, env.skipErrorFiles = some raw → s.skipFaulty = Environment.isYes raw
  /-- The name of a level decides alone. -/
  level : ∀ raw, env.logLevel = some raw → Level.isName (Level.normalName raw) →
    s.logLevel = Level.normalName raw
  /-- A text that is empty or no level decides nothing. -/
  noLevel : ∀ raw, env.logLevel = some raw → raw = "" ∨ ¬ Level.isName (Level.normalName raw) →
    s.logLevel = fromFile.logLevel

/-- The settings under an environment that a mapping leads to. -/
def effective (payload : Payload) (env : Environment) : Settings :=
  (env.apply (settled {} payload)).value

lemma of_effective (field : Field) (payload : Payload) (env : Environment) :
    field.of (effective payload env)
      = ((field.environmentText? env).bind field.override?).getD
          (contentOr (field.of {}) (field.reading? payload)) := by
  rw [effective, of_environment, of_settled]

/-- Loading is lenient validation of what the file gives, and then the environment. -/
lemma outcome_load_lenient {path : Option String} {strict : Option Bool}
    (htexts : ∀ key ∈ payload.map Prod.fst, key.isText)
    (hlenient : strict.getD (env.isStrict false) = false)
    (hgives : GivesMapping loader fs path payload) :
    outcome (load loader fs env path strict) = .ok (effective payload env) := by
  have hfile : outcome (applyFile loader fs path false) = .ok (settled {} payload) := by
    rw [applyFile_eq]
    unfold GivesMapping at hgives
    cases hpath : path.filter (· != "") with
    | none =>
      rw [hpath] at hgives
      rw [show payload = [] from hgives]
      rfl
    | some p =>
      rw [hpath] at hgives
      exact (outcome_bind_ok hgives _).trans (outcome_apply_lenient htexts {})
  rw [outcome_load, hlenient, hfile]
  rfl

lemma layered_effective (htexts : ∀ key ∈ payload.map Prod.fst, key.isText) (env : Environment) :
    Layered payload env (settled {} payload) (effective payload env) where
  file := outcome_apply_lenient htexts {}
  settles := settles_settled {} payload
  environment := rfl
  loaded _ _ _ _ := outcome_load_lenient htexts
  unset field hunset := by
    rw [effective, of_environment, hunset]
    rfl
  tokens raw hraw := by
    show (env.excludeDirs.map tokensOfText).getD _ = tokensOfText raw
    rw [hraw, Option.map_some, Option.getD_some]
  flag raw hraw := by
    show Environment.flag env.skipErrorFiles _ = Environment.isYes raw
    rw [hraw, Environment.flag]
  level raw hraw hname := by
    show (env.levelOr _).value = _
    rw [value_levelOr, hraw, Option.bind_some, Level.named?, if_pos hname]
    rfl
  noLevel raw hraw hother := by
    have hname : ¬ Level.isName (Level.normalName raw) := by
      obtain rfl | hname := hother
      · decide
      · exact hname
    show (env.levelOr _).value = _
    rw [value_levelOr, hraw, Option.bind_some, Level.named?, if_neg hname]
    rfl

/-- **Each field is settled on its own.** Lenient validation has settings for every mapping with
texts as keys and every environment, with the environment over the file over the defaults. If two
mappings have the same value for the key of a field and two environments the same text for its
variable, the field has the same content in both settings. -/
theorem fields_layered (env env' : Environment)
    (htexts : ∀ key ∈ payload.map Prod.fst, key.isText)
    (htexts' : ∀ key ∈ payload'.map Prod.fst, key.isText) :
    ∃ fromFile s fromFile' s', Layered payload env fromFile s ∧ Layered payload' env' fromFile' s'
      ∧ ∀ field : Field, lookup? field.key payload = lookup? field.key payload' →
        field.environmentText? env = field.environmentText? env' → field.of s = field.of s' := by
  refine ⟨_, effective payload env, _, effective payload' env', layered_effective htexts env,
    layered_effective htexts' env', ?_⟩
  intro field hkey henv
  -- the content is a function of the one key and the one variable
  rw [of_effective, of_effective, henv, Field.reading?, hkey]
  rfl

/-- A level in the environment counts and one that is none does not, whatever the mappings say; the
tokens are the same under the same variable. -/
theorem fields_layered_loud :
    (∀ key ∈ ([] : Payload).map Prod.fst, key.isText) ∧ (∀ key ∈ loud.map Prod.fst, key.isText)
      ∧ ∃ s s' : Settings,
        outcome (load Yaml.loader {} { excludeDirs := some "a,, b", logLevel := some " debug " }
              none none)
            = .ok s
          ∧ s.excludedTokens = s'.excludedTokens ∧ s'.excludedTokens = ["a", "b"]
          ∧ s.logLevel = "DEBUG" ∧ s'.logLevel = "INFO" ∧ s'.sourceSuffix = ".golang" := by
  have hempty : ∀ key ∈ ([] : Payload).map Prod.fst, key.isText := by simp
  have hloud : ∀ key ∈ loud.map Prod.fst, key.isText := isText_of_mem_ofMembers _
  obtain ⟨_, s, fromFile, s', hs, hs', hsame⟩ :=
    fields_layered { excludeDirs := some "a,, b", logLevel := some " debug " }
      { excludeDirs := some "a,, b", logLevel := some "louder" } hempty hloud
  refine ⟨hempty, hloud, s, s', hs.loaded Yaml.loader {} none none rfl rfl,
    hsame .excludedTokens rfl rfl, hs'.tokens "a,, b" rfl, hs.level " debug " rfl (by decide), ?_,
    ?_⟩
  · rw [hs'.noLevel "louder" rfl (Or.inr (by decide))]
    exact hs'.settles.rejected .logLevel ⟨.text "loud", .badLevel (.text "loud"), rfl, rfl⟩
  · have hunset : s'.sourceSuffix = fromFile.sourceSuffix := hs'.unset .sourceSuffix rfl
    rw [hunset]
    exact hs'.settles.taken .sourceSuffix (.text " .golang ") ".golang" rfl rfl

end Settings

end InterfaceAtlas
