import InterfaceAtlas.Proofs.Files.Scan
import InterfaceAtlas.Proofs.Journal.Outcome
import InterfaceAtlas.Proofs.Text.Utf8
import InterfaceAtlas.Settings.Load
import InterfaceAtlas.Yaml.Document

/-!
# How loading settings ends

Lenient validation turns faults into warnings, and strict validation ends at the first one. A few
things are beyond both: `Unforgiven` lists them with their causes. `load_endsAs` says of each loader
that finds nothing else wrong with a text than that it breaks the rules that there are no others. So
where none of them is met, lenient validation always has settings and strict validation has settings
or a fault.

`Forgiving` is the step of the argument. It holds of each piece that settings are read with, and is
kept by putting pieces together. In the other direction, `isName_of_load` says of settings that
there are that their level has a name.
-/

namespace InterfaceAtlas

/-- Whether a value is a text. -/
def Value.isText : Value → Bool
  | .text _ => true
  | _ => false

namespace Settings

open Logged

variable {α β : Type} {loader : Loader} {fs : FileSystem} {strict : Bool}

/-! ## What validation can forgive -/

/-- A computation has a value, or it ends with a fault and validation is strict. -/
def Forgiving (strict : Bool) (x : Checked α) : Prop :=
  (∃ a, outcome x = .ok a) ∨ (strict = true ∧ ∃ fault, outcome x = .error (.invalid fault))

lemma forgiving_pure (a : α) : Forgiving strict (pure a) := Or.inl ⟨a, rfl⟩

lemma forgiving_failOrWarn (strict : Bool) (fault : SettingsFault) :
    Forgiving strict (failOrWarn strict fault) := by
  cases strict with
  | true => exact Or.inr ⟨rfl, fault, rfl⟩
  | false => exact Or.inl ⟨(), rfl⟩

/-- Two forgiving checks in a row are forgiving. -/
lemma Forgiving.bind {x : Checked α} {f : α → Checked β} (hx : Forgiving strict x)
    (hf : ∀ a, outcome x = .ok a → Forgiving strict (f a)) : Forgiving strict (x >>= f) := by
  obtain ⟨a, ha⟩ | ⟨hstrict, fault, hfault⟩ := hx
  · rw [Forgiving, outcome_bind_ok ha]
    exact hf a ha
  · exact Or.inr ⟨hstrict, fault, outcome_bind_error hfault f⟩

/-! ## Mappings -/

/-- The check of a field forgives what it finds, or reports it as invalid. -/
lemma forgiving_decide? (payload : Payload) (key : String) (current : α)
    (read : Value → Except SettingsFault α) :
    Forgiving strict (decide? strict payload key current read) := by
  unfold decide?
  cases lookup? key payload with
  | none => exact forgiving_pure current
  | some v =>
    cases hread : read v with
    | ok a =>
      simp only [hread]
      exact forgiving_pure a
    | error fault =>
      simp only [hread]
      exact (forgiving_failOrWarn strict fault).bind fun _ _ => forgiving_pure current

lemma allTexts?_eq_none_iff (vs : List Value) :
    allTexts? vs = none ↔ ∃ v ∈ vs, v.isText = false := by
  induction vs with
  | nil => simp [allTexts?]
  | cons v more ih =>
    cases v with
    | text s => simp [allTexts?, Value.isText, ih]
    | null | bool | int | float | bytes | date | moment | list | pair | set | map =>
      simp [allTexts?, Value.isText]

/-- A key that is no text is unknown. -/
lemma allTexts?_unknownKeys_eq_none_iff (payload : Payload) :
    allTexts? (unknownKeys payload) = none ↔ ∃ key ∈ payload.map Prod.fst, key.isText = false := by
  rw [allTexts?_eq_none_iff]
  constructor
  · rintro ⟨v, hv, htext⟩
    obtain ⟨⟨key, value⟩, hmem, hkey⟩ := List.mem_filterMap.mp hv
    refine ⟨key, List.mem_map.mpr ⟨_, hmem, rfl⟩, ?_⟩
    cases key with
    | text s =>
      simp only [Option.ite_none_left_eq_some, Option.some.injEq] at hkey
      rw [hkey.2]
      exact htext
    | null | bool | int | float | bytes | date | moment | list | pair | set | map => rfl
  · rintro ⟨key, hkey, htext⟩
    obtain ⟨⟨key', value⟩, hmem, rfl⟩ := List.mem_map.mp hkey
    refine ⟨key', List.mem_filterMap.mpr ⟨_, hmem, ?_⟩, htext⟩
    cases key' with
    | text s => simp [Value.isText] at htext
    | null | bool | int | float | bytes | date | moment | list | pair | set | map => rfl

/-- A key that is no text is a fault that no mode forgives. -/
lemma outcome_checkKeys_of_odd {payload : Payload}
    (h : ∃ key ∈ payload.map Prod.fst, key.isText = false) :
    outcome (checkKeys strict payload) = .error .keyNotText := by
  rw [checkKeys, (allTexts?_unknownKeys_eq_none_iff payload).mpr h]
  rfl

lemma forgiving_checkKeys {payload : Payload} (h : ∀ key ∈ payload.map Prod.fst, key.isText) :
    Forgiving strict (checkKeys strict payload) := by
  unfold checkKeys
  split
  · next hnone =>
    obtain ⟨key, hkey, htext⟩ := (allTexts?_unknownKeys_eq_none_iff payload).mp hnone
    rw [h key hkey] at htext
    simp at htext
  · exact forgiving_pure ()
  · exact forgiving_failOrWarn strict _

/-- A mapping whose keys are texts has settings, up to faults. -/
lemma forgiving_apply (start : Settings) {payload : Payload}
    (h : ∀ key ∈ payload.map Prod.fst, key.isText) :
    Forgiving strict (apply strict start payload) :=
  (forgiving_checkKeys h).bind fun _ _ =>
    (forgiving_decide? payload _ _ _).bind fun _ _ =>
    (forgiving_decide? payload _ _ _).bind fun _ _ =>
    (forgiving_decide? payload _ _ _).bind fun _ _ =>
    (forgiving_decide? payload _ _ _).bind fun _ _ =>
    (forgiving_decide? payload _ _ _).bind fun _ _ => forgiving_pure _

/-! ## Files -/

/-- What a loader makes of the stream of a file that can be read. -/
def LoadsTo (loader : Loader) (fs : FileSystem) (path : String) (r : Except LoadFault Value) :
    Prop :=
  ∃ content, fs.read path = .ok content ∧ loader.load (Text.Utf8.stream content) = r

/-- The errors that a file of settings can cause however lenient validation is. -/
inductive Unforgiven (loader : Loader) (fs : FileSystem) (path : String) :
    SettingsError → Prop where
  /-- The name of the file has a null character. -/
  | unusablePath (h : Path.isUnusable path) : Unforgiven loader fs path .unusablePath
  /-- The file can be read, but its bytes are not UTF-8, and the loader gets as far as to the first
  byte that is not. -/
  | fileNotText {content : List UInt8} (hread : fs.read path = .ok content)
      (hdecode : Text.Utf8.decode? content = none)
      (hload : loader.load (Text.Utf8.stream content) = .error .notText) :
      Unforgiven loader fs path .fileNotText
  /-- The file holds a mapping with a key that is no text. -/
  | keyNotText {entries : Payload} (hload : LoadsTo loader fs path (.ok (.map entries)))
      (hkey : ∃ key ∈ entries.map Prod.fst, key.isText = false) :
      Unforgiven loader fs path .keyNotText

/-- What a file loads to decides what comes of it. -/
lemma loadFile_of_loadsTo {path : String} {r : Except LoadFault Value}
    (h : LoadsTo loader fs path r) (strict : Bool) :
    loadFile loader fs path strict = loadedMapping strict path r := by
  obtain ⟨content, hread, rfl⟩ := h
  rw [loadFile, hread]

/-- Only a path with a null character is no path at all. -/
lemma isUnusable_of_read {path : String} (h : fs.read path = .error .unusable) :
    Path.isUnusable path := by
  by_contra hpath
  exact FileSystem.read_ne_unusable (Bool.eq_false_iff.mpr hpath) h

/-- Only bytes that are not UTF-8 are no text for a loader. -/
lemma decode?_of_notText {content : List UInt8}
    (h : loader.load (Text.Utf8.stream content) = .error .notText) :
    Text.Utf8.decode? content = none := by
  cases hdecode : Text.Utf8.decode? content with
  | none => rfl
  | some text =>
    rw [Text.Utf8.stream_of_decode? hdecode] at h
    exact absurd h (loader.load_whole text)

/-- What can become of a file: something beyond validation, the entries of a mapping, no entries at
all, or a fault. -/
lemma loadFile_cases (hplain : loader.IsPlain) (fs : FileSystem) (path : String) (strict : Bool) :
    (∃ e, Unforgiven loader fs path e ∧ loadFile loader fs path strict = throw e)
      ∨ (∃ entries, LoadsTo loader fs path (.ok (.map entries))
          ∧ loadFile loader fs path strict = pure entries)
      ∨ loadFile loader fs path strict = pure []
      ∨ ∃ fault, loadFile loader fs path strict = do
          failOrWarn strict fault
          return [] := by
  cases hread : fs.read path with
  | error fault =>
    rw [loadFile, hread]
    cases fault with
    | unusable => exact Or.inl ⟨_, .unusablePath (isUnusable_of_read hread), rfl⟩
    | refused reason => cases reason <;> exact Or.inr (Or.inr (Or.inr ⟨_, rfl⟩))
  | ok content =>
    have hloads : LoadsTo loader fs path (loader.load (Text.Utf8.stream content)) :=
      ⟨content, hread, rfl⟩
    rw [loadFile_of_loadsTo hloads]
    cases hload : loader.load (Text.Utf8.stream content) with
    | error fault =>
      cases fault with
      | malformed reason => exact Or.inr (Or.inr (Or.inr ⟨_, rfl⟩))
      | notText => exact Or.inl ⟨_, .fileNotText hread (decode?_of_notText hload) hload, rfl⟩
      | badValue fault => exact absurd hload (hplain _ fault)
    | ok v =>
      rw [hload] at hloads
      cases v with
      | map entries => exact Or.inr (Or.inl ⟨entries, hloads, rfl⟩)
      | null => exact Or.inr (Or.inr (Or.inl rfl))
      | bool | int | float | text | bytes | date | moment | list | pair | set =>
        exact Or.inr (Or.inr (Or.inr ⟨_, rfl⟩))

/-- What is beyond validation ends loading. -/
lemma Unforgiven.outcome_eq {path : String} {e : SettingsError} (h : Unforgiven loader fs path e)
    (strict : Bool) (start : Settings) :
    outcome (loadFile loader fs path strict >>= apply strict start) = .error e := by
  cases h with
  | unusablePath h =>
    have hread : fs.read path = .error .unusable := by rw [FileSystem.read, if_pos h]
    refine outcome_bind_error ?_ _
    rw [loadFile, hread]
    rfl
  | @fileNotText content hread hdecode hload =>
    refine outcome_bind_error ?_ _
    rw [loadFile_of_loadsTo ⟨content, hread, hload⟩]
    rfl
  | @keyNotText entries hload hkey =>
    have hentries : outcome (loadFile loader fs path strict) = .ok entries := by
      rw [loadFile_of_loadsTo hload]
      rfl
    rw [outcome_bind_ok hentries]
    exact outcome_bind_error (outcome_checkKeys_of_odd hkey) _

/-- Where nothing is met that is beyond validation, there are settings up to faults. -/
lemma forgiving_of_not_unforgiven (hplain : loader.IsPlain) {path : String}
    (h : ∀ e, ¬ Unforgiven loader fs path e) (start : Settings) :
    Forgiving strict (loadFile loader fs path strict >>= apply strict start) := by
  have hempty : Forgiving strict (apply strict start []) := forgiving_apply start (by simp)
  obtain ⟨e, he, -⟩ | ⟨entries, hload, heq⟩ | heq | ⟨fault, heq⟩ :=
    loadFile_cases hplain fs path strict
  · exact absurd he (h e)
  · -- a key that is no text would be beyond validation
    rw [heq]
    refine (forgiving_pure entries).bind fun _ hvalue => ?_
    obtain rfl := Except.ok.inj hvalue
    refine forgiving_apply start fun key hkey => ?_
    by_contra htext
    exact h _ (.keyNotText hload ⟨key, hkey, Bool.eq_false_iff.mpr htext⟩)
  · rw [heq]
    refine (forgiving_pure []).bind fun _ hvalue => ?_
    obtain rfl := Except.ok.inj hvalue
    exact hempty
  · rw [heq, bind_assoc]
    exact (forgiving_failOrWarn strict fault).bind fun _ _ => hempty

/-! ## The whole -/

/-- The environment has its say on what the file makes of the defaults. -/
lemma outcome_load (loader : Loader) (fs : FileSystem) (env : Environment) (path : Option String)
    (strict : Option Bool) :
    outcome (load loader fs env path strict)
      = (outcome (applyFile loader fs path (strict.getD (env.isStrict false)))).map
          fun s => (env.apply s).value := by
  rw [load, outcome_bind]
  cases outcome (applyFile loader fs path (strict.getD (env.isStrict false))) <;> rfl

/-- Without the name of a file the defaults are taken. -/
lemma applyFile_eq (loader : Loader) (fs : FileSystem) (path : Option String) (strict : Bool) :
    applyFile loader fs path strict
      = (path.filter (· != "")).elim (pure {})
          fun p => loadFile loader fs p strict >>= apply strict {} := by
  cases path with
  | none => rfl
  | some p =>
    by_cases h : p = ""
    · subst h
      rfl
    · simp [applyFile, Option.filter, h]

/-- **How loading settings ends.** What is beyond validation ends it however lenient validation is.
Where the file that is named, if there is one, causes nothing of this kind, lenient validation has
settings, and strict validation has settings or a fault. Validation is as strict as it is asked to
be, or else as the environment says. -/
theorem load_endsAs (hplain : loader.IsPlain) (fs : FileSystem) (env : Environment)
    (path : Option String) (strict : Option Bool) :
    (∀ p ∈ path.filter (· != ""), ∀ e, Unforgiven loader fs p e →
        outcome (load loader fs env path strict) = .error e)
      ∧ ((∀ p ∈ path.filter (· != ""), ∀ e, ¬ Unforgiven loader fs p e) →
        (strict.getD (env.isStrict false) = false →
          ∃ settings, outcome (load loader fs env path strict) = .ok settings)
        ∧ (strict.getD (env.isStrict false) = true →
          (∃ settings, outcome (load loader fs env path strict) = .ok settings)
            ∨ ∃ fault, outcome (load loader fs env path strict) = .error (.invalid fault))) := by
  -- the environment comes after the file and has no errors, so the file alone decides
  rw [outcome_load, applyFile_eq]
  refine ⟨fun p hp e he => ?_, fun hnone => ?_⟩
  · rw [Option.mem_def.mp hp, Option.elim_some, he.outcome_eq]
    rfl
  · have hforgiving : Forgiving (strict.getD (env.isStrict false))
        ((path.filter (· != "")).elim (pure {}) fun p =>
          loadFile loader fs p (strict.getD (env.isStrict false))
            >>= apply (strict.getD (env.isStrict false)) {}) := by
      cases hfile : path.filter (· != "") with
      | none => exact forgiving_pure ({} : Settings)
      | some p => exact forgiving_of_not_unforgiven hplain (hnone p hfile) {}
    obtain ⟨settings, hsettings⟩ | ⟨hstrict, fault, hfault⟩ := hforgiving
    · rw [hsettings]
      exact ⟨fun _ => ⟨_, rfl⟩, fun _ => Or.inl ⟨_, rfl⟩⟩
    · rw [hfault]
      exact ⟨fun hlenient => by simp [hstrict] at hlenient, fun _ => Or.inr ⟨fault, rfl⟩⟩

/-- The loader of files with a YAML text, where a word that is no value breaks the rules. -/
def plainYaml : Loader where
  load s := (Yaml.loader.load s).mapError fun
    | .badValue _ => .malformed "could not construct a value"
    | fault => fault
  load_whole text h := by
    have hwhole := Yaml.loader.load_whole text
    cases hload : Yaml.loader.load { front := text } with
    | ok v =>
      rw [hload] at h
      cases h
    | error fault =>
      rw [hload] at h hwhole
      cases fault with
      | malformed reason => cases h
      | notText => exact hwhole rfl
      | badValue fault => cases h

lemma isPlain_plainYaml : plainYaml.IsPlain := by
  intro s fault h
  cases hload : Yaml.loader.load s with
  | ok v => simp [plainYaml, hload, Except.mapError] at h
  | error other => cases other <;> simp [plainYaml, hload, Except.mapError] at h

/-- A file of settings with a byte that is not UTF-8. -/
def bareByte : FileSystem := { entries := [("a.yml", .file [0xff])] }

lemma read_bareByte : bareByte.read "a.yml" = .ok [0xff] :=
  FileSystem.read_name ⟨by decide, by decide, by decide, by decide, by decide⟩ rfl rfl

lemma read_bareByte_missing : bareByte.read "b.yml" = .error (.refused .missing) :=
  FileSystem.read_name_missing ⟨by decide, by decide, by decide, by decide, by decide⟩ rfl rfl

/-- A file that cannot be opened is not beyond validation. -/
lemma not_unforgiven_of_refused {path : String} {reason : Refusal}
    (hread : fs.read path = .error (.refused reason)) (e : SettingsError) :
    ¬ Unforgiven loader fs path e := by
  intro h
  cases h with
  | unusablePath h => simp [FileSystem.read, h] at hread
  | fileNotText hcontent _ _ => simp [hread] at hcontent
  | keyNotText hload _ =>
    obtain ⟨content, hcontent, -⟩ := hload
    simp [hread] at hcontent

/-- Lenient validation forgives a file that is missing, but not one that is no text nor a name that
is no path. -/
theorem load_endsAs_bareByte :
    plainYaml.IsPlain
      ∧ Unforgiven plainYaml bareByte "a.yml" .fileNotText
      ∧ outcome (load plainYaml bareByte {} (some "a.yml") (some false)) = .error .fileNotText
      ∧ Unforgiven plainYaml bareByte "a\x00b" .unusablePath
      ∧ outcome (load plainYaml bareByte {} (some "a\x00b") (some true)) = .error .unusablePath
      ∧ (∀ e, ¬ Unforgiven plainYaml bareByte "b.yml" e)
      ∧ ∃ settings,
        outcome (load plainYaml bareByte {} (some "b.yml") (some false)) = .ok settings := by
  have hends := load_endsAs isPlain_plainYaml bareByte {}
  have hbyte : Unforgiven plainYaml bareByte "a.yml" .fileNotText :=
    .fileNotText read_bareByte (by decide) rfl
  have hnull : Unforgiven plainYaml bareByte "a\x00b" .unusablePath := .unusablePath (by decide)
  have hmissing : ∀ e, ¬ Unforgiven plainYaml bareByte "b.yml" e :=
    not_unforgiven_of_refused read_bareByte_missing
  refine ⟨isPlain_plainYaml, hbyte, ?_, hnull, ?_, hmissing, ?_⟩
  · exact (hends (some "a.yml") (some false)).1 _ (by decide) _ hbyte
  · exact (hends (some "a\x00b") (some true)).1 _ (by decide) _ hnull
  · refine ((hends (some "b.yml") (some false)).2 ?_).1 rfl
    intro p hp
    obtain rfl : "b.yml" = p := by simpa [Option.filter] using hp
    exact hmissing

/-! ## The level in settings -/

/-- A field has the value that it had or one that was read. -/
lemma decide?_cases {payload : Payload} {key : String} {current a : α}
    {read : Value → Except SettingsFault α}
    (h : outcome (decide? strict payload key current read) = .ok a) :
    a = current ∨ ∃ v, read v = .ok a := by
  unfold decide? at h
  split at h
  · exact Or.inl (Except.ok.inj h).symm
  · next v _ =>
    cases hread : read v with
    | ok b =>
      rw [hread] at h
      obtain rfl := Except.ok.inj h
      exact Or.inr ⟨v, hread⟩
    | error fault =>
      rw [hread] at h
      obtain ⟨-, -, hrest⟩ := exists_of_outcome_bind_ok h
      exact Or.inl (Except.ok.inj hrest).symm

lemma isName_of_readLevel {v : Value} {name : String} (h : readLevel v = .ok name) :
    Level.isName name := by
  by_cases hname : Level.isName (Text.capitals (givenText v))
  · rw [readLevel, if_pos hname] at h
    obtain rfl := Except.ok.inj h
    exact hname
  · rw [readLevel, if_neg hname] at h
    simp at h

/-- A mapping leaves the name of a level or puts another one. -/
lemma isName_of_apply {start s : Settings} {payload : Payload}
    (hstart : Level.isName start.logLevel)
    (h : outcome (apply strict start payload) = .ok s) : Level.isName s.logLevel := by
  unfold apply at h
  obtain ⟨-, -, h⟩ := exists_of_outcome_bind_ok h
  obtain ⟨tokens, -, h⟩ := exists_of_outcome_bind_ok h
  obtain ⟨source, -, h⟩ := exists_of_outcome_bind_ok h
  obtain ⟨test, -, h⟩ := exists_of_outcome_bind_ok h
  obtain ⟨skip, -, h⟩ := exists_of_outcome_bind_ok h
  obtain ⟨level, hlevel, h⟩ := exists_of_outcome_bind_ok h
  obtain rfl := Except.ok.inj h
  obtain rfl | ⟨v, hv⟩ := decide?_cases hlevel
  · exact hstart
  · exact isName_of_readLevel hv

lemma isName_levelOr (env : Environment) {current : String} (h : Level.isName current) :
    Level.isName (env.levelOr current).value := by
  unfold Environment.levelOr
  split
  · exact h
  · split_ifs with hempty hname
    · exact h
    · exact hname
    · exact h

lemma isName_of_applyFile {path : Option String} {s : Settings}
    (h : outcome (applyFile loader fs path strict) = .ok s) : Level.isName s.logLevel := by
  have hdefault : Level.isName ({} : Settings).logLevel := by decide
  rw [applyFile_eq] at h
  cases hfile : path.filter (· != "") with
  | none =>
    rw [hfile] at h
    obtain rfl := Except.ok.inj h
    exact hdefault
  | some p =>
    rw [hfile] at h
    obtain ⟨payload, -, happly⟩ := exists_of_outcome_bind_ok h
    exact isName_of_apply hdefault happly

/-- Settings always name a level. -/
lemma isName_of_load {env : Environment} {path : Option String} {strict : Option Bool}
    {settings : Settings} (h : outcome (load loader fs env path strict) = .ok settings) :
    Level.isName settings.logLevel := by
  rw [outcome_load] at h
  obtain ⟨s, hfile, rfl⟩ := exists_of_map_ok h
  exact isName_levelOr env (isName_of_applyFile hfile)

end Settings

end InterfaceAtlas
