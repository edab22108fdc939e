import InterfaceAtlas.Proofs.Settings.Outcome

/-!
# Strict and lenient validation

A mapping is checked piece by piece, and what happens at a piece that cannot be used depends on how
strict validation is. Seen as a whole, there is one list of faults, which does not depend on that,
and one reading of the mapping:

* `faults` lists what is wrong with a mapping, in the order in which it is found;
* `settled` reads each field on its own: its key decides it, if its value can be used;
* `apply_eq_report` says that settings are made by reporting all faults and then settling.

Strict validation stops at the first report and lenient validation warns at each, which is all there
is to the difference between the two (`apply_strict_lenient`).
-/

namespace InterfaceAtlas.Settings

open Logged

variable {strict : Bool} {start : Settings} {payload : Payload}

/-! ## Fields -/

/-- The fields of settings. -/
inductive Field where
  | excludedTokens
  | sourceSuffix
  | testSuffix
  | skipFaulty
  | logLevel
deriving DecidableEq, Repr

namespace Field

/-- All fields, in the order in which they are checked. -/
def all : List Field := [excludedTokens, sourceSuffix, testSuffix, skipFaulty, logLevel]

/-- What a field holds. -/
abbrev Content : Field → Type
  | excludedTokens => List String
  | sourceSuffix | testSuffix | logLevel => String
  | skipFaulty => Bool

/-- The content of a field. -/
def of : (field : Field) → Settings → field.Content
  | excludedTokens, s => s.excludedTokens
  | sourceSuffix, s => s.sourceSuffix
  | testSuffix, s => s.testSuffix
  | skipFaulty, s => s.skipFaulty
  | logLevel, s => s.logLevel

/-- The key that decides a field. -/
def key : Field → String
  | excludedTokens => "excluded_dir_tokens"
  | sourceSuffix => "source_suffix"
  | testSuffix => "test_suffix"
  | skipFaulty => "skip_files_with_errors"
  | logLevel => "log_level"

/-- The content that a value amounts to, or what is wrong with the value. -/
def read : (field : Field) → Value → Except SettingsFault field.Content
  | excludedTokens => readTokens
  | sourceSuffix => readSuffix "source_suffix"
  | testSuffix => readSuffix "test_suffix"
  | skipFaulty => readFlag
  | logLevel => readLevel

/-- What the key of a field amounts to, if the key is there. -/
def reading? (field : Field) (payload : Payload) : Option (Except SettingsFault field.Content) :=
  (lookup? field.key payload).map field.read

end Field

/-- The content of a field after its key was read: a key that is not there or cannot be used changes
nothing. -/
def contentOr {α : Type} (current : α) : Option (Except SettingsFault α) → α
  | some (.ok a) => a
  | some (.error _) | none => current

/-- What is wrong with the value of a key. -/
def faultOf? {α : Type} : Option (Except SettingsFault α) → Option SettingsFault
  | some (.error fault) => some fault
  | some (.ok _) | none => none

/-- The settings with each field as its key has it, where that can be used. -/
def settled (start : Settings) (payload : Payload) : Settings where
  excludedTokens := contentOr start.excludedTokens (Field.excludedTokens.reading? payload)
  sourceSuffix := contentOr start.sourceSuffix (Field.sourceSuffix.reading? payload)
  testSuffix := contentOr start.testSuffix (Field.testSuffix.reading? payload)
  skipFaulty := contentOr start.skipFaulty (Field.skipFaulty.reading? payload)
  logLevel := contentOr start.logLevel (Field.logLevel.reading? payload)

lemma of_settled (field : Field) (start : Settings) (payload : Payload) :
    field.of (settled start payload) = contentOr (field.of start) (field.reading? payload) := by
  cases field <;> rfl

/-- What is wrong with the keys of a mapping. -/
def keyFaults (payload : Payload) : List SettingsFault :=
  match allTexts? (unknownKeys payload) with
  | none | some [] => []
  | some keys => [.unknownKeys (keys.mergeSort fun a b => decide (a ≤ b))]

/-- What is wrong with the value of a field. -/
def Field.faults (field : Field) (payload : Payload) : List SettingsFault :=
  (faultOf? (field.reading? payload)).toList

/-- What is wrong with a mapping, in the order in which it is found. -/
def faults (payload : Payload) : List SettingsFault :=
  keyFaults payload ++ Field.all.flatMap fun field => field.faults payload

/-! ## Reports -/

/-- Reports faults one after the other. -/
def report (strict : Bool) (faults : List SettingsFault) : Checked Unit :=
  faults.forM (failOrWarn strict)

/-- Faults are reported in turn, up to the first in the strict mode. -/
lemma report_append (strict : Bool) (xs ys : List SettingsFault) :
    report strict (xs ++ ys) = report strict xs >>= fun _ => report strict ys :=
  List.forM_append

lemma report_singleton (strict : Bool) (fault : SettingsFault) :
    report strict [fault] = failOrWarn strict fault :=
  bind_pure (failOrWarn strict fault)

/-- What is said of a fault that is forgiven. -/
def warning (fault : SettingsFault) : String := fault.message ++ "; continuing with defaults"

/-- Lenient validation warns of each fault. -/
lemma run_report_lenient (faults : List SettingsFault) :
    (report false faults).run
      = ⟨.ok (), faults.map fun fault => .say ⟨.warning, .settings, warning fault⟩⟩ := by
  induction faults with
  | nil => rfl
  | cons fault more ih =>
    have hwarn : (failOrWarn false fault).run
        = ⟨.ok (), [.say ⟨.warning, .settings, warning fault⟩]⟩ := rfl
    show (failOrWarn false fault >>= fun _ => report false more).run = _
    rw [run_bind_ok hwarn, ih]
    rfl

/-- Strict validation ends with the first fault, and nothing is said. -/
lemma run_report_strict (faults : List SettingsFault) :
    (report true faults).run
      = ⟨faults.head?.elim (.ok ()) fun fault => .error (.invalid fault), []⟩ := by
  cases faults with
  | nil => rfl
  | cons fault more => rfl

/-! ## Validation as a report -/

/-- To decide a field is to report its fault, if it has one, and to keep the current value then. -/
lemma decide?_eq_report {α : Type} (strict : Bool) (payload : Payload) (key : String) (current : α)
    (read : Value → Except SettingsFault α) :
    decide? strict payload key current read
      = report strict (faultOf? ((lookup? key payload).map read)).toList >>= fun _ =>
          pure (contentOr current ((lookup? key payload).map read)) := by
  unfold decide?
  cases lookup? key payload with
  | none => rfl
  | some v =>
    rw [Option.map_some]
    cases hread : read v with
    | ok a =>
      simp only [hread]
      rfl
    | error fault =>
      simp only [hread]
      show _ = report strict [fault] >>= fun _ => pure current
      rw [report_singleton]

/-- Where all keys are texts, unknown ones are a fault like others. -/
lemma checkKeys_eq_report (htexts : ∀ key ∈ payload.map Prod.fst, key.isText) :
    checkKeys strict payload = report strict (keyFaults payload) := by
  unfold checkKeys keyFaults
  cases hkeys : allTexts? (unknownKeys payload) with
  | none =>
    obtain ⟨key, hkey, hodd⟩ := (allTexts?_unknownKeys_eq_none_iff payload).mp hkeys
    simp [htexts key hkey] at hodd
  | some keys =>
    cases keys with
    | nil => rfl
    | cons key more => exact (report_singleton strict _).symm

/-- Settings are made by reporting all faults and then settling. -/
theorem apply_eq_report (htexts : ∀ key ∈ payload.map Prod.fst, key.isText) (strict : Bool)
    (start : Settings) :
    apply strict start payload
      = report strict (faults payload) >>= fun _ => pure (settled start payload) := by
  unfold apply faults
  -- each check is a report followed by a pure result, so all reports can be moved to the front
  simp only [checkKeys_eq_report htexts, decide?_eq_report, bind_assoc, pure_bind, report_append,
    Field.all, List.flatMap_cons, List.flatMap_nil, List.append_nil]
  rfl

/-- In the lenient mode each fault is warned of, and the fields without one are taken. -/
lemma run_apply_lenient (htexts : ∀ key ∈ payload.map Prod.fst, key.isText) (start : Settings) :
    (apply false start payload).run
      = ⟨.ok (settled start payload),
          (faults payload).map fun fault => .say ⟨.warning, .settings, warning fault⟩⟩ := by
  rw [apply_eq_report htexts, run_bind_ok (run_report_lenient _)]
  exact congrArg (Logged.mk _) (List.append_nil _)

/-- In the strict mode the first fault ends everything. -/
lemma run_apply_strict (htexts : ∀ key ∈ payload.map Prod.fst, key.isText) (start : Settings) :
    (apply true start payload).run
      = ⟨(faults payload).head?.elim (.ok (settled start payload)) fun fault =>
          .error (.invalid fault), []⟩ := by
  rw [apply_eq_report htexts]
  cases faults payload with
  | nil => rfl
  | cons fault more =>
    -- the report ends with an error, so settling is never reached
    exact run_bind_error (run_report_strict (fault :: more)) _

lemma outcome_apply_lenient (htexts : ∀ key ∈ payload.map Prod.fst, key.isText)
    (start : Settings) : outcome (apply false start payload) = .ok (settled start payload) :=
  congrArg Logged.value (run_apply_lenient htexts start)

/-! ## What is reported and what is settled -/

/-- A field whose value cannot be used. -/
def Field.Rejects (field : Field) (payload : Payload) : Prop :=
  ∃ v fault, lookup? field.key payload = some v ∧ field.read v = .error fault

lemma Field.faults_eq_nil_iff (field : Field) (payload : Payload) :
    field.faults payload = [] ↔ ¬ field.Rejects payload := by
  unfold Field.faults Field.reading? Field.Rejects
  cases lookup? field.key payload with
  | none => simp [faultOf?]
  | some v =>
    cases hread : field.read v with
    | ok a => simp [faultOf?, hread]
    | error fault => simp [faultOf?, hread]

lemma Field.mem_all (field : Field) : field ∈ Field.all := by
  cases field <;> decide

lemma allTexts?_eq_some_nil_iff (vs : List Value) : allTexts? vs = some [] ↔ vs = [] := by
  cases vs with
  | nil => simp [allTexts?]
  | cons v more => cases v <;> simp [allTexts?]

lemma keyFaults_eq_nil_iff (htexts : ∀ key ∈ payload.map Prod.fst, key.isText) :
    keyFaults payload = [] ↔ unknownKeys payload = [] := by
  rw [← allTexts?_eq_some_nil_iff]
  unfold keyFaults
  cases hkeys : allTexts? (unknownKeys payload) with
  | none =>
    obtain ⟨key, hkey, hodd⟩ := (allTexts?_unknownKeys_eq_none_iff payload).mp hkeys
    simp [htexts key hkey] at hodd
  | some keys => cases keys <;> simp

/-- There is nothing to report exactly if all keys are known and all values can be used. -/
lemma faults_eq_nil_iff (htexts : ∀ key ∈ payload.map Prod.fst, key.isText) :
    faults payload = [] ↔ unknownKeys payload = [] ∧ ∀ field : Field, ¬ field.Rejects payload := by
  unfold faults
  rw [List.append_eq_nil_iff, keyFaults_eq_nil_iff htexts, List.flatMap_eq_nil_iff]
  simp only [Field.faults_eq_nil_iff, Field.mem_all, true_implies]

/-- The settings that a mapping makes of others, field by field. -/
structure Settles (start : Settings) (payload : Payload) (s : Settings) : Prop where
  /-- A value that can be used decides its field. -/
  taken : ∀ (field : Field) (v : Value) (a : field.Content),
    lookup? field.key payload = some v → field.read v = .ok a → field.of s = a
  /-- A field whose value cannot be used stays as it was. -/
  rejected : ∀ field : Field, field.Rejects payload → field.of s = field.of start
  /-- A field without a key stays as it was. -/
  absent : ∀ field : Field, lookup? field.key payload = none → field.of s = field.of start

lemma settles_settled (start : Settings) (payload : Payload) :
    Settles start payload (settled start payload) where
  taken field v a hlookup hread := by
    rw [of_settled, Field.reading?, hlookup, Option.map_some, hread]
    rfl
  rejected field := by
    rintro ⟨v, fault, hlookup, hread⟩
    rw [of_settled, Field.reading?, hlookup, Option.map_some, hread]
    rfl
  absent field hlookup := by
    rw [of_settled, Field.reading?, hlookup]
    rfl

/-! ## The whole -/

/-- **Strict and lenient validation agree.** For a mapping whose keys are texts, lenient validation
has settings and says nothing but warnings. Strict validation says nothing at all; it has the same
settings if there are no warnings, and otherwise ends with the fault that the first warning is
about. There are no warnings exactly if all keys are known and no value is rejected, and a field
whose value is rejected stays as it was. -/
theorem apply_strict_lenient (start : Settings) {payload : Payload}
    (htexts : ∀ key ∈ payload.map Prod.fst, key.isText) :
    ∃ (settings : Settings) (warnings : List String),
      (apply false start payload).run
          = ⟨.ok settings, warnings.map fun text => .say ⟨.warning, .settings, text⟩⟩
        ∧ (warnings = [] → (apply true start payload).run = ⟨.ok settings, []⟩)
        ∧ (∀ first more, warnings = first :: more → ∃ fault,
            (apply true start payload).run = ⟨.error (.invalid fault), []⟩
              ∧ fault.message ++ "; continuing with defaults" = first)
        ∧ (warnings = []
            ↔ unknownKeys payload = [] ∧ ∀ field : Field, ¬ field.Rejects payload)
        ∧ Settles start payload settings := by
  refine ⟨settled start payload, (faults payload).map warning, ?_, ?_, ?_, ?_,
    settles_settled start payload⟩
  · rw [run_apply_lenient htexts, List.map_map]
    rfl
  · intro hnone
    rw [run_apply_strict htexts, List.map_eq_nil_iff.mp hnone]
    rfl
  · intro first more hfirst
    obtain ⟨fault, rest, hfaults, hmessage, -⟩ := List.map_eq_cons_iff.mp hfirst
    refine ⟨fault, ?_, hmessage⟩
    rw [run_apply_strict htexts, hfaults]
    rfl
  · rw [List.map_eq_nil_iff, faults_eq_nil_iff htexts]

/-- The keys of a JSON object are texts. -/
lemma isText_of_mem_ofMembers (members : List (String × Json)) :
    ∀ key ∈ (Value.ofMembers members).map Prod.fst, key.isText := by
  induction members with
  | nil => simp [Value.ofMembers]
  | cons member more ih => simpa [Value.ofMembers, Value.isText] using ih

/-- A mapping with a level that is none, an unknown key and a suffix among white space. -/
def loud : Payload :=
  Value.ofMembers
    [("log_level", .text "loud"), ("colour", .bool true), ("source_suffix", .text " .golang ")]

/-- Of an unknown key and an unknown level, strict validation ends with the key; lenient validation
leaves the level and takes the suffix. -/
theorem apply_strict_lenient_loud :
    (∀ key ∈ loud.map Prod.fst, key.isText)
      ∧ ∃ (settings : Settings) (first : String) (more : List String) (fault : SettingsFault),
        (apply false {} loud).run
            = ⟨.ok settings, (first :: more).map fun text => .say ⟨.warning, .settings, text⟩⟩
          ∧ (apply true {} loud).run = ⟨.error (.invalid fault), []⟩
          ∧ fault.message ++ "; continuing with defaults" = first
          ∧ settings.logLevel = "INFO" ∧ settings.sourceSuffix = ".golang" := by
  have htexts : ∀ key ∈ loud.map Prod.fst, key.isText := isText_of_mem_ofMembers _
  obtain ⟨settings, warnings, hlenient, -, hfirst, hnone, hsettles⟩ :=
    apply_strict_lenient {} htexts
  have hunknown : unknownKeys loud = [.text "colour"] := rfl
  cases warnings with
  | nil => simp [hunknown] at hnone
  | cons first more =>
    obtain ⟨fault, hstrict, hmessage⟩ := hfirst first more rfl
    exact ⟨htexts, settings, first, more, fault, hlenient, hstrict, hmessage,
      hsettles.rejected .logLevel ⟨.text "loud", .badLevel (.text "loud"), rfl, rfl⟩,
      hsettles.taken .sourceSuffix (.text " .golang ") ".golang" rfl rfl⟩

end InterfaceAtlas.Settings
