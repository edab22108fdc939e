import InterfaceAtlas.Settings.Fault

/-!
# Settings from a mapping

Each key of a mapping decides one field. A field without a key, or with a value that cannot be used,
stays as it was.
-/

namespace InterfaceAtlas.Settings

/-- A mapping from keys to values. -/
abbrev Payload := List (Value × Value)

/-- The keys that decide a field. -/
def knownKeys : List String :=
  ["excluded_dir_tokens", "source_suffix", "test_suffix", "skip_files_with_errors", "log_level"]

/-- The value of a key. -/
def lookup? (key : String) : Payload → Option Value
  | [] => none
  | (.text k, v) :: more => if k == key then some v else lookup? key more
  | _ :: more => lookup? key more

/-! ## Tokens -/

/-- The texts without the white space around them, and without those that are blank. -/
def cleaned (items : List (List Char)) : List String :=
  (items.map Text.trim).filterMap fun cs => if cs.isEmpty then none else some (String.ofList cs)

/-- The tokens of a text with commas between them. -/
def tokensOfText (s : String) : List String := cleaned (Text.splitAt ',' s.toList)

/-- The tokens that a value lists; none if it is neither a text nor a list. -/
def splitTokens? : Value → Option (List String)
  | .text s => some (tokensOfText s)
  | .list items => some (cleaned (items.map fun v => v.display.toList))
  | .pair a b => some (cleaned ([a, b].map fun v => v.display.toList))
  | _ => none

/-! ## Fields -/

/-- Keys that decide no field, in order. -/
def unknownKeys (payload : Payload) : List Value :=
  payload.filterMap fun (key, _) =>
    match key with
    | .text k => if knownKeys.contains k then none else some key
    | _ => some key

/-- The texts among some values, if they are all texts. -/
def allTexts? : List Value → Option (List String)
  | [] => some []
  | .text s :: more => (allTexts? more).map (s :: ·)
  | _ :: _ => none

/-- Unknown keys are a fault, and one that is no text ends everything. -/
def checkKeys (strict : Bool) (payload : Payload) : Checked Unit :=
  match allTexts? (unknownKeys payload) with
  | none => throw .keyNotText
  | some [] => pure ()
  | some keys => failOrWarn strict (.unknownKeys (keys.mergeSort fun a b => decide (a ≤ b)))

/-- A value without the white space around it; empty if it does not count as given. -/
def givenText (v : Value) : String := if v.isGiven then Text.strip v.display else ""

/-- A field is decided by its key, if the key is there and `read` can use its value. -/
def decide? {α : Type} (strict : Bool) (payload : Payload) (key : String) (current : α)
    (read : Value → Except SettingsFault α) : Checked α :=
  match lookup? key payload with
  | none => pure current
  | some v =>
    match read v with
    | .ok a => pure a
    | .error fault => do
      failOrWarn strict fault
      return current

/-- Tokens from a text or a list. -/
def readTokens (v : Value) : Except SettingsFault (List String) :=
  match splitTokens? v with
  | some tokens => .ok tokens
  | none => .error .badTokens

/-- A suffix from anything that has a text. -/
def readSuffix (key : String) (v : Value) : Except SettingsFault String :=
  if givenText v == "" then .error (.badSuffix key) else .ok (givenText v)

/-- A flag from a truth value alone. -/
def readFlag : Value → Except SettingsFault Bool
  | .bool b => .ok b
  | _ => .error .badFlag

/-- The name of a level, in any case. -/
def readLevel (v : Value) : Except SettingsFault String :=
  let name := Text.capitals (givenText v)
  if Level.isName name then .ok name else .error (.badLevel v)

/-- The settings after a mapping. -/
def apply (strict : Bool) (start : Settings) (payload : Payload) : Checked Settings := do
  checkKeys strict payload
  let excludedTokens ←
    decide? strict payload "excluded_dir_tokens" start.excludedTokens readTokens
  let sourceSuffix ←
    decide? strict payload "source_suffix" start.sourceSuffix (readSuffix "source_suffix")
  let testSuffix ← decide? strict payload "test_suffix" start.testSuffix (readSuffix "test_suffix")
  let skipFaulty ← decide? strict payload "skip_files_with_errors" start.skipFaulty readFlag
  let logLevel ← decide? strict payload "log_level" start.logLevel readLevel
  return { excludedTokens, sourceSuffix, testSuffix, skipFaulty, logLevel }

end InterfaceAtlas.Settings
