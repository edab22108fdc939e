import InterfaceAtlas.Journal.Logged
import InterfaceAtlas.Settings.Basic

/-!
# Faults of settings

Settings that cannot be used are a fault where validation is strict; otherwise they are the subject
of a warning, and what was in force before stays in force. A few faults are never forgiven.
-/

namespace InterfaceAtlas

/-- What can be wrong with settings. -/
inductive SettingsFault where
  | fileMissing (path : String)
  | fileUnreadable (path cause : String)
  | notMapping (kind : String)
  | unknownKeys (keys : List String)
  | badTokens
  | badSuffix (key : String)
  | badFlag
  | badLevel (value : Value)
deriving Inhabited

namespace SettingsFault

/-- What is said of a fault. -/
def message : SettingsFault → String
  | fileMissing path => "Analyzer config file not found: " ++ path
  | fileUnreadable path cause => "Failed to read analyzer config at " ++ path ++ ": " ++ cause
  | notMapping kind => "Unexpected analyzer config payload type: " ++ kind
  | unknownKeys keys => "Unknown analyzer config keys: " ++ ", ".intercalate keys
  | badTokens => "excluded_dir_tokens must be a list or a string"
  | badSuffix key => key ++ " must be a non-empty string"
  | badFlag => "skip_files_with_errors must be a boolean"
  | badLevel value => "Unknown log_level: " ++ value.display

end SettingsFault

/-- Why there are no settings. -/
inductive SettingsError where
  /-- A fault, where validation is strict. -/
  | invalid (fault : SettingsFault)
  /-- An unknown key is no text. -/
  | keyNotText
  /-- The file is no text, as far as it was read. -/
  | fileNotText
  /-- What is written in the file as a value is none. -/
  | badValue (fault : ValueFault)
  /-- The name of the file is no path. -/
  | unusablePath
deriving Inhabited

namespace Settings

/-- A computation of settings. -/
abbrev Checked (α : Type) := ExceptT SettingsError Logged α

/-- Says something on behalf of the settings. -/
def say (level : Level) (message : String) : Checked Unit :=
  ExceptT.lift (Logged.say level .settings message)

/-- A fault ends the computation where validation is strict, and is warned of otherwise. -/
def failOrWarn (strict : Bool) (fault : SettingsFault) : Checked Unit :=
  if strict then throw (.invalid fault)
  else say .warning (fault.message ++ "; continuing with defaults")

end Settings

end InterfaceAtlas
