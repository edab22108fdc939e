import InterfaceAtlas.Files.FileSystem
import InterfaceAtlas.Settings.Environment
import InterfaceAtlas.Settings.Loader

/-!
# Loading settings

Settings start from their defaults; then a file has its say, if one is named, and then the
environment.
-/

namespace InterfaceAtlas.Settings

/-- The mapping that a value is. Nothing counts as a mapping without entries. -/
def mappingOf (strict : Bool) : Value → Checked Payload
  | .null => pure []
  | .map entries => pure entries
  | v => do
    failOrWarn strict (.notMapping v.kindName)
    return []

/-- The mapping that a file holds, by what a loader made of it. -/
def loadedMapping (strict : Bool) (path : String) : Except LoadFault Value → Checked Payload
  | .ok v => mappingOf strict v
  | .error (.malformed reason) => do
    failOrWarn strict (.fileUnreadable path reason)
    return []
  | .error .notText => throw .fileNotText
  | .error (.badValue fault) => throw (.badValue fault)

/-- The mapping that a file holds. -/
def loadFile (loader : Loader) (fs : FileSystem) (path : String) (strict : Bool) :
    Checked Payload :=
  match fs.read path with
  | .error .unusable => throw .unusablePath
  | .error (.refused .missing) => do
    failOrWarn strict (.fileMissing path)
    return []
  | .error (.refused reason) => do
    failOrWarn strict (.fileUnreadable path (reason.message path))
    return []
  | .ok content => loadedMapping strict path (loader.load (Text.Utf8.stream content))

/-- The settings after a file; without a name there is none. -/
def applyFile (loader : Loader) (fs : FileSystem) (path : Option String) (strict : Bool) :
    Checked Settings :=
  match path with
  | none => pure {}
  | some p => if p == "" then pure {} else do apply strict {} (← loadFile loader fs p strict)

/-- The settings in force. Validation is strict if it is asked for, or else if the environment says
so. -/
def load (loader : Loader) (fs : FileSystem) (env : Environment) (path : Option String)
    (strict : Option Bool) : Checked Settings := do
  let fromFile ← applyFile loader fs path (strict.getD (env.isStrict false))
  let settings ← ExceptT.lift (env.apply fromFile)
  say .debug ("Resolved analyzer config: " ++ settings.display)
  return settings

end InterfaceAtlas.Settings
