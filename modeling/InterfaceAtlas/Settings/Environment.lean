import InterfaceAtlas.Settings.Payload

/-!
# Settings from the environment

Four variables of the environment have a say in the settings, and each of them has the last word on
its field.
-/

namespace InterfaceAtlas

/-- The variables of the environment that have a say. -/
structure Environment where
  /-- `GO_IFACE_EXCLUDE_DIRS`: excluded tokens with commas between them. -/
  excludeDirs : Option String := none
  /-- `GO_IFACE_SKIP_ERROR_FILES`: a flag. -/
  skipErrorFiles : Option String := none
  /-- `GO_IFACE_LOG_LEVEL`: the name of a level. -/
  logLevel : Option String := none
  /-- `STRICT_CONFIG_VALIDATION`: a flag. -/
  strict : Option String := none
deriving DecidableEq, Repr, Inhabited

namespace Environment

/-- Whether the text of a flag means yes. -/
def isYes (raw : String) : Bool :=
  ["1", "true", "yes", "on"].contains (Text.small (Text.strip raw))

/-- The value of a flag; one that is not set has the default. -/
def flag (raw : Option String) (default : Bool) : Bool :=
  match raw with
  | none => default
  | some text => isYes text

/-- Whether validation is strict. -/
def isStrict (env : Environment) (default : Bool) : Bool := flag env.strict default

/-- The level that the environment asks for. One that is no level is warned of. -/
def levelOr (env : Environment) (current : String) : Logged String :=
  match env.logLevel with
  | none => pure current
  | some raw =>
    if raw == "" then pure current
    else if Level.isName (Level.normalName raw) then pure (Level.normalName raw)
    else do
      Logged.say .warning .settings ("Ignoring unknown GO_IFACE_LOG_LEVEL=" ++ raw)
      return current

/-- The settings after the environment had its say. -/
def apply (env : Environment) (s : Settings) : Logged Settings := do
  let logLevel ← env.levelOr s.logLevel
  return { s with
    excludedTokens := (env.excludeDirs.map Settings.tokensOfText).getD s.excludedTokens
    skipFaulty := flag env.skipErrorFiles s.skipFaulty
    logLevel }

end Environment

end InterfaceAtlas
