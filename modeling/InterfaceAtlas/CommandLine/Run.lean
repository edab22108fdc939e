import InterfaceAtlas.CommandLine.Request
import InterfaceAtlas.Journal.Console
import InterfaceAtlas.Settings.Load

/-!
# Running a command line

A run reads its command line, loads the settings and answers the query. Its answer is one line of
JSON; everything else it has to say are diagnostics. Only a run that prints its answer, or one that
was asked for help, ends with status zero: where the output does not take all characters, an answer
may fail to be printed.

Settings are loaded before diagnostics are configured, so what is said of them comes as bare
messages.
-/

namespace InterfaceAtlas.CommandLine

/-- What cuts a run off. -/
inductive Breakdown where
  | settings (error : SettingsError)
  /-- An argument has no value. -/
  | argumentWithoutValue
  /-- The output does not take the answer. -/
  | unprintable
deriving Inhabited

/-- How a run ends. -/
inductive Outcome where
  /-- Help was asked for. -/
  | help
  /-- The command line is no request. -/
  | misuse (error : UsageError)
  /-- The query has an answer. -/
  | answer (payload : Json)
  /-- The settings are invalid or the query has no answer. -/
  | failure
  /-- The run is cut off. -/
  | breakdown (cause : Breakdown)
deriving Inhabited

namespace Outcome

/-- The exit status. -/
def status : Outcome → Nat
  | help | answer _ => 0
  | failure | breakdown _ => 1
  | misuse _ => 2

/-- What is printed as the answer. -/
def output : Outcome → String
  | answer payload => payload.encode ++ "\n"
  | _ => ""

/-- What becomes of an outcome when its answer is printed to an output that takes some texts. Of a
text that it does not take, nothing is printed. -/
def printed (takes : String → Bool) : Outcome → Outcome
  | answer payload => if takes payload.encode then answer payload else breakdown .unprintable
  | outcome => outcome

end Outcome

/-- A run: how it ends, and its lines of diagnostics. -/
structure Run where
  outcome : Outcome
  diagnostics : List String := []
deriving Inhabited

/-- What surrounds a run. -/
structure Surroundings where
  files : FileSystem
  environment : Environment := {}
  /-- How source files are parsed. -/
  parser : Parser
  /-- How the file of settings is loaded. -/
  loader : Loader
  /-- Whether the output takes a text: the characters that it can encode may be few. -/
  takes : String → Bool
  /-- The time shown in diagnostics. -/
  time : String
  /-- The name of the query in diagnostics. -/
  query : String

/-- Says something on behalf of the command line. -/
def say (level : Level) (message : String) : Logged Unit := Logged.say level .commandLine message

/-- What is said of a query without an answer. -/
def faultMessage (c : Command) : CommandFault → String
  | .query (.blank label) =>
    "Invalid arguments for " ++ c.verb ++ ": " ++ (QueryFault.blank label).message
  | .query (.unusable fault) => "Analysis failed: " ++ fault.message
  | .unknownVerb _ | .wrongCount _ => "Analysis failed"

namespace Request

/-- The settings in force for a request. -/
def settings (r : Request) (s : Surroundings) : Logged (Except SettingsError Settings) :=
  (Settings.load s.loader s.files s.environment r.options.config
    (if r.options.strict then some true else none)).run

/-- Answers a request under some settings, in a phase named for its verb. -/
def answer (r : Request) (arguments : List String) (parser : Parser) (fs : FileSystem)
    (settings : Settings) : Logged Outcome := do
  say .info ("Running " ++ r.command.verb ++ " " ++ " ".intercalate arguments)
  let result ← Logged.inPhase r.command.verb
    (Command.run parser fs settings r.command.verb (arguments.map .text))
  match result with
  | .ok payload => return .answer payload
  | .error fault => do
    say .error (faultMessage r.command fault)
    return .failure

/-- The console of a request under some settings. The command line has the last word on the
level. -/
def console (r : Request) (query : String) (settings : Settings) : Console :=
  let level := r.options.logLevel.getD settings.logLevel
  { (({} : Console).configure? (.text level)).getD {} with query }

/-- The console that reports invalid settings. -/
def faultConsole : Console := (({} : Console).configure? (.int Level.error.rank)).getD {}

/-- Runs a request. -/
def run (r : Request) (s : Surroundings) : Run :=
  let loaded := r.settings s
  let early := ({} : Console).writeAll s.time loaded.events
  match loaded.value with
  | .error (.invalid fault) =>
    let report := say .error ("Invalid configuration: " ++ fault.message)
    ⟨.failure, early ++ faultConsole.writeAll s.time report.events⟩
  | .error error => ⟨.breakdown (.settings error), early⟩
  | .ok settings =>
    match r.arguments.mapM id with
    | none => ⟨.breakdown .argumentWithoutValue, early⟩
    | some arguments =>
      let answered := r.answer arguments s.parser s.files settings
      ⟨answered.value.printed s.takes,
        early ++ (r.console s.query settings).writeAll s.time answered.events⟩

end Request

/-- Runs a command line. -/
def run (s : Surroundings) (arguments : List String) : Run :=
  match Request.read arguments with
  | .error .help => ⟨.help, []⟩
  | .error (.misuse error) => ⟨.misuse error, [error.line]⟩
  | .ok request => request.run s

end InterfaceAtlas.CommandLine
