import InterfaceAtlas.CommandLine.Request

/-!
# Help

The text that is printed for those who ask for help.
-/

namespace InterfaceAtlas.CommandLine

/-- The options with what they are for. -/
def optionHelp : List (String × String) :=
  [("-h, --help", "Show this text."),
    ("--config FILE", "Optional YAML file with analyzer settings."),
    ("--log-level LEVEL", "Log level for stderr diagnostics. Default: from config (INFO)."),
    ("--strict-config",
      "Fail on invalid configuration instead of falling back to defaults.")]

/-- A command with its arguments, in the order in which they are written. -/
def commandUsage (c : Command) : String := " ".intercalate (c.verb :: c.arguments)

/-- A line of help on one item. -/
def helpLine (item help : String) : String := "  " ++ item ++ "\n      " ++ help

/-- The line that shows how the program is called. -/
def usageLine : String :=
  "usage: " ++ programName
    ++ " [-h] [--config FILE] [--log-level LEVEL] [--strict-config] command ..."

/-- The help on the whole program. -/
def helpText : String :=
  "\n".intercalate
    ([usageLine, "", "Navigate between Go interfaces and their implementations", "", "commands:"]
      ++ Command.all.map (fun c => helpLine (commandUsage c) c.help)
      ++ ["", "options:"] ++ optionHelp.map fun (item, help) => helpLine item help)

end InterfaceAtlas.CommandLine
