import SupplyRisk.CommandLine.Invocation

/-!
# Help on the command line

What is shown to somebody who asks for help or the version, or whose command line is refused.
-/

namespace SupplyRisk.CommandLine

def programName : String := "chainrisk"

def versionText : String := programName ++ " 0.3.0\n"

/-- The commands, each with what it does. -/
def commandHelp : List (String × String) :=
  [("assess", "Assess suppliers and parts and reconcile their alerts"),
    ("export", "Write assessed risk records as table, JSON or CSV"),
    ("import", "Apply supplier alert thresholds and part low-stock thresholds"),
    ("alerts", "List open alerts, or resolve one"),
    ("resolve-event", "Mark a risk event resolved"),
    ("review-recommendation", "Mark a supplier recommendation reviewed"),
    ("init", "Initialize a configuration file")]

/-- The options that every command takes, each with what it does. -/
def optionHelp : List (String × String) :=
  [("--config <PATH>", "Configuration file, by default the nearest one"),
    ("--data <PATH>", "Data file, by default " ++ standardData.text),
    ("-v, --verbose", "Log more; may be repeated"),
    ("-q, --quiet", "Show no progress"),
    ("-h, --help", "Show this help"),
    ("-V, --version", "Show the version")]

/-- One entry, with its explanation in a column of its own. -/
def helpLine (entry : String × String) : String :=
  "  " ++ String.ofList (entry.1.toList ++ List.replicate (24 - entry.1.length) ' ') ++ entry.2 ++ "\n"

def helpText : String :=
  "Usage: " ++ programName ++ " [OPTIONS] <COMMAND>\n\nCommands:\n"
    ++ String.join (commandHelp.map helpLine) ++ "\nOptions:\n"
    ++ String.join (optionHelp.map helpLine)

/-- What is wrong with a command line. -/
def UsageError.message : UsageError → String
  | unknownArgument => "unknown argument"
  | unknownCommand => "unknown command"
  | missingCommand | empty => "a command is required"
  | missingArgument => "a required argument is missing"
  | conflict => "an option is repeated or excludes another one"
  | unexpectedValue => "an option that takes no value has one"
  | invalidValue => "a value is missing or not allowed"
  | malformedValue => "a value is malformed"
  | help => "help"
  | version => "version"

end SupplyRisk.CommandLine
