import Platen.Command.Request

/-!
# Help

What is printed when help or the version is asked for.
-/

namespace Platen.Command

/-- The name and version of the program. -/
def versionLine : String := "lpfill 0.1.0\n"

/-- How each command is called. -/
def Topic.usage : Topic → String
  | program => "lpfill <COMMAND>"
  | init => "lpfill init [PATH]"
  | fill => "lpfill fill [OPTIONS] --config <CONFIG> --template <TEMPLATE> --data <DATA>"
  | help => "lpfill help [COMMAND]..."

/-- What each command does. -/
def Topic.summary : Topic → String
  | program =>
    "Pagination and template-fill engine producing text and device directives for impact printers."
  | init => "Write an example job into a directory"
  | fill => "Fill a template with JSON data"
  | help => "Print this message or the help of the given subcommand(s)"

/-- The lines about the arguments of a command. -/
def Topic.details : Topic → List String
  | program => [
    "Commands:",
    "  init  Write an example job into a directory",
    "  fill  Fill a template with JSON data",
    "  help  Print this message or the help of the given subcommand(s)",
    "",
    "Options:",
    "  -h, --help     Print help",
    "  -V, --version  Print version"]
  | init => [
    "Arguments:",
    "  [PATH]  Project directory [default: .]",
    "",
    "Options:",
    "  -h, --help  Print help"]
  | fill => [
    "Options:",
    "  -c, --config <CONFIG>      Path to the YAML job configuration",
    "  -t, --template <TEMPLATE>  Path to the template, one report line per line",
    "  -d, --data <DATA>          Path to the JSON data file",
    "  -o, --output <OUTPUT>      Output file, stdout when omitted",
    "  -h, --help                 Print help"]
  | help => [
    "Arguments:",
    "  [COMMAND]...  Print help for the subcommand(s)"]

/-- Lines of text, each with its end. -/
def textOfLines (lines : List String) : String :=
  String.join (lines.map (· ++ "\n"))

/-- The help about a topic. -/
def Topic.text (topic : Topic) : String :=
  textOfLines ([topic.summary, "", "Usage: " ++ topic.usage, ""] ++ topic.details)

end Platen.Command
