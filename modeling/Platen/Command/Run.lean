import Platen.Command.Files
import Platen.Command.Help
import Platen.Config
import Platen.Fill
import Platen.Script
import Platen.Text.Quoted
import Platen.Text.Search

/-!
# Running commands

One command writes an example job into a directory.  The other reads a configuration, a template
and data, and prints or writes the filled template.  Files are read in that order, and nothing is
written unless everything succeeds.
-/

namespace Platen.Command

/-- Why a command fails. -/
inductive Failure where
  | configuration
  | template
  | data
  | json (cause : Json.ReadError)
  /-- The template does not fit the page format. -/
  | unfit (cause : DocumentError)
  | fill (cause : FillError)
  | write (path : String) (cause : FileError)
  /-- The example job cannot be written. -/
  | sample (cause : FileError)
  deriving DecidableEq, Repr

namespace Failure

/-- What failed. -/
def context : Failure → String
  | configuration => "Failed to load config"
  | template => "Failed to read template file"
  | data => "Failed to read data file"
  | json _ => "Failed to parse JSON data"
  | unfit _ => "Template does not fit the page format"
  | fill _ => "Failed to fill template"
  | write path _ => "Failed to write " ++ Text.quoted path
  | sample cause => cause.message

/-- Why it failed, as far as that is told apart. -/
def cause? : Failure → Option String
  | unfit cause => some cause.message
  | fill cause => some cause.message
  | write _ cause => some cause.message
  | configuration | template | data | json _ | sample _ => none

end Failure

/-! ## The example job -/

/-- The files of the example job. -/
def exampleJob : List (String × String) := [
  ("job.yaml", textOfLines [
    "page_format:",
    "  page_length: 12",
    "  left_margin: 2",
    "  pitch: elite",
    "  auto_form_feed: true",
    "",
    "format:",
    "  currency_symbol: \"$\"",
    "  grouping_separator: \",\"",
    "  decimal_separator: \".\"",
    "",
    "device: escp",
    "",
    "header:",
    "  - \"%\x7bBOLD\x7dPayroll%\x7bBOLD\x7d                     Page %\x7bPAGE_NO\x7d\"",
    "  - \"\"",
    "footer:",
    "  - \"%\x7b45 R36\x7d\""]),
  ("template.txt", textOfLines [
    "Company: $\x7bcompany\x7d",
    "Period:  $\x7bperiod\x7d",
    "Total:   $\x7bemployees.gross:sum:currency:12:right\x7d",
    "Staff:   \x7b\x7b employees | length \x7d\x7d"]),
  ("data.json", textOfLines [
    "\x7b",
    "  \"company\": \"Acme\",",
    "  \"period\": \"2024-01\",",
    "  \"employees\": [",
    "    \x7b\"name\": \"emp1\", \"gross\": 50.0\x7d,",
    "    \x7b\"name\": \"emp2\", \"gross\": 1250.5\x7d",
    "  ]",
    "\x7d"])]

/-! ## Commands -/

/-- The report of a template, one line of the report for each line of the text. -/
def templateReport (config : Config) (template : String) : Except DocumentError Report :=
  let report : Report :=
    { format := config.pageFormat, header := config.header, footer := config.footer }
  match report.appendTexts (Text.lines template) with
  | (.ok (), report) => .ok report
  | (.error e, _) => .error e

/-- The text of a template filled with data. -/
def filledText (config : Config) (template : String) (source : Source) : Except Failure String := do
  let report ← (templateReport config template).mapError .unfit
  let job : Job :=
    { device := config.device
      resolver := { evaluate := Script.evaluator [], style := config.numberStyle } }
  (job.fill report [source]).mapError .fill

variable {m : Type → Type} [Monad m]

/-- A computation on files that may fail. -/
abbrev Running (m : Type → Type) (α : Type) := ExceptT Failure m α

/-- The result of a file operation, its error explained. -/
def attempt {α : Type} (explain : FileError → Failure) (action : m (Except FileError α)) :
    Running m α := do
  match ← (action : m (Except FileError α)) with
  | .ok a => return a
  | .error e => throw (explain e)

/-- Writes files one after the other. -/
def writeAll (files : FileStore m) (directory : String) : List (String × String) → Running m Unit
  | [] => return ()
  | (name, content) :: rest => do
    attempt .sample (files.write (directory ++ "/" ++ name) content)
    writeAll files directory rest

/-- Writes the example job into a directory. -/
def runInit (files : FileStore m) (path : String) : Running m String := do
  attempt .sample (files.makeDirectories path)
  writeAll files path exampleJob
  return ""

/-- Fills a template; what is not written to a file is returned. -/
def runFill (files : FileStore m) (paths : FillPaths) : Running m String := do
  let settings ← attempt (fun _ => .configuration) (files.read paths.config)
  let some config := Config.read? settings | throw .configuration
  let template ← attempt (fun _ => .template) (files.read paths.template)
  let data ← attempt (fun _ => .data) (files.read paths.data)
  let source ← liftM ((Source.ofJsonText data).mapError Failure.json)
  let text ← liftM (filledText config template source)
  match paths.output with
  | none => return text
  | some path =>
    attempt (.write path) (files.write path text)
    return ""

/-- Carries out a request; what is to be printed is returned. -/
def run (files : FileStore m) : Request → Running m String
  | .init path => runInit files path
  | .fill paths => runFill files paths
  | .help topic => return topic.text
  | .version => return versionLine

/-- How a call of the program ends. -/
inductive Outcome where
  | printed (text : String)
  | failed (failure : Failure)
  /-- The arguments make no request. -/
  | misused
  deriving DecidableEq, Repr

/-- The status that a call of the program ends with. -/
def Outcome.status : Outcome → Nat
  | printed _ => 0
  | failed _ => 1
  | misused => 2

/-- Carries out the request that arguments make. -/
def call (files : FileStore m) (args : List String) : m Outcome := do
  match Request.ofArguments? args with
  | none => return .misused
  | some request =>
    match ← (run files request).run with
    | .ok text => return .printed text
    | .error failure => return .failed failure

end Platen.Command
