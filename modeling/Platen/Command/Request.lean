import Platen.Text.Segment

/-!
# Requests

What is asked for on the command line.  Options of a command may stand in any order, each at most
once, with a long name or a letter, and with the value in the same argument or in the next one.
Arguments are read from left to right; a request for help ends the reading.
-/

namespace Platen.Command

/-- What help can be asked about. -/
inductive Topic where
  | program
  | init
  | fill
  | help
  deriving DecidableEq, Repr

/-- The options of the command that fills a template. -/
inductive FillOption where
  | config
  | template
  | data
  | output
  deriving DecidableEq, Repr

/-- The option with a long name. -/
def FillOption.ofName? : String → Option FillOption
  | "config" => some .config
  | "template" => some .template
  | "data" => some .data
  | "output" => some .output
  | _ => none

/-- The option with a letter. -/
def FillOption.ofLetter? : Char → Option FillOption
  | 'c' => some .config
  | 't' => some .template
  | 'd' => some .data
  | 'o' => some .output
  | _ => none

/-- The files of a job. -/
structure FillPaths where
  config : String
  template : String
  data : String
  /-- Where the text goes; without it, to the standard output. -/
  output : Option String
  deriving DecidableEq, Repr

/-- What is asked for. -/
inductive Request where
  /-- Write an example job into a directory. -/
  | init (path : String)
  /-- Fill a template. -/
  | fill (paths : FillPaths)
  | help (topic : Topic)
  | version
  deriving DecidableEq, Repr

namespace Request

/-- The options given so far with their values. -/
abbrev Given := List (FillOption × String)

/-- One more option; it must not be given already, and its value must not be empty. -/
def addOption? (given : Given) (option : FillOption) (value : String) : Option Given :=
  if (given.lookup option).isSome || value.isEmpty then none else some ((option, value) :: given)

/-- Whether an argument can be the value of the option before it. -/
def isValue (arg : String) : Bool :=
  arg = "-" || !arg.startsWith "-"

/-- The request to fill a template, if its files are given. -/
def fillOf? (given : Given) : Option Request := do
  let config ← given.lookup .config
  let template ← given.lookup .template
  let data ← given.lookup .data
  some (.fill { config, template, data, output := given.lookup .output })

/-- A long option: its name, and its value if it is in the same argument. -/
def splitLong (cs : List Char) : String × Option String :=
  let (name, value) := Text.splitFirst '=' cs
  (String.ofList name, value.map String.ofList)

/-- The value after the letter of an option; an equals sign may stand between them. -/
def letterValue : List Char → String
  | '=' :: value => String.ofList value
  | value => String.ofList value

/-- What an argument says. -/
inductive Spoken where
  | help
  | option (option : FillOption) (value : Option String)
  /-- Nothing but values follows. -/
  | divider
  | other
  deriving DecidableEq, Repr

/-- What an argument of the command that fills a template says. -/
def spoken (arg : String) : Spoken :=
  match arg.toList with
  | ['-', '-'] => .divider
  | '-' :: '-' :: cs =>
    match splitLong cs with
    | ("help", none) => .help
    | (name, value) =>
      match FillOption.ofName? name with
      | some option => .option option value
      | none => .other
  | '-' :: 'h' :: _ => .help
  | '-' :: letter :: cs =>
    match FillOption.ofLetter? letter with
    | some option => .option option (if cs.isEmpty then none else some (letterValue cs))
    | none => .other
  | _ => .other

/-- The arguments of the command that fills a template. -/
def readFill? (given : Given) : List String → Option Request
  | [] => fillOf? given
  | arg :: rest =>
    match spoken arg with
    | .help => some (.help .fill)
    | .divider => if rest.isEmpty then fillOf? given else none
    | .other => none
    | .option option (some value) =>
      match addOption? given option value with
      | some given => readFill? given rest
      | none => none
    | .option option none =>
      match rest with
      | [] => none
      | value :: rest =>
        if isValue value then
          match addOption? given option value with
          | some given => readFill? given rest
          | none => none
        else none

/-- The only value among arguments after a divider. -/
def readLast? (path : Option String) : List String → Option Request
  | [] => some (.init (path.getD "."))
  | [arg] => if path.isSome || arg.isEmpty then none else some (.init arg)
  | _ => none

/-- The arguments of the command that writes an example job. -/
def readInit? (path : Option String) : List String → Option Request
  | [] => some (.init (path.getD "."))
  | arg :: rest =>
    match spoken arg with
    | .help => some (.help .init)
    | .divider => readLast? path rest
    | .option .. => none
    | .other =>
      if path.isSome || arg.isEmpty || !isValue arg then none else readInit? (some arg) rest

/-- The topic that help is asked about by a command of its own. -/
def readHelp? : List String → Option Request
  | [] => some (.help .program)
  | ["init"] => some (.help .init)
  | ["fill"] => some (.help .fill)
  | ["help"] => some (.help .help)
  | _ => none

/-- The request that arguments make, if they make one. -/
def ofArguments? : List String → Option Request
  | [] => none
  | "init" :: rest => readInit? none rest
  | "fill" :: rest => readFill? [] rest
  | "help" :: rest => readHelp? rest
  | arg :: _ =>
    match arg.toList with
    | ['-', '-', 'h', 'e', 'l', 'p'] => some (.help .program)
    | ['-', '-', 'v', 'e', 'r', 's', 'i', 'o', 'n'] => some .version
    | '-' :: 'h' :: _ => some (.help .program)
    | '-' :: 'V' :: _ => some .version
    | _ => none

end Request

end Platen.Command
