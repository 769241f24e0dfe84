import Armory.Command

/-! Command lines. Arguments are read from left to right: words choose a command and then its subcommand or its
path, arguments that begin with a dash are options, and two dashes end the options. A request for help counts as
soon as it is read. -/
namespace Armory.Command

/-- What a command line asks for. -/
inductive Asked where
  | run (c : Command)
  | help
  /-- Nothing that there is. -/
  | refused
  deriving DecidableEq, Repr

/-- How far a command line has been read. -/
inductive Stage where
  /-- Before any command. -/
  | start
  /-- Among the commands on exports. -/
  | manifest
  /-- In a command to which no more words belong. -/
  | whole (c : Command)
  /-- In the import of an export without its path. -/
  | path
  deriving DecidableEq, Repr

namespace Stage

/-- The stage after a word. -/
def word? : Stage → String → Option Stage
  | start, "migrate" => some (whole .migrate)
  | start, "config" => some (whole .config)
  | start, "doctor" => some (whole (.doctor false))
  | start, "manifest" => some manifest
  | manifest, "import" => some path
  | path, s => if s.isEmpty then none else some (whole (.importManifest s))
  | _, _ => none

/-- The stage after an option. -/
def option? : Stage → String → Option Stage
  | whole (.doctor false), "--json" => some (whole (.doctor true))
  | _, _ => none

/-- What has been asked for if the command line ends at a stage. -/
def asked : Stage → Asked
  | whole c => .run c
  | _ => .refused

/-- Whether help can be asked for by a word. -/
def hasHelp : Stage → Bool
  | start | manifest => true
  | _ => false

end Stage

/-- Whether an argument is an option: it begins with a dash, and is more than a dash. -/
def isOption (s : String) : Bool :=
  match s.toList with
  | '-' :: _ :: _ => true
  | _ => false

/-- Whether an option asks for help, alone or as the first of several letters. -/
def asksForHelp (s : String) : Bool :=
  s == "--help" || (match s.toList with
    | '-' :: 'h' :: _ => true
    | _ => false)

/-- What words after a request for help ask for: the names of a command and its subcommand. -/
def helpOn (stage : Stage) : List String → Asked
  | [] => .help
  | "help" :: rest => if stage.hasHelp && rest.isEmpty then .help else .refused
  | name :: rest => match stage, stage.word? name with
    | .path, _ => .refused
    | _, some stage => helpOn stage rest
    | _, none => .refused

/-- What arguments ask for from a stage on; the flag says whether options may still come. -/
def read (stage : Stage) : Bool → List String → Asked
  | _, [] => stage.asked
  | true, arg :: rest =>
    if arg == "--" then read stage false rest
    else if asksForHelp arg then .help
    else if isOption arg then match stage.option? arg with
      | some stage => read stage true rest
      | none => .refused
    else if arg == "help" && stage.hasHelp then helpOn stage rest
    else match stage.word? arg with
      | some stage => read stage true rest
      | none => .refused
  | false, arg :: rest => match stage with
    | .start | .manifest => .refused
    | stage => match stage.word? arg with
      | some stage => read stage false rest
      | none => .refused

/-- How the commands are called. -/
def usage : String :=
  "Usage: warmind <COMMAND>\n\nCommands:\n" ++
  "  migrate                 Apply pending database migrations\n" ++
  "  config                  Show the effective settings and where they come from\n" ++
  "  doctor [--json]         Check whether the service could start\n" ++
  "  manifest import <PATH>  Import item definitions from a JSON array\n" ++
  "  help                    Print this message"

/-- What a command line asks for. -/
def ofArguments (args : List String) : Asked := read .start true args

end Armory.Command
