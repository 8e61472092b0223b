/-! What a command line asks for. -/
namespace ResumableScript.CommandLine

structure RunOptions where
  file : String
  workerKey : String := "cli"
  inProcess : Bool := false
  history : Bool := false
  deriving DecidableEq, Repr

inductive Command where
  | run (options : RunOptions)
  | preamble
  | config
  deriving DecidableEq, Repr

structure Options where
  configFile : Option String
  command : Command
  deriving DecidableEq, Repr

/-- Why no command is carried out. -/
inductive Detour where
  | help (text : String)
  | misused
  deriving DecidableEq, Repr

def lines (texts : List String) : String := String.join (texts.map (· ++ "\n"))

def helpText : String :=
  lines ["Resumable sandboxed script execution",
    "",
    "Usage: rlm-cli [OPTIONS] <COMMAND>",
    "",
    "Commands:",
    "  run       Run a script file",
    "  preamble  Print the preamble for the demo tools",
    "  config    Print the effective configuration",
    "  help      Print this message or the help of the given subcommand(s)",
    "",
    "Options:",
    "  -c, --config <CONFIG>  JSON configuration file",
    "  -h, --help             Print help"]

def runHelpText : String :=
  lines ["Run a script file",
    "",
    "Usage: rlm-cli run [OPTIONS] <FILE>",
    "",
    "Arguments:",
    "  <FILE>  Script to execute",
    "",
    "Options:",
    "      --worker-key <WORKER_KEY>  Worker key selecting the worker process [default: cli]",
    "      --in-process               Interpret in this process instead of a worker",
    "      --history                  Print history records to stderr",
    "  -h, --help                     Print help"]

def plainHelpText (command about : String) : String :=
  lines [about, "", s!"Usage: rlm-cli {command}", "", "Options:", "  -h, --help  Print help"]

def helpHelpText : String :=
  lines ["Print this message or the help of the given subcommand(s)",
    "",
    "Usage: rlm-cli help [COMMAND]...",
    "",
    "Arguments:",
    "  [COMMAND]...  Print help for the subcommand(s)"]

def commandHelp? : String → Option String
  | "run" => some runHelpText
  | "preamble" => some (plainHelpText "preamble" "Print the preamble for the demo tools")
  | "config" => some (plainHelpText "config" "Print the effective configuration")
  | _ => none

def isOption (arg : String) : Bool := arg.startsWith "-" && arg != "-"

def isHelp (arg : String) : Bool := arg == "--help" || arg.startsWith "-h"

def behind? (start text : String) : Option String :=
  if text.startsWith start then some (String.ofList (text.toList.drop start.length)) else none

structure RunArguments where
  file : Option String := none
  workerKey : Option String := none
  inProcess : Bool := false
  history : Bool := false

namespace RunArguments

/-- Takes the file, which is given once and has a name. -/
def withFile (seen : RunArguments) (file : String) : Except Detour RunArguments :=
  if seen.file.isSome || file.isEmpty then .error .misused
  else .ok { seen with file := some file }

def withKey (seen : RunArguments) (key : String) : Except Detour RunArguments :=
  if seen.workerKey.isSome then .error .misused else .ok { seen with workerKey := some key }

def withFlag (seen : RunArguments) (arg : String) : Except Detour RunArguments :=
  match behind? "--worker-key=" arg with
  | some key => seen.withKey key
  | none =>
    if isHelp arg then .error (.help runHelpText)
    else if arg == "--in-process" && !seen.inProcess then .ok { seen with inProcess := true }
    else if arg == "--history" && !seen.history then .ok { seen with history := true }
    else .error .misused

def options (seen : RunArguments) : Except Detour RunOptions :=
  match seen.file with
  | none => .error .misused
  | some file =>
    .ok { file, workerKey := seen.workerKey.getD "cli", inProcess := seen.inProcess,
          history := seen.history }

/-- Reads the arguments of `run`; behind two hyphens all are files. -/
def read (seen : RunArguments) : List String → Except Detour RunOptions
  | [] => seen.options
  | "--" :: files => do (← files.foldlM withFile seen).options
  | "--worker-key" :: key :: rest =>
    if isOption key then .error .misused
    else do (← seen.withKey key).read rest
  | arg :: rest => do
    if isOption arg then (← seen.withFlag arg).read rest
    else (← seen.withFile arg).read rest

end RunArguments

def parseCommand (name : String) (args : List String) : Except Detour Command :=
  match name, args with
  | "run", args => do return .run (← RunArguments.read {} args)
  | "preamble", [] | "preamble", ["--"] => .ok .preamble
  | "config", [] | "config", ["--"] => .ok .config
  | "help", [] => .error (.help helpText)
  | "help", ["help"] => .error (.help helpHelpText)
  | "help", [command] => .error (((commandHelp? command).map Detour.help).getD .misused)
  | name, arg :: _ =>
    match commandHelp? name with
    | some text => .error (if isHelp arg then .help text else .misused)
    | none => .error .misused
  | _, [] => .error .misused

def withConfig (seen : Option String) (file : String) : Except Detour (Option String) :=
  if seen.isSome || file.isEmpty then .error .misused else .ok (some file)

/-- The file that an option has right behind it, maybe after an equals sign. -/
def attachedFile? (arg : String) : Option String :=
  match behind? "--config=" arg with
  | some file => some file
  | none => (behind? "-c" arg).map fun text => (behind? "=" text).getD text

/-- Reads a command line behind the options before the command. A file that stands by itself is
looked at with the next option, and by a command behind its own arguments. -/
def parseFrom (configFile : Except Detour (Option String)) : List String → Except Detour Options
  | [] => .error .misused
  | "-c" :: file :: rest | "--config" :: file :: rest => do
    let seen ← configFile
    if isOption file then .error .misused else parseFrom (withConfig seen file) rest
  | arg :: rest =>
    match attachedFile? arg with
    | some file => do
      let seen ← withConfig (← configFile) file
      parseFrom (.ok seen) rest
    | none =>
      if isOption arg then do
        let _ ← configFile
        .error (if isHelp arg then .help helpText else .misused)
      else do
        let command ← parseCommand arg rest
        return ⟨← configFile, command⟩

def parse (args : List String) : Except Detour Options := parseFrom (.ok none) args

end ResumableScript.CommandLine
