/-!
# The command line's grammar and help

The program `stream-dispatcher` has two commands, `serve` and `dispatch-once`, and a `help`
command that prints the help of the command it names. Both working commands take long options
with one value each; every command takes `-h`/`--help` and `-V`/`--version`.

Help reads: the command's description, its usage line, its commands, its positional
arguments, and its options. An option's line shows its long name and value, its description,
its environment variable (with the value hidden for secrets) and its default. Options are
aligned in a column after the longest one, unless some description would not fit beside it on
a line of 100 characters and the column takes more than 40 of them: then every description
goes on a line of its own, indented by ten.
-/

namespace StreamDispatch.Cli

/-- How an option's value is read. -/
inductive ValueKind where
  /-- a file path, which must not be empty -/
  | path
  /-- any text -/
  | text
  /-- a port number, 0 to 65535 -/
  | port
  /-- a count of seconds, below 2^64 -/
  | count
  /-- a positive count of seconds, below 2^64 -/
  | positive
  deriving Repr, DecidableEq

/-- What an option does. -/
inductive Action where
  | help
  | version
  /-- takes one value, shown as `valueName` -/
  | set (valueName : String) (kind : ValueKind)
  deriving Repr, DecidableEq

/-- A command-line option. -/
structure Opt where
  long : String
  short : Option Char := none
  action : Action
  about : String
  /-- the environment variable shown in help -/
  env : Option String := none
  /-- whether help hides the variable's value -/
  hideEnvValue : Bool := false
  default : Option Nat := none
  deriving Repr, DecidableEq

namespace Opt

/-- How messages name an option: `--long <VALUE>` for one that takes a value. -/
def spec (o : Opt) : String :=
  match o.action with
  | .set name _ => "--" ++ o.long ++ " <" ++ name ++ ">"
  | _ => "--" ++ o.long

/-- The head of the option's help line: the short name or four blanks, then `spec`. -/
def head (o : Opt) : String :=
  (match o.short with
   | some c => "-" ++ c.toString ++ ", "
   | none => "    ") ++ o.spec

/-- The notes after the description: the environment variable and the default. -/
def notes (o : Opt) : List String :=
  let env := match o.env with
    | some v => ["[env: " ++ v ++ (if o.hideEnvValue then "" else "=") ++ "]"]
    | none => []
  let dflt := match o.default with
    | some d => ["[default: " ++ toString d ++ "]"]
    | none => []
  env ++ dflt

/-- The description with its notes. -/
def helpText (o : Opt) : String := " ".intercalate (o.about :: o.notes)

end Opt

/-- A command: its name, how its version is announced, its description, its usage line, its
positional arguments with their descriptions, and its options. -/
structure Command where
  name : String
  displayName : String
  about : String
  /-- how usage lines call the command -/
  path : String
  usage : String
  /-- whether a command must follow the command's options -/
  takesCommand : Bool := false
  arguments : List (String × String) := []
  options : List Opt
  deriving Repr, DecidableEq

/-- The program's version. -/
def version : String := "0.1.0"

/-- The `--help` option. -/
def helpOpt : Opt := ⟨"help", some 'h', .help, "Print help", none, false, none⟩

/-- The `--version` option. -/
def versionOpt : Opt := ⟨"version", some 'V', .version, "Print version", none, false, none⟩

/-- A long option with a value, its environment variable, and its default. -/
def valued (long valueName : String) (kind : ValueKind) (about env : String)
    (default : Option Nat) : Opt :=
  ⟨long, none, .set valueName kind, about, some env, false, default⟩

/-- A long option whose value is a secret: help hides its environment variable's value. -/
def secret (long valueName about env : String) : Opt :=
  ⟨long, none, .set valueName .text, about, some env, true, none⟩

namespace Options

/-! The options, in the order help lists them. -/

def seed : Opt := valued "seed" "SEED" .path
  "JSON file with the courses, lecture halls, streams and workers to load" "DISPATCHER_SEED" none
def workerPort : Opt := valued "worker-port" "WORKER_PORT" .port
  "Port workers serve their ToWorker service on" "DISPATCHER_WORKER_PORT" (some 50051)
def dialTimeout : Opt := valued "dial-timeout-secs" "DIAL_TIMEOUT_SECS" .positive
  "Seconds to wait for a worker connection before giving up" "DISPATCHER_DIAL_TIMEOUT" (some 5)
def streamLead : Opt := valued "stream-lead-secs" "STREAM_LEAD_SECS" .count
  "Seconds before its start a lecture stream becomes due" "DISPATCHER_STREAM_LEAD" (some 600)
def streamWindow : Opt := valued "stream-window-secs" "STREAM_WINDOW_SECS" .count
  "Seconds a lecture stream stays due once its lead time is reached" "DISPATCHER_STREAM_WINDOW"
  (some 120)
def premiereLead : Opt := valued "premiere-lead-secs" "PREMIERE_LEAD_SECS" .count
  "Seconds before its start a premiere becomes due" "DISPATCHER_PREMIERE_LEAD" (some 60)
def aliveThreshold : Opt := valued "alive-threshold-secs" "ALIVE_THRESHOLD_SECS" .count
  "Workers silent for longer than this many seconds are considered dead"
  "DISPATCHER_ALIVE_THRESHOLD" (some 300)
def pwrctrlUser : Opt := valued "pwrctrl-user" "PWRCTRL_USER" .text
  "Username for the lecture hall power strips" "DISPATCHER_PWRCTRL_USER" none
def pwrctrlPassword : Opt := secret "pwrctrl-password" "PWRCTRL_PASSWORD"
  "Password for the lecture hall power strips" "DISPATCHER_PWRCTRL_PASSWORD"
def port : Opt := valued "port" "PORT" .port
  "Port to listen on for worker gRPC calls" "DISPATCHER_PORT" (some 50052)
def dashboardPort : Opt := valued "dashboard-port" "DASHBOARD_PORT" .port
  "Port for the status dashboard (optional)" "DISPATCHER_DASHBOARD_PORT" none
def interval : Opt := valued "interval-secs" "INTERVAL_SECS" .positive
  "Seconds between dispatch runs" "DISPATCHER_INTERVAL" (some 60)
def selfStreamTolerance : Opt := valued "self-stream-tolerance-secs"
  "SELF_STREAM_TOLERANCE_SECS" .count
  "Seconds around a stream's schedule in which self-streaming is accepted"
  "DISPATCHER_SELF_STREAM_TOLERANCE" (some 1800)
def joinToken : Opt := secret "join-token" "JOIN_TOKEN"
  "Token workers must present to join the pool. Joining is disabled without it"
  "DISPATCHER_JOIN_TOKEN"

/-- The options that say where the directory comes from and how dispatching behaves. -/
def directory : List Opt :=
  [seed, workerPort, dialTimeout, streamLead, streamWindow, premiereLead, aliveThreshold,
    pwrctrlUser, pwrctrlPassword]

/-- The options of `serve`. -/
def serving : List Opt :=
  directory ++ [port, dashboardPort, interval, selfStreamTolerance, joinToken]

end Options

/-- The program's name. -/
def programName : String := "stream-dispatcher"

/-- A working command of the program. -/
def subcommand (name about : String) (options : List Opt) : Command where
  name := name
  displayName := programName ++ "-" ++ name
  about := about
  path := programName ++ " " ++ name
  usage := programName ++ " " ++ name ++ " [OPTIONS]"
  options := options ++ [helpOpt, versionOpt]

/-- The `serve` command. -/
def serveCommand : Command :=
  subcommand "serve" "Serve workers and dispatch due streams periodically" Options.serving

/-- The `dispatch-once` command. -/
def dispatchOnceCommand : Command :=
  subcommand "dispatch-once" "Run a single dispatch cycle and print what was assigned"
    Options.directory

/-- The `help` command. -/
def helpCommand : Command where
  name := "help"
  displayName := programName ++ "-help"
  about := "Print this message or the help of the given subcommand(s)"
  path := programName ++ " help"
  usage := programName ++ " help [COMMAND]..."
  arguments := [("[COMMAND]...", "Print help for the subcommand(s)")]
  options := []

/-- The program as a command. -/
def program : Command where
  name := programName
  displayName := programName
  about := "Assigns scheduled lecture streams to capture workers"
  path := programName
  usage := programName ++ " <COMMAND>"
  takesCommand := true
  options := [helpOpt, versionOpt]

/-- The program's commands, in the order help lists them. -/
def commands : List Command := [serveCommand, dispatchOnceCommand, helpCommand]

/-- The usage line of an error, given the options the command line used, in the order they
first came: the plain usage line when there are none, else the command's path, each option as
messages name it, once, and the command slot where a command must follow. -/
def Command.usageWith (c : Command) (used : List Opt) : String :=
  if used.isEmpty then c.usage
  else
    c.path ++ String.join (used.eraseDups.map fun o => " " ++ o.spec) ++
      (if c.takesCommand then " <COMMAND>" else "")

/-! ## Help -/

/-- `s` followed by blanks up to `width` characters. -/
def padRight (s : String) (width : Nat) : String :=
  s ++ String.ofList (List.replicate (width - s.length) ' ')

/-- The width of the terminal that help is laid out for. -/
def termWidth : Nat := 100

/-- Whether a description of `helpWidth` characters goes below an entry whose column takes
`taken` characters. -/
def wraps (taken helpWidth : Nat) : Bool :=
  termWidth ≥ taken && taken * 10 > termWidth * 4 && helpWidth > termWidth - taken

/-- The options section's lines. -/
def optionLines (opts : List Opt) : List String :=
  let longest := opts.foldl (fun m o => max m (o.spec.length + 4)) 2
  let nextLine := opts.any fun o => wraps (longest + 8) o.helpText.length
  opts.map fun o =>
    if nextLine then "  " ++ o.head ++ "\n          " ++ o.helpText
    else "  " ++ padRight o.head (longest + 2) ++ o.helpText

/-- Lines of names with descriptions, aligned after the longest name. -/
def entryLines (entries : List (String × String)) : List String :=
  let longest := entries.foldl (fun m (n, _) => max m n.length) 2
  let nextLine := entries.any fun (_, a) => wraps (longest + 4) a.length
  entries.map fun (n, a) =>
    if nextLine then "  " ++ n ++ "\n          " ++ a
    else "  " ++ padRight n (longest + 2) ++ a

/-- A titled section of help, or nothing for no lines. -/
def titled (title : String) (lines : List String) : List String :=
  if lines.isEmpty then [] else [title ++ ":\n" ++ "\n".intercalate lines]

/-- The help of a command; the program's help also lists its commands. -/
def Command.help (c : Command) : String :=
  let subs := if c.name = programName then commands.map fun s => (s.name, s.about) else []
  let sections := titled "Commands" (entryLines subs) ++
    titled "Arguments" (entryLines c.arguments) ++ titled "Options" (optionLines c.options)
  c.about ++ "\n\nUsage: " ++ c.usage ++ "\n\n" ++ "\n\n".intercalate sections ++ "\n"

/-- The announcement of a command's version. -/
def Command.versionText (c : Command) : String := c.displayName ++ " " ++ version ++ "\n"

end StreamDispatch.Cli
