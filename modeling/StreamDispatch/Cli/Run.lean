import StreamDispatch.Cli.Parse
import StreamDispatch.Node.View
import StreamDispatch.Directory.Seed

/-!
# Running a command line

A run reads its command line, then does what the command asks in a fixed order, and the first
step that fails ends it with status 1 and `Error: ` followed by the failure's debug text:

* `dispatch-once` checks its settings, loads the directory, runs one dispatch at the present
  and prints the assigned, failed and skipped jobs of both batches as indented JSON;
* `serve` checks its settings, loads the directory and listens on its port, which fails when
  another program holds it; a server that listens runs until it is told to stop, and then
  ends with status 0 and prints nothing.

The directory comes from the seed file, or is empty without one; a file that cannot be read or
does not hold a seed is a storage failure. Help and versions end with status 0, usage errors
with status 2. What the run meets outside itself (files, ports, the clock, workers and hall
lights) is a `Host`.
-/

namespace StreamDispatch.Cli

open Time Json Net

/-- What a command-line run meets outside itself. -/
structure Host where
  /-- the text of a file, or why it cannot be read -/
  fileText : String → Except String String
  /-- whether a port on all interfaces is free to listen on -/
  canListen : Nat → Bool
  /-- the present -/
  now : Instant
  /-- how the workers serving assignments on a port answer one -/
  answer : Nat → Worker → Job → Except Failure Bool
  /-- how a hall's light answers switching -/
  switch : Hall → Bool → Option Failure
  /-- the id of the n-th job -/
  jobIdOf : Nat → String

/-- How a run ends: its exit status and what it printed on standard output and error. -/
structure Outcome where
  exit : Nat
  stdout : String := ""
  stderr : String := ""
  deriving Repr, DecidableEq

/-- Why a command stopped after it began. -/
inductive Fatal where
  | failure (f : Failure)
  /-- another program listens on the port -/
  | addressInUse
  deriving Repr, DecidableEq

/-- The debug text of a fatal error. -/
def Fatal.debugText : Fatal → String
  | .failure f => f.debugText
  | .addressInUse =>
    "tonic::transport::Error(Transport, Os \x7b code: 98, kind: AddrInUse, " ++
      "message: \"Address already in use\" \x7d)"

/-- The outcome of a fatal error. -/
def Fatal.outcome (e : Fatal) : Outcome := ⟨1, "", "Error: " ++ e.debugText ++ "\n"⟩

/-! ## Settings -/

/-- The number given for an option, or its default. -/
def Given.nat (g : Given) (o : Opt) : Nat :=
  match g.lookup o.long with
  | some (.nat n) => n
  | _ => o.default.getD 0

/-- The number given for an option without a default. -/
def Given.nat? (g : Given) (o : Opt) : Option Nat :=
  match g.lookup o.long with
  | some (.nat n) => some n
  | _ => none

/-- The text given for an option. -/
def Given.text? (g : Given) (o : Opt) : Option String :=
  match g.lookup o.long with
  | some (.text s) => some s
  | _ => none

/-- The settings that the directory options give; the rest are the defaults. -/
def Given.directorySettings (g : Given) : Settings :=
  { workerPort := g.nat Options.workerPort
    dialTimeout := .ofSecs (g.nat Options.dialTimeout)
    powerControl := ⟨g.text? Options.pwrctrlUser, g.text? Options.pwrctrlPassword⟩
    due := ⟨.ofSecs (g.nat Options.streamLead), .ofSecs (g.nat Options.streamWindow),
      .ofSecs (g.nat Options.premiereLead), .ofSecs (g.nat Options.aliveThreshold)⟩ }

/-- The address of a port on every interface. -/
def everywhere (port : Nat) : SocketAddr := ⟨.v4 [0, 0, 0, 0], port, 0⟩

/-- The settings that the options of `serve` give. -/
def Given.servingSettings (g : Given) : Settings :=
  let base := g.directorySettings
  { base with
    listen := everywhere (g.nat Options.port)
    dashboard := (g.nat? Options.dashboardPort).map everywhere
    dispatchInterval := .ofSecs (g.nat Options.interval)
    selfStreamTolerance := .ofSecs (g.nat Options.selfStreamTolerance)
    joinToken := g.text? Options.joinToken }

/-- The directory a run starts from: the seed file's records, or none without a seed. -/
def Host.loadDirectory (host : Host) (windows : DueWindows) :
    Option String → Except Failure Directory
  | none => .ok (Directory.ofSeed windows {})
  | some path =>
    match host.fileText path with
    | .error reason => .error (.storage ("failed to read " ++ path ++ ": " ++ reason))
    | .ok text => Directory.load windows path text

/-! ## Commands -/

/-- The node a command runs: the directory and settings, with the host's workers and
lights. -/
def Host.node (host : Host) (d : Directory) (s : Settings) : Node where
  directory := d
  settings := s
  answer := host.answer s.workerPort
  switch := host.switch
  workerIdOf := fun n => toString n
  jobIdOf := host.jobIdOf

/-- Runs `dispatch-once`. -/
def Host.dispatchOnce (host : Host) (g : Given) : Outcome :=
  let settings := g.directorySettings
  match settings.validate with
  | .error f => (Fatal.failure f).outcome
  | .ok () =>
    match host.loadDirectory settings.due (g.text? Options.seed) with
    | .error f => (Fatal.failure f).outcome
    | .ok d =>
      match (Node.runOnce host.now).run (host.node d settings) with
      | .ok report _ => ⟨0, report.summary.pretty ++ "\n", ""⟩
      | .error p _ => ⟨101, "", "thread 'main' panicked:\n" ++ p.message ++ "\n"⟩

/-- Runs `serve` until it is told to stop. -/
def Host.serve (host : Host) (g : Given) : Outcome :=
  let settings := g.servingSettings
  match settings.validate with
  | .error f => (Fatal.failure f).outcome
  | .ok () =>
    match host.loadDirectory settings.due (g.text? Options.seed) with
    | .error f => (Fatal.failure f).outcome
    | .ok _ =>
      if host.canListen settings.listen.port then ⟨0, "", ""⟩
      else Fatal.addressInUse.outcome

/-- The seed file that a command line asks to load. -/
def seedArgument (args : List String) : Option String :=
  match parse args with
  | .ok (.serve g) | .ok (.dispatchOnce g) => g.text? Options.seed
  | .error _ => none

/-- Runs a command line, the program's name left out. -/
def Host.run (host : Host) (args : List String) : Outcome :=
  match parse args with
  | .error (.shown text) => ⟨0, text, ""⟩
  | .error (.refused text) => ⟨2, "", text⟩
  | .ok (.dispatchOnce g) => host.dispatchOnce g
  | .ok (.serve g) => host.serve g

end StreamDispatch.Cli
