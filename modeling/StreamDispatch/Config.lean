import StreamDispatch.Time.Duration
import StreamDispatch.Net.SocketAddr
import StreamDispatch.Failure

/-!
# Configuration

The dispatcher's settings: where it listens, the port every worker serves assignments on, how
often it dispatches, how long it waits for a worker, the self-streaming tolerance, the join
token (joining is disabled without one), the dashboard's address, the power-strip
credentials, and the due windows of the directory.

Settings are valid when the dispatch interval and the dial timeout are positive and no window
exceeds 366 days; `Settings.validate` reports the first check that fails, in that order.
-/

namespace StreamDispatch

open Time Net

/-- The windows that decide which streams are due and which workers are alive. -/
structure DueWindows where
  /-- how long before its start a lecture stream becomes due -/
  streamLead : Duration := .ofSecs 600
  /-- how long a stream stays due once its lead is reached -/
  streamWindow : Duration := .ofSecs 120
  /-- how long before its start a premiere becomes due -/
  premiereLead : Duration := .ofSecs 60
  /-- workers not seen within this threshold are not alive -/
  aliveThreshold : Duration := .ofSecs 300
  deriving DecidableEq

/-- Credentials for the power strips; basic authentication needs a username. -/
structure PowerControl where
  username : Option String := none
  password : Option String := none
  deriving DecidableEq

/-- The username and password to authenticate with, if a username is set. -/
def PowerControl.basicAuth (p : PowerControl) : Option (String × Option String) :=
  p.username.map fun u => (u, p.password)

/-- The dispatcher's settings. -/
structure Settings where
  listen : SocketAddr := ⟨.v4 [0, 0, 0, 0], 50052, 0⟩
  /-- the port every worker serves assignments on -/
  workerPort : Nat := 50051
  dispatchInterval : Duration := .ofSecs 60
  dialTimeout : Duration := .ofSecs 5
  /-- slack around a stream's schedule in which self-streaming is accepted -/
  selfStreamTolerance : Duration := .ofSecs 1800
  /-- the secret workers present when joining; joining is disabled without one -/
  joinToken : Option String := none
  dashboard : Option SocketAddr := none
  powerControl : PowerControl := {}
  due : DueWindows := {}

namespace Settings

/-- Default settings listening on an address. -/
def listeningOn (addr : SocketAddr) : Settings := { listen := addr }

/-- The settings with a join token. -/
def withJoinToken (s : Settings) (token : String) : Settings := { s with joinToken := some token }

/-- The settings with a dashboard address. -/
def withDashboard (s : Settings) (addr : SocketAddr) : Settings :=
  { s with dashboard := some addr }

/-- The windows checked against the 366-day limit, with their names, in checking order. -/
def windows (s : Settings) : List (String × Duration) :=
  [("self-stream tolerance", s.selfStreamTolerance), ("stream lead", s.due.streamLead),
    ("stream window", s.due.streamWindow), ("premiere lead", s.due.premiereLead),
    ("alive threshold", s.due.aliveThreshold)]

/-- Checks that the dispatcher can run with the settings: the first failing check wins. -/
def validate (s : Settings) : Except Failure Unit :=
  if s.dispatchInterval.isZero then .error (.invalidArgument "dispatch interval must be positive")
  else if s.dialTimeout.isZero then .error (.invalidArgument "dial timeout must be positive")
  else
    match s.windows.find? fun (_, d) => maxWindow < d with
    | some (name, d) =>
      .error (.invalidArgument
        s!"{name} of {d.secs}s exceeds the {maxWindow.secs}s limit")
    | none => .ok ()

end Settings

end StreamDispatch
