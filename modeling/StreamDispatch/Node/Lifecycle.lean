import StreamDispatch.Node.View

/-!
# Starting and stopping a node

A node that starts first checks its settings, then listens for workers; either step can end
it, and a node that listens runs until it is cancelled. A termination or an interrupt cancels
it, so it stops cleanly; a hangup or a user signal is not handled and takes the signal's
default action, which kills the process.
-/

namespace StreamDispatch

open Json Time

/-- Why a node could not start. -/
inductive StartError where
  /-- the settings failed a check -/
  | invalid (f : Failure)
  /-- another program listens on the node's port -/
  | portTaken
  deriving Repr, DecidableEq

/-- The message of a failed start. -/
def StartError.message : StartError → String
  | .invalid f => f.message
  | .portTaken => "transport error"

/-- Starts a node with `settings` whose listening port is free or not: the settings are
checked first. -/
def Settings.start (settings : Settings) (portFree : Bool) : Except StartError Unit :=
  match settings.validate with
  | .error f => .error (.invalid f)
  | .ok () => if portFree then .ok () else .error .portTaken

/-- The signals a running node may receive. -/
inductive Signal where
  | hangup
  | interrupt
  | user1
  | terminate
  deriving Repr, DecidableEq

namespace Signal

/-- The signal's number. -/
def number : Signal → Nat
  | hangup => 1
  | interrupt => 2
  | user1 => 10
  | terminate => 15

/-- The signal with a short name. -/
def ofName? : String → Option Signal
  | "HUP" => some hangup
  | "INT" => some interrupt
  | "USR1" => some user1
  | "TERM" => some terminate
  | _ => none

/-- Whether the node handles the signal by cancelling its work. -/
def cancels : Signal → Bool
  | interrupt | terminate => true
  | hangup | user1 => false

end Signal

/-- A worker's state as a node's listing shows it. -/
def Worker.summary (w : Worker) (time : Instant → String) : Json :=
  .record [("id", .str w.id), ("workload", .int w.workload.toInt), ("status", .str w.status),
    ("last_seen", .str (time w.lastSeen)), ("version", .str w.version)]

/-- The directory's streams with the given numbers, in that order, leaving out unknown ones. -/
def Directory.streamsNumbered (d : Directory) (ids : List Nat) : List Stream :=
  ids.filterMap fun i => (d.stream i).toOption

/-- The directory's workers with the given ids, in that order, leaving out unknown ones. -/
def Directory.workersNamed (d : Directory) (ids : List String) : List Worker :=
  ids.filterMap fun i => (d.worker i).toOption

end StreamDispatch
