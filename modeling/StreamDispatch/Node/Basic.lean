import StreamDispatch.Directory.Due
import StreamDispatch.Schedule.Job

/-!
# The dispatcher node

A node is the running dispatcher as its workers and tools see it: the directory, its settings,
the directory methods that are currently failing, how workers answer assignments, how hall
lights answer switching, the sources of fresh worker and job ids, and the trace of what it did
beyond answering: the calls it made to workers, the failures it reported, the lights it
switched and the live-state events it published.

Operations on a node run in `Op`, which carries the node along and may halt with a `Panic`
when an invariant of the computation breaks (a time leaving the clock's range); a halt keeps
everything done before it.
-/

namespace StreamDispatch

open Time

/-- A directory method that can be made to fail. -/
inductive Method where
  | streamById
  | streamByKey
  | saveStream
  | setStreamNotLive
  | replaceSilences
  | dueStreams
  | duePremieres
  | courseById
  | hallById
  | workerById
  | aliveWorkers
  | saveWorker
  deriving Repr, DecidableEq, BEq

namespace Method

/-- Every method, in declaration order. -/
def all : List Method :=
  [streamById, streamByKey, saveStream, setStreamNotLive, replaceSilences, dueStreams,
    duePremieres, courseById, hallById, workerById, aliveWorkers, saveWorker]

/-- The name of a method. -/
def name : Method → String
  | streamById => "stream_by_id"
  | streamByKey => "stream_by_key"
  | saveStream => "save_stream"
  | setStreamNotLive => "set_stream_not_live"
  | replaceSilences => "replace_silences"
  | dueStreams => "due_streams"
  | duePremieres => "due_premieres"
  | courseById => "course_by_id"
  | hallById => "lecture_hall_by_id"
  | workerById => "worker_by_id"
  | aliveWorkers => "alive_workers"
  | saveWorker => "save_worker"

/-- The method with a name. -/
def ofName? (s : String) : Option Method := all.find? (·.name = s)

end Method

/-- A call made to a worker. -/
structure Call where
  worker : Worker
  job : Job

/-- A switch of a hall's light: the hall, on or off, and the failure if it failed. -/
structure LightSwitch where
  hallId : Nat
  on : Bool
  failure : Option Failure

/-- What a node did besides answering. -/
structure Trace where
  calls : List Call := []
  reported : List Failure := []
  lights : List LightSwitch := []
  /-- live-state events: a stream and whether it went live -/
  events : List (Nat × Bool) := []

/-- A halt of an operation, with its message. -/
structure Panic where
  message : String

/-- The running dispatcher. -/
structure Node where
  directory : Directory
  settings : Settings := {}
  /-- the directory methods that fail -/
  faults : List Method := []
  /-- how a worker answers an assignment: accepted, refused, or failed -/
  answer : Worker → Job → Except Failure Bool := fun _ _ => .ok true
  /-- how a hall's light answers switching -/
  switch : Hall → Bool → Option Failure := fun _ _ => none
  /-- the id of the n-th joined worker -/
  workerIdOf : Nat → String
  /-- the id of the n-th job -/
  jobIdOf : Nat → String
  joined : Nat := 0
  jobs : Nat := 0
  trace : Trace := {}

/-- An operation on a node. -/
abbrev Op := EStateM Panic Node

namespace Node

/-- Halts with a message. -/
def halt {α : Type} (message : String) : Op α := throw ⟨message⟩

/-- Runs a directory method unless it is failing. -/
def guarded {α : Type} (m : Method) (act : Op (Except Failure α)) : Op (Except Failure α) := do
  if (← get).faults.contains m then pure (.error (.storage (m.name ++ " unavailable")))
  else act

/-- Reads the directory through a failing method. -/
def read {α : Type} (m : Method) (f : Directory → Except Failure α) : Op (Except Failure α) :=
  guarded m do pure (f (← get).directory)

/-- Changes the directory through a failing method. -/
def write (m : Method) (f : Directory → Except Failure Directory) : Op (Except Failure Unit) :=
  guarded m do
    let n ← get
    match f n.directory with
    | .ok d => set { n with directory := d }; pure (.ok ())
    | .error e => pure (.error e)

/-- Adds to the trace. -/
def record (f : Trace → Trace) : Op Unit := modify fun n => { n with trace := f n.trace }

/-- Reports a failure. -/
def report (e : Failure) : Op Unit := record fun t => { t with reported := t.reported ++ [e] }

/-- Publishes a live-state event. -/
def publish (streamId : Nat) (live : Bool) : Op Unit :=
  record fun t => { t with events := t.events ++ [(streamId, live)] }

/-- Switches a hall's light, recording the switch and its outcome. -/
def switchLight (h : Hall) (on : Bool) : Op Unit := do
  let n ← get
  let failure := n.switch h on
  record fun t => { t with lights := t.lights ++ [⟨h.id, on, failure⟩] }

end Node

end StreamDispatch
