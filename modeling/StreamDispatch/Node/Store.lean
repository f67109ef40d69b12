import StreamDispatch.Node.Basic

/-!
# The directory as a node reaches it

The node reaches its directory through twelve methods, each of which fails with storage
trouble while it is listed among the node's faults. A due query whose bounds leave the clock
halts the operation.
-/

namespace StreamDispatch

open Time

namespace Node

/-- The stream with a number. -/
def streamById (id : Nat) : Op (Except Failure Stream) := read .streamById (·.stream id)

/-- The stream published with a key. -/
def streamByKey (key : String) : Op (Except Failure Stream) :=
  read .streamByKey (·.streamWithKey key)

/-- Saves a stream. -/
def saveStream (s : Stream) : Op (Except Failure Unit) :=
  write .saveStream fun d => .ok (d.putStream s)

/-- Marks a stream as not live. -/
def setStreamNotLive (id : Nat) : Op (Except Failure Unit) :=
  write .setStreamNotLive (·.setStreamNotLive id)

/-- Replaces a stream's silences. -/
def replaceSilences (id : Nat) (silences : List Silence) : Op (Except Failure Unit) :=
  write .replaceSilences (·.replaceSilences id silences)

/-- Runs a due query, halting when its bounds leave the clock. -/
def dueQuery (m : Method) (q : Directory → Except Overflow (List Stream)) :
    Op (Except Failure (List Stream)) :=
  guarded m do
    match q (← get).directory with
    | .ok l => pure (.ok l)
    | .error o => halt o.message

/-- The lecture streams due at `now`. -/
def dueStreams (now : Instant) : Op (Except Failure (List Stream)) :=
  dueQuery .dueStreams (·.dueStreams now)

/-- The premieres due at `now`. -/
def duePremieres (now : Instant) : Op (Except Failure (List Stream)) :=
  dueQuery .duePremieres (·.duePremieres now)

/-- The course with a number. -/
def courseById (id : Nat) : Op (Except Failure Course) := read .courseById (·.course id)

/-- The hall with a number. -/
def hallById (id : Nat) : Op (Except Failure Hall) := read .hallById (·.hall id)

/-- The worker with an id. -/
def workerById (id : String) : Op (Except Failure Worker) := read .workerById (·.worker id)

/-- The workers alive at `now`. -/
def aliveWorkers (now : Instant) : Op (Except Failure (List Worker)) :=
  read .aliveWorkers fun d => .ok (d.aliveWorkers now)

/-- Saves a worker. -/
def saveWorker (w : Worker) : Op (Except Failure Unit) :=
  write .saveWorker fun d => .ok (d.putWorker w)

end Node

end StreamDispatch
