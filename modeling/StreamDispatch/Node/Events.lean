import StreamDispatch.Node.Store
import StreamDispatch.Text.Blank

/-!
# Worker events

The calls workers make to the dispatcher. Every call but joining first looks up the calling
worker, so an unknown worker learns nothing else. The checks of each call come in a fixed
order and the first failing one answers:

* joining needs a configured token, the same token, and a hostname that is not blank; the new
  worker has workload 0 and is seen now;
* a heartbeat sets the worker's workload, status (its jobs joined by commas), resources and
  version, and sees it now;
* transcoding progress is a stream of updates, each refused above 100 percent or for a
  missing stream, and ended by a frame that cannot be decoded; the updates before a refused
  one stay applied;
* a finished transcoding needs a file path, adds the file and clears that feed's progress;
* silence results need a stream and as many starts as ends; an empty list changes nothing;
* a started stream is live with the feed's playlist set, and its hall's light goes on;
* a finished stream switches its hall's light off and is no longer live, at best effort;
  both publish a live-state event;
* a finished upload marks the stream as recorded with the feed's playlist set;
* a self-stream request is accepted within the stream's publishing window: from the tolerance
  before its start to the tolerance after its end, both bounds excluded.
-/

namespace StreamDispatch

open Time

/-- The course details a self-streaming worker needs. -/
structure SelfStreamGrant where
  streamId : Nat
  courseSlug : String
  courseTerm : String
  courseYear : Nat
  streamStartMs : Int
  uploadVod : Bool
  deriving Repr, DecidableEq

/-- One transcoding progress update. -/
structure ProgressUpdate where
  workerId : String
  streamId : Nat
  version : String
  progress : Nat
  deriving Repr, DecidableEq

/-- A heartbeat's content. -/
structure Heartbeat where
  workerId : String
  workload : Nat
  jobs : List String
  cpu : String := ""
  memory : String := ""
  disk : String := ""
  uptime : String := ""
  version : String := ""
  deriving Repr, DecidableEq

/-- Whether `now` lies strictly between the stream's start less the tolerance and its end plus
the tolerance; the end is only computed when `now` is past the first bound. -/
def withinPublishWindow (s : Stream) (now : Instant) (tolerance : Span) : Except Overflow Bool := do
  let opens ← s.start.minus tolerance
  if opens < now then
    let closes ← s.finish.plus tolerance
    pure (decide (now < closes))
  else pure false

namespace Node

/-- A call that may fail. -/
abbrev Answer := ExceptT Failure Op

/-- A directory method inside a call: its failure fails the call. -/
def must {α : Type} (x : Op (Except Failure α)) : Answer α := ExceptT.mk x

/-- A directory method inside a call whose failure the call survives. -/
def attempt {α : Type} (x : Op (Except Failure α)) : Answer (Except Failure α) := ExceptT.lift x

/-- The calling worker, which must be known. -/
def authenticate (workerId : String) : Answer Worker := must (workerById workerId)

/-- A worker joins with a token and its hostname, and gets a fresh id. -/
def join (token hostname : String) (now : Instant) : Answer String := do
  let n ← get
  match n.settings.joinToken with
  | none => throw (.permissionDenied "joining is disabled")
  | some expected =>
    if token ≠ expected then throw (.permissionDenied "invalid join token")
    if (Text.trimBlank hostname).isEmpty then throw (.invalidArgument "hostname is required")
    let id := n.workerIdOf (n.joined + 1)
    must (saveWorker (Worker.new id hostname 0 now))
    modify fun n => { n with joined := n.joined + 1 }
    pure id

/-- A worker reports its state. -/
def heartbeat (h : Heartbeat) (now : Instant) : Answer Unit := do
  let w ← authenticate h.workerId
  must (saveWorker { w with
    workload := Int64.ofNat h.workload, lastSeen := now, status := ", ".intercalate h.jobs,
    cpu := h.cpu, memory := h.memory, disk := h.disk, uptime := h.uptime,
    version := h.version })

/-- Records one progress update. -/
def recordProgress (u : ProgressUpdate) : Answer Unit := do
  if u.progress > 100 then throw (.invalidArgument s!"progress {u.progress} exceeds 100")
  let s ← must (streamById u.streamId)
  must (saveStream { s with progress := s.progress.set (Feed.ofLabel u.version) u.progress })

/-- Records progress updates in order as their frames arrive, looking the worker up again
whenever it changes; a frame that cannot be decoded ends the call with its status. -/
def progressFrom (authenticated : Option String) :
    List (Except Status ProgressUpdate) → Answer Unit
  | [] => pure ()
  | .error st :: _ => throw (.relayed st)
  | .ok u :: us => do
    if authenticated ≠ some u.workerId then discard (authenticate u.workerId)
    recordProgress u
    progressFrom (some u.workerId) us

/-- A worker reports transcoding progress as a stream of frames. -/
def transcodingProgress (frames : List (Except Status ProgressUpdate)) : Answer Unit :=
  progressFrom none frames

/-- A worker reports a finished transcoding of a feed into a file. -/
def transcodingFinished (workerId : String) (streamId : Nat) (path source : String) :
    Answer Unit := do
  discard (authenticate workerId)
  if path.isEmpty then throw (.invalidArgument "file path is required")
  let s ← must (streamById streamId)
  let progress := s.progress.erase (Feed.ofLabel source)
  must (saveStream { s with files := s.files ++ [path], progress })

/-- A worker reports the silences found in a stream. -/
def silenceResults (workerId : String) (streamId : Nat) (starts ends : List Nat) :
    Answer Unit := do
  discard (authenticate workerId)
  discard (must (streamById streamId))
  if starts.length ≠ ends.length then
    throw (.invalidArgument s!"{starts.length} silence starts but {ends.length} ends")
  if starts.isEmpty then return
  must (replaceSilences streamId ((starts.zip ends).map fun (a, b) => ⟨a, b⟩))

/-- Switches the light of a stream's hall, if the stream has a hall that exists. -/
def switchHallOf (s : Stream) (on : Bool) : Op Unit := do
  match s.hallId with
  | none => pure ()
  | some h =>
    match ← hallById h with
    | .ok hall => switchLight hall on
    | .error _ => pure ()

/-- A worker reports that it started streaming a feed. -/
def streamStarted (workerId : String) (streamId : Nat) (url source : String) : Answer Unit := do
  discard (authenticate workerId)
  let s ← must (streamById streamId)
  let s := { s with live := true, playlists := s.playlists.set (Feed.ofLabel source) url }
  must (saveStream s)
  switchHallOf s true
  publish s.id true

/-- A worker reports that a stream finished; everything past the worker lookup is best
effort. -/
def streamFinished (workerId : String) (streamId : Nat) : Answer Unit := do
  discard (authenticate workerId)
  match ← attempt (streamById streamId) with
  | .ok s => switchHallOf s false
  | .error _ => pure ()
  discard (attempt (setStreamNotLive streamId))
  publish streamId false

/-- A worker reports that a recording was uploaded. -/
def uploadFinished (workerId : String) (streamId : Nat) (url source : String) : Answer Unit := do
  discard (authenticate workerId)
  let s ← must (streamById streamId)
  let playlists := s.playlists.set (Feed.ofLabel source) url
  must (saveStream { s with recording := true, playlists })

/-- A worker asks to publish a stream by its key at `now`. -/
def selfStream (workerId key : String) (now : Instant) : Answer SelfStreamGrant := do
  discard (authenticate workerId)
  let s ← must (streamByKey key)
  let tolerance := windowSpan (← get).settings.selfStreamTolerance
  match withinPublishWindow s now tolerance with
  | .error o => halt o.message
  | .ok false => throw (.outsideWindow s.id)
  | .ok true =>
    let c ← must (courseById s.courseId)
    pure ⟨s.id, c.slug, c.term, c.year, s.start.unixMillis, c.vodEnabled⟩

end Node

end StreamDispatch
