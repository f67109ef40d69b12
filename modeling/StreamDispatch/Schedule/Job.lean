import StreamDispatch.Catalog.Course
import StreamDispatch.Catalog.Stream
import StreamDispatch.Catalog.Worker

/-!
# Jobs and batch reports

A job asks a worker either to capture one feed of a lecture stream or to play a premiere's
file. Each job gets a fresh job id and names the worker it goes to. A batch report lists the
assignments that were accepted and those that failed, in the order they were made, counts the
streams skipped before any worker was picked, and gives each alive worker's workload at the
end of the batch.
-/

namespace StreamDispatch

open Time

/-- A request to capture one feed of a lecture stream. -/
structure StreamRequest where
  jobId : String := ""
  workerId : String := ""
  streamId : Nat
  feed : Feed
  sourceUrl : String
  courseSlug : String
  courseTerm : String
  courseYear : Nat
  startMs : Int
  endMs : Int
  publishStream : Bool
  publishVod : Bool
  deriving Repr, DecidableEq

/-- A request to play a premiere's file. -/
structure PremiereRequest where
  jobId : String := ""
  workerId : String := ""
  streamId : Nat
  filePath : String
  deriving Repr, DecidableEq

/-- A job for a worker. -/
inductive Job where
  | stream (r : StreamRequest)
  | premiere (r : PremiereRequest)
  deriving Repr, DecidableEq

namespace Job

/-- The stream a job is for. -/
def streamId : Job → Nat
  | .stream r => r.streamId
  | .premiere r => r.streamId

/-- The feed a job captures; a premiere has none. -/
def feed : Job → Option Feed
  | .stream r => some r.feed
  | .premiere _ => none

/-- The job with its job id and worker filled in. -/
def addressed (j : Job) (jobId workerId : String) : Job :=
  match j with
  | .stream r => .stream { r with jobId, workerId }
  | .premiere r => .premiere { r with jobId, workerId }

end Job

/-- The request to capture a feed of a stream from a source address. -/
def StreamRequest.ofStream (s : Stream) (c : Course) (f : Feed) (url : String) : StreamRequest where
  streamId := s.id
  feed := f
  sourceUrl := url
  courseSlug := c.slug
  courseTerm := c.term
  courseYear := c.year
  startMs := s.start.unixMillis
  endMs := s.finish.unixMillis
  publishStream := c.liveEnabled
  publishVod := c.vodEnabled

/-- A job handed to a worker. -/
structure Assignment where
  jobId : String
  streamId : Nat
  /-- the captured feed; none for a premiere -/
  source : Option Feed
  workerId : String
  deriving Repr, DecidableEq

/-- The outcome of one batch of jobs. -/
structure Batch where
  assigned : List Assignment := []
  failed : List Assignment := []
  /-- jobs dropped before any worker was picked -/
  skipped : Nat := 0
  /-- each alive worker's workload once the batch finished -/
  workloads : List (String × Int64) := []
  deriving DecidableEq

/-- The outcome of a dispatch run: premieres first, then lecture streams. -/
structure RunReport where
  premieres : Batch
  streams : Batch
  deriving DecidableEq

end StreamDispatch
