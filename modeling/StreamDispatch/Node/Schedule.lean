import StreamDispatch.Node.Store
import StreamDispatch.Schedule.LeastLoaded

/-!
# Dispatch runs

A run hands the due premieres, then the due lecture streams, to workers. Each batch works on
its own copy of the alive workers, fetched afresh: every job goes to the least-loaded worker
of the copy, whose workload rises by 3 before the call and falls back by 1 when the call
fails, so a failing worker stays penalised for the rest of the batch. Nothing of the copy is
saved.

A batch with no due jobs does nothing; a batch whose workers cannot be listed, or has none,
reports that once and assigns nothing. A premiere without a file is skipped. A lecture stream
whose course or hall cannot be found is reported and skipped, one without a hall is skipped
silently, and otherwise each configured feed, in slot order, becomes one job. Failed calls are
reported: a refusal as `rejected`, any other failure as it came.
-/

namespace StreamDispatch

open Time

/-- How much a worker's workload rises when a job is sent its way. -/
def speculativeLoad : Int64 := 3

/-- How much of that is taken back when the job fails. -/
def failureBackoff : Int64 := 1

namespace Node

/-- A fresh job id. -/
def nextJobId : Op String := do
  let n ← get
  let k := n.jobs + 1
  set { n with jobs := k }
  pure (n.jobIdOf k)

/-- Sends a job to a worker, recording the call, and gives the worker's answer. -/
def send (w : Worker) (j : Job) : Op (Except Failure Bool) := do
  record fun t => { t with calls := t.calls ++ [⟨w, j⟩] }
  pure ((← get).answer w j)

/-- Changes the workload of the worker at an index. -/
def shiftLoad (workers : List Worker) (i : Nat) (delta : Int64) : List Worker :=
  workers.modify i fun w => { w with workload := w.workload + delta }

/-- Hands a job to the least-loaded worker of the batch's copy. -/
def assign (workers : List Worker) (job : Job) (b : Batch) : Op (List Worker × Batch) := do
  match leastLoaded (workers.map (·.workload)) with
  | none => halt leastLoadedEmptyMessage
  | some i =>
    let workers := shiftLoad workers i speculativeLoad
    match workers[i]? with
    | none => halt leastLoadedEmptyMessage
    | some w =>
      let jobId ← nextJobId
      let a : Assignment := ⟨jobId, job.streamId, job.feed, w.id⟩
      let failure : Option Failure :=
        match ← send w (job.addressed jobId w.id) with
        | .ok true => none
        | .ok false => some (.rejected w.id job.streamId)
        | .error e => some e
      match failure with
      | none => pure (workers, { b with assigned := b.assigned ++ [a] })
      | some e =>
        report e
        pure (shiftLoad workers i (-failureBackoff), { b with failed := b.failed ++ [a] })

/-- The alive workers for a batch with jobs; `none` when the batch has none, or when the workers
cannot be listed or there are none, which is reported. -/
def workersFor (now : Instant) (hasJobs : Bool) (kind : BatchKind) : Op (Option (List Worker)) := do
  if !hasJobs then return none
  match ← aliveWorkers now with
  | .error e => report e; return none
  | .ok [] => report (.noWorkers kind); return none
  | .ok ws => return some ws

/-- The batch's report with the copy's final workloads. -/
def Batch.closed (b : Batch) (workers : List Worker) : Batch :=
  { b with workloads := workers.map fun w => (w.id, w.workload) }

/-- One premiere of a batch. -/
def premiereStep (acc : List Worker × Batch) (s : Stream) : Op (List Worker × Batch) :=
  match s.files with
  | [] => pure (acc.1, { acc.2 with skipped := acc.2.skipped + 1 })
  | f :: _ => assign acc.1 (.premiere { streamId := s.id, filePath := f }) acc.2

/-- Hands the premieres due at `now` to workers. -/
def dispatchPremieres (now : Instant) : Op Batch := do
  match ← duePremieres now with
  | .error e => report e; pure {}
  | .ok premieres =>
    match ← workersFor now (!premieres.isEmpty) .premieres with
    | none => pure {}
    | some workers =>
      let (workers, b) ← premieres.foldlM premiereStep (workers, {})
      pure (Batch.closed b workers)

/-- The course and hall of a due stream; a lookup failure is reported. -/
def resolve (s : Stream) : Op (Option (Course × Hall)) := do
  match ← courseById s.courseId with
  | .error e => report e; pure none
  | .ok c =>
    match s.hallId with
    | none => pure none
    | some h =>
      match ← hallById h with
      | .error e => report e; pure none
      | .ok hall => pure (some (c, hall))

/-- One lecture stream of a batch: a job for each configured feed. -/
def streamStep (acc : List Worker × Batch) (s : Stream) : Op (List Worker × Batch) := do
  match ← resolve s with
  | none => pure (acc.1, { acc.2 with skipped := acc.2.skipped + 1 })
  | some (c, h) =>
    Feed.all.foldlM
      (fun acc f =>
        match h.source f with
        | none => pure acc
        | some url => assign acc.1 (.stream (StreamRequest.ofStream s c f url)) acc.2)
      acc

/-- Hands the lecture streams due at `now` to workers. -/
def dispatchStreams (now : Instant) : Op Batch := do
  match ← dueStreams now with
  | .error e => report e; pure {}
  | .ok streams =>
    match ← workersFor now (!streams.isEmpty) .streams with
    | none => pure {}
    | some workers =>
      let (workers, b) ← streams.foldlM streamStep (workers, {})
      pure (Batch.closed b workers)

/-- One dispatch run: premieres first, then lecture streams. -/
def runOnce (now : Instant) : Op RunReport := do
  let premieres ← dispatchPremieres now
  let streams ← dispatchStreams now
  pure ⟨premieres, streams⟩

/-- The number of runs a dispatch loop makes while it runs for `runMs` milliseconds: one at once,
then one each time the interval has passed. -/
def loopTicks (interval : Duration) (runMs : Nat) : Nat :=
  let ns := interval.toNanos
  max 1 ((runMs * 1000000 + ns - 1) / ns)

/-- A dispatch loop run for `runMs` milliseconds, every run at `now`; a zero interval never
starts it. -/
def runLoop (interval : Duration) (runMs : Nat) (now : Instant) : Op Unit :=
  if interval.isZero then pure ()
  else (List.range (loopTicks interval runMs)).forM fun _ => discard (runOnce now)

end Node

end StreamDispatch
