import StreamDispatch.Node.Events
import StreamDispatch.Node.Schedule
import StreamDispatch.Node.Dashboard

/-!
# JSON views

How the node's records and reports are written as JSON: the directory's tables, batch
reports, the requests sent to workers, and the answers of worker calls. Instants are written
by a given function, so that callers choose how times appear.
-/

namespace StreamDispatch

open Json Time

/-- The directory's tables: courses, halls and streams by number, workers by id. -/
def Directory.toJson (d : Directory) (time : Instant → String) : Json :=
  .record [("courses", .arr (d.courses.map Course.toJson)),
    ("lecture_halls", .arr (d.halls.map Hall.toJson)),
    ("streams", .arr (d.streams.map Stream.toJson)),
    ("workers", .arr (d.workers.map (Worker.toJson time)))]

/-- An assignment. -/
def Assignment.toJson (a : Assignment) : Json :=
  .record [("job_id", .str a.jobId), ("stream_id", .nat a.streamId),
    ("source", .opt (fun (f : Feed) => .str f.label) a.source), ("worker_id", .str a.workerId)]

/-- A batch report. -/
def Batch.toJson (b : Batch) : Json :=
  .record [("assigned", .arr (b.assigned.map Assignment.toJson)),
    ("failed", .arr (b.failed.map Assignment.toJson)), ("skipped", .nat b.skipped),
    ("workloads", .arr (b.workloads.map fun (w, l) => .arr [.str w, .int l.toInt]))]

/-- A run report. -/
def RunReport.toJson (r : RunReport) : Json :=
  .record [("premieres", r.premieres.toJson), ("streams", r.streams.toJson)]

/-- An assignment as a one-off dispatch prints it. -/
def Assignment.summary (a : Assignment) : Json :=
  .obj [("job_id", .str a.jobId), ("stream_id", .nat a.streamId),
    ("source", .opt (fun (f : Feed) => .str f.label) a.source), ("worker_id", .str a.workerId)]

/-- A batch as a one-off dispatch prints it: without the workloads. -/
def Batch.summary (b : Batch) : Json :=
  .obj [("assigned", .arr (b.assigned.map Assignment.summary)),
    ("failed", .arr (b.failed.map Assignment.summary)), ("skipped", .nat b.skipped)]

/-- A run report as a one-off dispatch prints it. -/
def RunReport.summary (r : RunReport) : Json :=
  .obj [("premieres", r.premieres.summary), ("streams", r.streams.summary)]

/-- The request a job sends. -/
def Job.request : Job → Json
  | .stream r =>
    .record [("job_id", .str r.jobId), ("worker_id", .str r.workerId),
      ("stream_id", .nat r.streamId), ("source_type", .str r.feed.label),
      ("source_url", .str r.sourceUrl), ("course_slug", .str r.courseSlug),
      ("course_term", .str r.courseTerm), ("course_year", .nat r.courseYear),
      ("start_ms", .int r.startMs), ("end_ms", .int r.endMs),
      ("publish_stream", .bool r.publishStream), ("publish_vod", .bool r.publishVod)]
  | .premiere r =>
    .record [("job_id", .str r.jobId), ("worker_id", .str r.workerId),
      ("stream_id", .nat r.streamId), ("file_path", .str r.filePath)]

/-- A call to a worker: its kind, the worker and its host, and the request. -/
def Call.toJson (c : Call) : Json :=
  .record [("kind", .str (match c.job with | .stream _ => "stream" | .premiere _ => "premiere")),
    ("worker", .str c.worker.id), ("host", .str c.worker.host), ("request", c.job.request)]

/-- A self-stream grant. -/
def SelfStreamGrant.toJson (g : SelfStreamGrant) : Json :=
  .record [("stream_id", .nat g.streamId), ("course_slug", .str g.courseSlug),
    ("course_term", .str g.courseTerm), ("course_year", .nat g.courseYear),
    ("stream_start_ms", .int g.streamStartMs), ("upload_vod", .bool g.uploadVod)]

/-- A dashboard response: its status and body, a text body as a string. -/
def Response.toJson (r : Response) : Json :=
  .record [("status", .nat r.status),
    ("body", match r.body with | .json v => v | .text s => .str s)]

end StreamDispatch
