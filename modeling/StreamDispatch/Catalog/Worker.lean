import StreamDispatch.Catalog.Codec

/-!
# Workers

A capture worker as the registry last saw it: its id and host, its workload (a signed 64-bit
count, so that adding to it wraps as the registry's arithmetic does), when it was last seen,
and the free-text status, resource and version fields of its last heartbeat.
-/

namespace StreamDispatch

open Json Time

/-- A capture worker. -/
structure Worker where
  id : String
  host : String
  workload : Int64
  lastSeen : Instant
  /-- summary of the jobs the worker runs -/
  status : String := ""
  cpu : String := ""
  memory : String := ""
  disk : String := ""
  uptime : String := ""
  version : String := ""
  deriving DecidableEq

namespace Worker

/-- A worker with empty status fields, last seen at `now`. -/
def new (id host : String) (workload : Int64) (now : Instant) : Worker :=
  { id, host, workload, lastSeen := now }

/-- How a worker is read: `id`, `host`, `workload` and `last_seen` are required. -/
def spec : RecordSpec Worker where
  name := "Worker"
  fields := [
    .of "id" .required readString fun w v => { w with id := v },
    .of "host" .required readString fun w v => { w with host := v },
    .of "workload" .required readI64 fun w v => { w with workload := Int64.ofInt v },
    .of "last_seen" .required readInstant fun w v => { w with lastSeen := v },
    .of "status" .defaulted readString fun w v => { w with status := v },
    .of "cpu" .defaulted readString fun w v => { w with cpu := v },
    .of "memory" .defaulted readString fun w v => { w with memory := v },
    .of "disk" .defaulted readString fun w v => { w with disk := v },
    .of "uptime" .defaulted readString fun w v => { w with uptime := v },
    .of "version" .defaulted readString fun w v => { w with version := v }]
  init := Worker.new "" "" 0 (Instant.ofParts 0 0 0)

/-- The record of a worker, its last sighting written by `time`. -/
def toJson (time : Instant → String) (w : Worker) : Json :=
  .record [("id", .str w.id), ("host", .str w.host), ("workload", .int w.workload.toInt),
    ("last_seen", .str (time w.lastSeen)), ("status", .str w.status), ("cpu", .str w.cpu),
    ("memory", .str w.memory), ("disk", .str w.disk), ("uptime", .str w.uptime),
    ("version", .str w.version)]

end Worker

end StreamDispatch
