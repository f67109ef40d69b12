import StreamDispatch.Directory.Basic

/-!
# Seeds

A seed is the directory's initial content, read from a JSON object whose optional `courses`,
`lecture_halls`, `streams` and `workers` arrays hold the records. When an id occurs twice the
later record wins. A seed that does not read fails as storage trouble naming the seed and the
reading error.
-/

namespace StreamDispatch

open Json

/-- The initial records of a directory. -/
structure Seed where
  courses : List Course := []
  halls : List Hall := []
  streams : List Stream := []
  workers : List Worker := []

/-- How a seed is read: every array may be absent. -/
def Seed.spec : RecordSpec Seed where
  name := "Seed"
  fields := [
    .of "courses" .defaulted (readArray Course.spec.read) fun s v => { s with courses := v },
    .of "lecture_halls" .defaulted (readArray Hall.spec.read) fun s v => { s with halls := v },
    .of "streams" .defaulted (readArray Stream.spec.read) fun s v => { s with streams := v },
    .of "workers" .defaulted (readArray Worker.spec.read) fun s v => { s with workers := v }]
  init := {}

namespace Directory

/-- The directory holding a seed's records, the last record of each id winning. -/
def ofSeed (windows : DueWindows) (seed : Seed) : Directory where
  courses := tableOf Course.id seed.courses
  halls := tableOf Hall.id seed.halls
  streams := tableOf Stream.id seed.streams
  workers := tableOf Worker.id seed.workers
  windows
  courses_keyed := KeyedBy.tableOf (fun _ _ _ => Nat.lt_trans) nat_lt_of_not_lt _ _
  halls_keyed := KeyedBy.tableOf (fun _ _ _ => Nat.lt_trans) nat_lt_of_not_lt _ _
  streams_keyed := KeyedBy.tableOf (fun _ _ _ => Nat.lt_trans) nat_lt_of_not_lt _ _
  workers_keyed := KeyedBy.tableOf (fun _ _ _ => String.lt_trans) string_lt_of_not_lt _ _

/-- The directory of a seed text read from `path`. -/
def load (windows : DueWindows) (path text : String) : Except Failure Directory :=
  match readText Seed.spec.read text with
  | .ok seed => .ok (ofSeed windows seed)
  | .error e => .error (.storage ("invalid seed " ++ path ++ ": " ++ e.message))

end Directory

end StreamDispatch
