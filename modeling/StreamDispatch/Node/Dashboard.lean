import StreamDispatch.Node.Store
import StreamDispatch.Text.Percent
import StreamDispatch.Json.Value
import StreamDispatch.Net.Uri

/-!
# The dashboard

Read-only status pages, answered for a GET of a request target, by its path (`requestPath`:
the query and the fragment are ignored, and an absolute URI counts by its path):

* `/health` answers `ok`;
* `/api/workers` lists the workers alive now, each with its id, host, workload, status, last
  sighting and version;
* `/api/streams/{id}` shows a stream's live and recording flags, playlists, files, number of
  silences and transcoding progress by feed label; the id is percent-decoded and read as a
  32-bit unsigned number, else the request is refused as a bad URL;
* any other path is not found, with an empty body.

A missing stream is not found; any other failure of the directory is a server error. Errors
are objects with an `error` member.
-/

namespace StreamDispatch

open Time Json

/-- The body of a response: JSON or plain text. -/
inductive Body where
  | json (v : Json)
  | text (s : String)

/-- A response: a status code and a body. -/
structure Response where
  status : Nat
  body : Body

/-- A 32-bit unsigned number in decimal, optionally after a plus sign. -/
def parseU32? (s : String) : Option Nat :=
  let digits := match s.toList with
    | '+' :: r => r
    | r => r
  if digits.isEmpty || !digits.all Char.isDigit then none
  else
    let v := digits.foldl (fun n d => 10 * n + (d.toNat - 48)) 0
    if v < Nat.pow 2 32 then some v else none

/-- The error object of a failure. -/
def errorBody (e : Failure) : Body := .json (.record [("error", .str e.message)])

/-- A worker as the dashboard lists it, its last sighting written by `time`. -/
def workerView (time : Instant → String) (w : Worker) : Json :=
  .record [("id", .str w.id), ("host", .str w.host), ("workload", .int w.workload.toInt),
    ("status", .str w.status), ("last_seen", .str (time w.lastSeen)), ("version", .str w.version)]

/-- A stream as the dashboard shows it. -/
def streamView (s : Stream) : Json :=
  .record [("id", .nat s.id), ("live", .bool s.live), ("recording", .bool s.recording),
    ("playlist_combined", .opt .str s.playlists.combined),
    ("playlist_presentation", .opt .str s.playlists.presentation),
    ("playlist_camera", .opt .str s.playlists.camera),
    ("files", .arr (s.files.map .str)), ("silences", .nat s.silences.length),
    ("transcoding", .arr (s.progress.byLabel.map fun (f, p) =>
      .record [("version", .str f.label), ("progress", .nat p)]))]

namespace Node

/-- The page of one stream, for the raw id segment of its path. -/
def streamPage (segment : String) : Op Response := do
  match Text.percentDecode? segment with
  | none => pure ⟨400, .text "Invalid URL: Invalid UTF-8 in `id`"⟩
  | some raw =>
    match parseU32? raw with
    | none => pure ⟨400, .text ("Invalid URL: Cannot parse `" ++ raw ++ "` to a `u32`")⟩
    | some id =>
      match ← streamById id with
      | .ok s => pure ⟨200, .json (streamView s)⟩
      | .error e@(.streamNotFound _) => pure ⟨404, errorBody e⟩
      | .error e => pure ⟨500, errorBody e⟩

/-- Answers a GET of a path at `now`, writing last sightings with `time`. -/
def dashboard (path : String) (now : Instant) (time : Instant → String) : Op Response := do
  match (Net.requestPath path).splitOn "/" with
  | ["", "health"] => pure ⟨200, .text "ok"⟩
  | ["", "api", "workers"] =>
    match ← aliveWorkers now with
    | .ok ws => pure ⟨200, .json (.arr (ws.map (workerView time)))⟩
    | .error e => pure ⟨500, errorBody e⟩
  | ["", "api", "streams", segment] =>
    if segment.isEmpty then pure ⟨404, .text ""⟩ else streamPage segment
  | _ => pure ⟨404, .text ""⟩

end Node

end StreamDispatch
