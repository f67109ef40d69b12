import StreamDispatch.Catalog.Codec

/-!
# Streams

A stream is one scheduled lecture or premiere of a course: its time window, the hall it is
captured in (none for a premiere), the key a self-streaming client publishes with, and its
runtime state — whether it is live or being recorded, the playlist last reported for each feed,
the recorded files, the silences found in it and the transcoding progress of each feed.

A new stream has no hall, key, files or state; `inHall`, `withKey` and `asPremiere` add them.
Records are read with id, course, start and end required and everything else defaulted.
-/

namespace StreamDispatch

open Json Time

/-- A silent stretch of a recording, in seconds from its start. -/
structure Silence where
  start : Nat
  finish : Nat
  deriving Repr, DecidableEq, BEq

/-- A scheduled stream and its runtime state. -/
structure Stream where
  id : Nat
  courseId : Nat
  hallId : Option Nat := none
  start : Instant
  finish : Instant
  /-- the key a self-streaming client publishes with -/
  key : String := ""
  premiere : Bool := false
  live : Bool := false
  recording : Bool := false
  /-- the playlist last reported for each feed -/
  playlists : PerFeed String := {}
  files : List String := []
  silences : List Silence := []
  /-- transcoding progress in percent, per feed -/
  progress : PerFeed Nat := {}
  deriving DecidableEq

namespace Stream

/-- A stream with no hall, key, files or state. -/
def new (id courseId : Nat) (start finish : Instant) : Stream :=
  { id, courseId, start, finish }

/-- The stream captured in a hall. -/
def inHall (s : Stream) (hall : Nat) : Stream := { s with hallId := some hall }

/-- The stream published with a key. -/
def withKey (s : Stream) (key : String) : Stream := { s with key }

/-- The stream as a premiere of a file, which is added to its files. -/
def asPremiere (s : Stream) (path : String) : Stream :=
  { s with premiere := true, files := s.files ++ [path] }

/-! ## Reading -/

/-- How the playlists are read: each slot may be absent or null. -/
def playlistsSpec : RecordSpec (PerFeed String) where
  name := "Playlists"
  fields := [
    .of "combined" .optional (readOption readString) fun p v => { p with combined := v },
    .of "presentation" .optional (readOption readString) fun p v => { p with presentation := v },
    .of "camera" .optional (readOption readString) fun p v => { p with camera := v }]
  init := {}

/-- How a file is read: a record with its path. -/
def fileSpec : RecordSpec String where
  name := "StreamFile"
  fields := [.of "path" .required readString fun _ v => v]
  init := ""

/-- How a silence is read: its start and end. -/
def silenceSpec : RecordSpec Silence where
  name := "Silence"
  fields := [
    .of "start" .required readU32 fun s v => { s with start := v },
    .of "end" .required readU32 fun s v => { s with finish := v }]
  init := ⟨0, 0⟩

/-- Transcoding progress: an object from feed labels to percentages, a later label winning. -/
def readProgress : Reader (PerFeed Nat) := fun c =>
  (readObject feedOfLabel readU32 c).map fun (members, d) =>
    (members.foldl (fun p (f, v) => p.set f v) {}, d)

/-- How a stream is read: `id`, `course_id`, `start` and `end` are required. -/
def spec : RecordSpec Stream where
  name := "Stream"
  fields := [
    .of "id" .required readU32 fun s v => { s with id := v },
    .of "course_id" .required readU32 fun s v => { s with courseId := v },
    .of "lecture_hall_id" .defaulted (readOption readU32) fun s v => { s with hallId := v },
    .of "start" .required readInstant fun s v => { s with start := v },
    .of "end" .required readInstant fun s v => { s with finish := v },
    .of "stream_key" .defaulted readString fun s v => { s with key := v },
    .of "premiere" .defaulted readBool fun s v => { s with premiere := v },
    .of "live_now" .defaulted readBool fun s v => { s with live := v },
    .of "recording" .defaulted readBool fun s v => { s with recording := v },
    .of "playlists" .defaulted playlistsSpec.read fun s v => { s with playlists := v },
    .of "files" .defaulted (readArray fileSpec.read) fun s v => { s with files := v },
    .of "silences" .defaulted (readArray silenceSpec.read) fun s v => { s with silences := v },
    .of "transcoding_progress" .defaulted readProgress fun s v => { s with progress := v }]
  init := Stream.new 0 0 (Instant.ofParts 0 0 0) (Instant.ofParts 0 0 0)

/-! ## Writing -/

/-- The playlists as an object of three slots. -/
def playlistsJson (p : PerFeed String) : Json :=
  .record [("combined", .opt .str p.combined), ("presentation", .opt .str p.presentation),
    ("camera", .opt .str p.camera)]

/-- The record of a stream: silences as pairs, progress as label–percent pairs in label
order. -/
def toJson (s : Stream) : Json :=
  .record [("id", .nat s.id), ("course_id", .nat s.courseId),
    ("lecture_hall_id", .opt .nat s.hallId), ("start", .str s.start.toText),
    ("end", .str s.finish.toText), ("stream_key", .str s.key), ("premiere", .bool s.premiere),
    ("live_now", .bool s.live), ("recording", .bool s.recording),
    ("playlists", playlistsJson s.playlists), ("files", .arr (s.files.map .str)),
    ("silences", .arr (s.silences.map fun x => .arr [.nat x.start, .nat x.finish])),
    ("transcoding_progress",
      .arr (s.progress.byLabel.map fun (f, v) => .arr [.str f.label, .nat v]))]

end Stream

end StreamDispatch
