import StreamDispatch.Directory.Table
import StreamDispatch.Catalog.Course
import StreamDispatch.Catalog.Hall
import StreamDispatch.Catalog.Stream
import StreamDispatch.Catalog.Worker
import StreamDispatch.Config

/-!
# The directory

The directory holds the courses, lecture halls and streams by number and the workers by id,
each table in key order with one record per key, together with the windows that decide which
streams are due and which workers are alive. Saving a record replaces the record with its
key; lookups of a missing key fail with the lookup's not-found failure, and an unknown worker
is unauthenticated.
-/

namespace StreamDispatch

open Time

/-! ## Keys -/

/-- Numbers are in a strict total order. -/
theorem nat_lt_of_not_lt (a b : Nat) (h : ¬ a < b) (hne : a ≠ b) : b < a := by omega

/-- Ids are in a strict total order. -/
theorem string_lt_of_not_lt (a b : String) (h : ¬ a < b) (hne : a ≠ b) : b < a :=
  Std.lt_of_le_of_ne (String.not_lt.1 h) (Ne.symm hne)

/-- A put keeps a table keyed by numbers. -/
theorem KeyedBy.putBy_nat {α : Type} {key : α → Nat} (x : α) {xs : List α}
    (h : KeyedBy key xs) : KeyedBy key (StreamDispatch.putBy key x xs) :=
  KeyedBy.putBy (fun _ _ _ => Nat.lt_trans) nat_lt_of_not_lt key x h

/-- A put keeps a table keyed by ids. -/
theorem KeyedBy.putBy_string {α : Type} {key : α → String} (x : α) {xs : List α}
    (h : KeyedBy key xs) : KeyedBy key (StreamDispatch.putBy key x xs) :=
  KeyedBy.putBy (fun _ _ _ => String.lt_trans) string_lt_of_not_lt key x h

/-! ## The directory -/

/-- The records the dispatcher works on, and its due windows. Each table holds one record per
key, in increasing order of keys; a directory written out proves it by deciding it. -/
structure Directory where
  courses : List Course := []
  halls : List Hall := []
  streams : List Stream := []
  workers : List Worker := []
  windows : DueWindows := {}
  courses_keyed : KeyedBy Course.id courses := by decide
  halls_keyed : KeyedBy Hall.id halls := by decide
  streams_keyed : KeyedBy Stream.id streams := by decide
  workers_keyed : KeyedBy Worker.id workers := by decide

namespace Directory

/-- The directory with a course put in. -/
def putCourse (d : Directory) (c : Course) : Directory :=
  { d with
    courses := putBy Course.id c d.courses
    courses_keyed := d.courses_keyed.putBy_nat c }

/-- The directory with a hall put in. -/
def putHall (d : Directory) (h : Hall) : Directory :=
  { d with
    halls := putBy Hall.id h d.halls
    halls_keyed := d.halls_keyed.putBy_nat h }

/-- The directory with a stream put in. -/
def putStream (d : Directory) (s : Stream) : Directory :=
  { d with
    streams := putBy Stream.id s d.streams
    streams_keyed := d.streams_keyed.putBy_nat s }

/-- The directory with a worker put in. -/
def putWorker (d : Directory) (w : Worker) : Directory :=
  { d with
    workers := putBy Worker.id w d.workers
    workers_keyed := d.workers_keyed.putBy_string w }

/-- The course with a number. -/
def course (d : Directory) (id : Nat) : Except Failure Course :=
  match findBy Course.id id d.courses with
  | some c => .ok c
  | none => .error (.courseNotFound id)

/-- The hall with a number. -/
def hall (d : Directory) (id : Nat) : Except Failure Hall :=
  match findBy Hall.id id d.halls with
  | some h => .ok h
  | none => .error (.hallNotFound id)

/-- The stream with a number. -/
def stream (d : Directory) (id : Nat) : Except Failure Stream :=
  match findBy Stream.id id d.streams with
  | some s => .ok s
  | none => .error (.streamNotFound id)

/-- The stream published with a key; the empty key names no stream. -/
def streamWithKey (d : Directory) (key : String) : Except Failure Stream :=
  if key.isEmpty then .error (.streamKeyNotFound "")
  else
    match d.streams.find? (·.key = key) with
    | some s => .ok s
    | none => .error (.streamKeyNotFound key)

/-- The worker with an id; an unknown id is unauthenticated. -/
def worker (d : Directory) (id : String) : Except Failure Worker :=
  match findBy Worker.id id d.workers with
  | some w => .ok w
  | none => .error (.unauthenticated id)

/-- Changes the stream with a number. -/
def modifyStream (d : Directory) (id : Nat) (f : Stream → Stream) : Except Failure Directory :=
  (d.stream id).map fun s => d.putStream (f s)

/-- Marks a stream as not live. -/
def setStreamNotLive (d : Directory) (id : Nat) : Except Failure Directory :=
  d.modifyStream id fun s => { s with live := false }

/-- Replaces every silence of a stream. -/
def replaceSilences (d : Directory) (id : Nat) (silences : List Silence) :
    Except Failure Directory :=
  d.modifyStream id fun s => { s with silences }

/-! ## Reading after a put -/

/-- A stream put in is found under its number; every other number finds what it found. -/
theorem stream_putStream (d : Directory) (x : Stream) (k : Nat) :
    (d.putStream x).stream k = if x.id = k then .ok x else d.stream k := by
  unfold stream putStream
  rw [findBy_putBy]
  by_cases h : x.id = k <;> simp [h]

theorem stream_putStream_self (d : Directory) (x : Stream) :
    (d.putStream x).stream x.id = .ok x := by
  simp [stream_putStream]

/-- A worker put in is found under its id; every other id finds what it found. -/
theorem worker_putWorker (d : Directory) (w : Worker) (id : String) :
    (d.putWorker w).worker id = if w.id = id then .ok w else d.worker id := by
  unfold worker putWorker
  rw [findBy_putBy]
  by_cases h : w.id = id <;> simp [h]

/-- The stream found under a number has that number. -/
theorem id_of_stream {d : Directory} {k : Nat} {s : Stream} (h : d.stream k = .ok s) :
    s.id = k := by
  unfold stream at h
  cases hf : findBy Stream.id k d.streams with
  | none =>
    rw [hf] at h
    cases h
  | some x =>
    rw [hf] at h
    cases h
    exact findBy_key hf

/-- The worker found under an id has that id. -/
theorem id_of_worker {d : Directory} {id : String} {w : Worker} (h : d.worker id = .ok w) :
    w.id = id := by
  unfold worker at h
  cases hf : findBy Worker.id id d.workers with
  | none =>
    rw [hf] at h
    cases h
  | some x =>
    rw [hf] at h
    cases h
    exact findBy_key hf

@[simp] theorem putStream_courses (d : Directory) (x : Stream) :
    (d.putStream x).courses = d.courses := rfl

@[simp] theorem putStream_halls (d : Directory) (x : Stream) : (d.putStream x).halls = d.halls :=
  rfl

@[simp] theorem putStream_workers (d : Directory) (x : Stream) :
    (d.putStream x).workers = d.workers := rfl

@[simp] theorem putStream_windows (d : Directory) (x : Stream) :
    (d.putStream x).windows = d.windows := rfl

@[simp] theorem putWorker_courses (d : Directory) (w : Worker) :
    (d.putWorker w).courses = d.courses := rfl

@[simp] theorem putWorker_halls (d : Directory) (w : Worker) : (d.putWorker w).halls = d.halls :=
  rfl

@[simp] theorem putWorker_streams (d : Directory) (w : Worker) :
    (d.putWorker w).streams = d.streams := rfl

@[simp] theorem putWorker_windows (d : Directory) (w : Worker) :
    (d.putWorker w).windows = d.windows := rfl

end Directory

end StreamDispatch
