import StreamDispatch.Directory.Seed
import StreamDispatch.Proofs.LastWrite
import StreamDispatch.Json.Parse

/-!
# Loading a seed

A directory is loaded from a seed text. The text is read as a seed, whose four tables are lists
of records, and each table of the directory keeps one record per id: the last one the seed
gives. A text that does not read as a seed fails as storage trouble naming the seed and the
reading error, and builds no directory. A seed reads as records do: as an object whose keys
name its tables, each of them optional, or as an array of its tables in field order, the
trailing ones optional.

* `LastPerKey key xs t` — `t` holds, for each key of `xs`, the last record of `xs` with that
  key, once, and nothing else; a table built from `xs` does (`LastPerKey.tableOf`);
* `AnswersLast lookup notFound key xs` — a lookup answers with the last record of `xs` with the
  key it is given, and with its not-found failure when no record has the key;
* `Directory.HoldsSeed d seed` — the four tables and the four lookups by id of `d` stand so to
  the seed's lists; `seed_load_keeps_last_record_per_id`: loading a text builds such a
  directory exactly when the text reads as a seed, and fails with the reading error otherwise;
* `array_seed_text_loads` — the text `[]`, an array and no object, loads: as the empty
  directory.
-/

namespace StreamDispatch

open Json

/-! ## Tables that keep the last record of each key -/

section Last

variable {α κ : Type} [DecidableEq κ]

/-- `t` holds the last record of `xs` of each key, each key once, and nothing else. -/
structure LastPerKey (key : α → κ) (xs t : List α) : Prop where
  nodup : (t.map key).Nodup
  mem_iff : ∀ x, x ∈ t ↔ findBy key (key x) xs.reverse = some x

/-- A record of a table whose keys differ is found under its own key. -/
theorem findBy_of_mem {key : α → κ} {x : α} :
    ∀ {t : List α}, t.Pairwise (fun a b => key a ≠ key b) → x ∈ t →
      findBy key (key x) t = some x
  | [], _, hx => absurd hx List.not_mem_nil
  | y :: ys, hp, hx => by
    obtain ⟨hy, hys⟩ := List.pairwise_cons.1 hp
    rcases List.mem_cons.1 hx with rfl | hx
    · simp [findBy]
    · -- `y` comes first, but under another key
      have hne : key y ≠ key x := hy x hx
      simp only [findBy, List.find?_cons, hne, decide_false]
      exact findBy_of_mem hys hx

/-- A table built from a list, keyed in a strict order, keeps the last record of each key. -/
theorem LastPerKey.tableOf [LT κ] [DecidableRel (α := κ) (· < ·)] (hirrefl : ∀ a : κ, ¬ a < a)
    {key : α → κ} {xs : List α} (h : KeyedBy key (tableOf key xs)) :
    LastPerKey key xs (tableOf key xs) where
  nodup := List.pairwise_map.2 (h.pairwise_ne hirrefl)
  mem_iff x := by
    rw [← findBy_tableOf key (key x) xs]
    exact ⟨findBy_of_mem (h.pairwise_ne hirrefl), List.mem_of_find?_eq_some⟩

/-- A lookup answers from the records `xs`, the last record of each key winning, and fails with
`notFound k` exactly when no record has the key `k`. -/
structure AnswersLast (lookup : κ → Except Failure α) (notFound : κ → Failure) (key : α → κ)
    (xs : List α) : Prop where
  ok_iff : ∀ k x, lookup k = .ok x ↔ findBy key k xs.reverse = some x
  error_iff : ∀ k, lookup k = .error (notFound k) ↔ ∀ x ∈ xs, key x ≠ k

/-- A lookup that answers with the last record of a key, and with `notFound` when there is
none, answers from the last records. -/
theorem AnswersLast.of_findBy {lookup : κ → Except Failure α} {notFound : κ → Failure}
    {key : α → κ} {xs : List α}
    (hsome : ∀ k x, findBy key k xs.reverse = some x → lookup k = .ok x)
    (hnone : ∀ k, findBy key k xs.reverse = none → lookup k = .error (notFound k)) :
    AnswersLast lookup notFound key xs where
  ok_iff k x := by
    refine ⟨fun h => ?_, hsome k x⟩
    cases hf : findBy key k xs.reverse with
    | none => rw [hnone k hf] at h; cases h
    | some y => rw [hsome k y hf] at h; cases h; rfl
  error_iff k := by
    -- no record has the key exactly when the search from the last record finds none
    have hnone_iff : findBy key k xs.reverse = none ↔ ∀ x ∈ xs, key x ≠ k := by
      simp [findBy, List.find?_eq_none]
    rw [← hnone_iff]
    refine ⟨fun h => ?_, hnone k⟩
    cases hf : findBy key k xs.reverse with
    | none => rfl
    | some y => rw [hsome k y hf] at h; cases h

end Last

/-! ## The directory of a seed -/

/-- The tables of `d` keep the last record of each id of `seed`, and its lookups by id answer
from them. -/
structure Directory.HoldsSeed (d : Directory) (seed : Seed) : Prop where
  courses : LastPerKey Course.id seed.courses d.courses
  halls : LastPerKey Hall.id seed.halls d.halls
  streams : LastPerKey Stream.id seed.streams d.streams
  workers : LastPerKey Worker.id seed.workers d.workers
  course : AnswersLast d.course .courseNotFound Course.id seed.courses
  hall : AnswersLast d.hall .hallNotFound Hall.id seed.halls
  stream : AnswersLast d.stream .streamNotFound Stream.id seed.streams
  worker : AnswersLast d.worker .unauthenticated Worker.id seed.workers

namespace Directory

/-- The directory of a seed keeps the last record of each id. -/
theorem holdsSeed_ofSeed (windows : DueWindows) (seed : Seed) : (ofSeed windows seed).HoldsSeed seed where
  courses := LastPerKey.tableOf Nat.lt_irrefl (ofSeed windows seed).courses_keyed
  halls := LastPerKey.tableOf Nat.lt_irrefl (ofSeed windows seed).halls_keyed
  streams := LastPerKey.tableOf Nat.lt_irrefl (ofSeed windows seed).streams_keyed
  workers := LastPerKey.tableOf String.lt_irrefl (ofSeed windows seed).workers_keyed
  course := .of_findBy (fun k x h => by simp [course, ofSeed, findBy_tableOf, h])
    (fun k h => by simp [course, ofSeed, findBy_tableOf, h])
  hall := .of_findBy (fun k x h => by simp [hall, ofSeed, findBy_tableOf, h])
    (fun k h => by simp [hall, ofSeed, findBy_tableOf, h])
  stream := .of_findBy (fun k x h => by simp [stream, ofSeed, findBy_tableOf, h])
    (fun k h => by simp [stream, ofSeed, findBy_tableOf, h])
  worker := .of_findBy (fun k x h => by simp [worker, ofSeed, findBy_tableOf, h])
    (fun k h => by simp [worker, ofSeed, findBy_tableOf, h])

variable {windows : DueWindows} {path text : String}

theorem load_eq_ok_iff {d : Directory} :
    load windows path text = .ok d ↔
      ∃ seed, readText Seed.spec.read text = .ok seed ∧ d = ofSeed windows seed := by
  unfold load
  cases readText Seed.spec.read text <;> simp [eq_comm]

theorem load_eq_error_iff {f : Failure} :
    load windows path text = .error f ↔
      ∃ e, readText Seed.spec.read text = .error e ∧
        f = .storage ("invalid seed " ++ path ++ ": " ++ e.message) := by
  unfold load
  cases readText Seed.spec.read text <;> simp [eq_comm]

end Directory

/-- **Loading a seed keeps the last record of each id.** Loading a text builds a directory
exactly when the text reads as a seed, and the directory is then the seed's; otherwise it fails
with storage trouble naming the seed and the reading error. The directory of every seed holds,
in each of its four tables, the last record the seed gives for each id, each id once and
nothing else, and each lookup by id answers with that record, or with its not-found failure
when the seed gives no record with the id. -/
theorem seed_load_keeps_last_record_per_id (windows : DueWindows) (path text : String) :
    (∀ d, Directory.load windows path text = .ok d ↔
      ∃ seed, readText Seed.spec.read text = .ok seed ∧ d = Directory.ofSeed windows seed) ∧
    (∀ f, Directory.load windows path text = .error f ↔
      ∃ e, readText Seed.spec.read text = .error e ∧
        f = .storage ("invalid seed " ++ path ++ ": " ++ e.message)) ∧
    ∀ seed, (Directory.ofSeed windows seed).HoldsSeed seed :=
  ⟨fun _ => Directory.load_eq_ok_iff, fun _ => Directory.load_eq_error_iff,
    Directory.holdsSeed_ofSeed windows⟩

/-- The text `[]` reads as an array, which no object is, and yet it loads: a seed may be written
as the array of its tables in field order, all of them optional. -/
theorem array_seed_text_loads :
    (∀ fields, Json.parse "[]" ≠ .ok (.obj fields)) ∧
      Directory.load {} "SEED" "[]" = .ok (Directory.ofSeed {} {}) := by
  have harray : Json.parse "[]" = .ok (.arr []) := by
    unfold Json.parse parseValue parseItems
    rfl
  refine ⟨fun fields h => ?_, rfl⟩
  rw [harray] at h
  cases h

end StreamDispatch
