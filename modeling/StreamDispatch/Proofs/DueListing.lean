import StreamDispatch.Directory.Due
import StreamDispatch.Directory.Seed

/-!
# What the due and alive queries list

A due query tests every stored stream against its window and sorts the streams it keeps by
start, then number; the alive query keeps the workers seen within the alive threshold, in the
order of the worker table. For every keyed directory, all windows and every `now` at which the
due queries return, each query lists exactly the records that meet its condition, each once,
in strictly increasing order of its sort key. This module adds:

* `filterM_eq_ok` — a filter by a test that may fail returns only when every test returns, and
  then keeps what passed;
* `StreamDueAt`, `PremiereDueAt`, `AliveAt` — the conditions, said without the queries, and
  `StartsBefore` — the strict order of start, then number;
* `Listing xs P before l` — `l` lists the records of `xs` that satisfy `P`, once each, in
  strictly increasing order of `before`;
* `Directory.Keyed d` — each of the four tables is keyed by its records' ids, as every directory
  is, since it carries that of its tables (`Directory.keyed`);
* `due_and_alive_queries_list_exactly`.
-/

namespace StreamDispatch

open Time

/-! ## Filtering by a test that may fail -/

theorem except_bind_eq_ok {ε α β : Type} {x : Except ε α} {f : α → Except ε β} {b : β} :
    (x >>= f) = .ok b ↔ ∃ a, x = .ok a ∧ f a = .ok b := by
  cases x with
  | error e => exact ⟨fun h => (by cases h), fun ⟨_, h, _⟩ => (by cases h)⟩
  | ok a => exact ⟨fun h => ⟨a, rfl, h⟩, fun ⟨a', h, hf⟩ => by cases h; exact hf⟩

/-- A computation that may fail returns the value its optional view holds. -/
theorem Except.eq_ok_of_toOption {ε α : Type} {x : Except ε α} {a : α}
    (h : x.toOption = some a) : x = .ok a := by
  cases x with
  | error e => cases h
  | ok b => cases h; rfl

section Filter

variable {ε α : Type} {p : α → Except ε Bool}

theorem filterAuxM_eq_ok : ∀ {xs acc r : List α}, List.filterAuxM p xs acc = .ok r →
    (∀ x ∈ xs, p x = .ok ((p x).toOption.getD false)) ∧
      r = (xs.filter fun x => (p x).toOption.getD false).reverse ++ acc
  | [], acc, r, h => by
    have h' : Except.ok acc = .ok r := h
    cases h'
    simp
  | x :: xs, acc, r, h => by
    have h' : (p x >>= fun b => List.filterAuxM p xs (cond b (x :: acc) acc)) = .ok r := h
    obtain ⟨b, hx, hrest⟩ := except_bind_eq_ok.1 h'
    obtain ⟨hall, hr⟩ := filterAuxM_eq_ok hrest
    have hq : (p x).toOption.getD false = b := by rw [hx]; rfl
    refine ⟨fun y hy => ?_, ?_⟩
    · rcases List.mem_cons.1 hy with rfl | hy
      · rw [hq, hx]
      · exact hall y hy
    · cases b <;> simp [hr, hq]

/-- A filter by a test that may fail returns only when every test returns, and then keeps the
records that passed, in their order. -/
theorem filterM_eq_ok {xs l : List α} (h : xs.filterM p = .ok l) :
    ∃ q : α → Bool, (∀ x ∈ xs, p x = .ok (q x)) ∧ l = xs.filter q := by
  have h' : (List.filterAuxM p xs [] >>= fun as => pure as.reverse) = .ok l := h
  obtain ⟨r, hr, hl⟩ := except_bind_eq_ok.1 h'
  cases hl
  obtain ⟨hall, rfl⟩ := filterAuxM_eq_ok hr
  exact ⟨_, hall, by simp⟩

end Filter

/-! ## Start, then number -/

namespace Time

theorem Instant.lt_iff_ord {a b : Instant} : a < b ↔ a.ord < b.ord := Iff.rfl

theorem Instant.le_iff_ord {a b : Instant} : a ≤ b ↔ a.ord ≤ b.ord := Iff.rfl

/-- Instants at one position of the line are one instant: the second of the day and the
nanoseconds stay within their ranges. -/
theorem Instant.eq_iff_ord {a b : Instant} : a = b ↔ a.ord = b.ord := by
  refine ⟨fun h => h ▸ rfl, fun h => ?_⟩
  obtain ⟨d₁, s₁, f₁, hs₁, hf₁⟩ := a
  obtain ⟨d₂, s₂, f₂, hs₂, hf₂⟩ := b
  simp only [Instant.ord, nanosPerSec] at h hf₁ hf₂
  obtain ⟨rfl, rfl, rfl⟩ : d₁ = d₂ ∧ s₁ = s₂ ∧ f₁ = f₂ := by omega
  rfl

end Time

/-- `a` starts before `b`, or at the same instant with a lower number. -/
def StartsBefore (a b : Stream) : Prop :=
  a.start < b.start ∨ (a.start = b.start ∧ a.id < b.id)

theorem startsFirst_iff (a b : Stream) :
    Directory.startsFirst a b = true ↔
      a.start.ord < b.start.ord ∨ (a.start.ord = b.start.ord ∧ a.id ≤ b.id) := by
  simp [Directory.startsFirst, Instant.lt_iff_ord, Instant.eq_iff_ord]

theorem startsFirst_trans (a b c : Stream) (hab : Directory.startsFirst a b = true)
    (hbc : Directory.startsFirst b c = true) : Directory.startsFirst a c = true := by
  rw [startsFirst_iff] at hab hbc ⊢
  omega

theorem startsFirst_total (a b : Stream) :
    (Directory.startsFirst a b || Directory.startsFirst b a) = true := by
  rw [Bool.or_eq_true, startsFirst_iff, startsFirst_iff]
  omega

/-- Streams of different numbers, the first sorted no later than the second, are in strictly
increasing order of start, then number. -/
theorem startsBefore_of_startsFirst {a b : Stream} (h : Directory.startsFirst a b = true)
    (hne : a.id ≠ b.id) : StartsBefore a b := by
  rw [startsFirst_iff] at h
  unfold StartsBefore
  rw [Instant.lt_iff_ord, Instant.eq_iff_ord]
  omega

/-! ## Listings -/

/-- `l` lists exactly the records of `xs` that satisfy `P`, each once, in strictly increasing
order of `before`. -/
structure Listing {α : Type} (xs : List α) (P : α → Prop) (before : α → α → Prop) (l : List α) :
    Prop where
  mem_iff : ∀ x, x ∈ l ↔ x ∈ xs ∧ P x
  nodup : l.Nodup
  increasing : l.Pairwise before

/-- A listing by one condition is a listing by every condition that holds of the same
records. -/
theorem Listing.congr {α : Type} {xs l : List α} {P Q : α → Prop} {before : α → α → Prop}
    (hPQ : ∀ x, P x ↔ Q x) (h : Listing xs P before l) : Listing xs Q before l :=
  ⟨fun x => by rw [h.mem_iff, hPQ], h.nodup, h.increasing⟩

/-- A due query that returns lists, once each and by start then number, exactly the streams of
a keyed table that its test passes. -/
theorem Directory.collectDue_listing {d : Directory} (hd : KeyedBy Stream.id d.streams)
    {due : Stream → Except Overflow Bool} {l : List Stream} (h : d.collectDue due = .ok l) :
    Listing d.streams (fun s => due s = .ok true) StartsBefore l := by
  unfold Directory.collectDue at h
  cases hf : d.streams.filterM due with
  | error e =>
    rw [hf] at h
    cases h
  | ok kept =>
    rw [hf] at h
    have h' : Except.ok (kept.mergeSort Directory.startsFirst) = .ok l := h
    cases h'
    obtain ⟨q, hq, rfl⟩ := filterM_eq_ok hf
    have hperm := List.mergeSort_perm (d.streams.filter q) Directory.startsFirst
    -- the kept streams have distinct numbers, as the table has
    have hne : (List.mergeSort (d.streams.filter q) Directory.startsFirst).Pairwise
        fun a b => a.id ≠ b.id :=
      ((hd.pairwise_ne Nat.lt_irrefl).filter q).perm hperm.symm fun h => Ne.symm h
    refine ⟨fun s => ?_, ?_, ?_⟩
    · rw [List.mem_mergeSort, List.mem_filter]
      constructor
      · rintro ⟨hs, hqs⟩
        exact ⟨hs, by rw [hq s hs, hqs]⟩
      · rintro ⟨hs, hds⟩
        rw [hq s hs] at hds
        exact ⟨hs, Except.ok.inj hds⟩
    · exact hperm.nodup_iff.2 ((hd.nodup Nat.lt_irrefl).filter q)
    · exact ((List.pairwise_mergeSort startsFirst_trans startsFirst_total _).and hne).imp
        fun h => startsBefore_of_startsFirst h.1 h.2

/-- A due query whose test keeps streams already in order of start lists them in table order. -/
theorem Directory.collectDue_of_sorted {d : Directory} {due : Stream → Except Overflow Bool}
    {kept : List Stream} (h : d.streams.filterM due = .ok kept)
    (hsorted : kept.Pairwise fun a b => Directory.startsFirst a b = true) :
    d.collectDue due = .ok kept := by
  unfold Directory.collectDue
  rw [h]
  exact congrArg Except.ok (List.mergeSort_of_pairwise hsorted)

/-! ## The due and alive conditions -/

/-- A lecture stream is due at `now`: no premiere, not live, in a hall, and `now` inside its
window, which opens the stream lead before its start and stays open for the stream window. -/
def StreamDueAt (w : DueWindows) (now : Instant) (s : Stream) : Prop :=
  s.premiere = false ∧ s.live = false ∧ s.hallId.isSome = true ∧
    ∃ opens closes, s.start.minus (windowSpan w.streamLead) = .ok opens ∧
      opens.plus (windowSpan w.streamWindow) = .ok closes ∧ opens ≤ now ∧ now < closes

/-- A premiere is due at `now`: not live, and `now` from the premiere lead before its start up
to its start. -/
def PremiereDueAt (w : DueWindows) (now : Instant) (s : Stream) : Prop :=
  s.premiere = true ∧ s.live = false ∧
    ∃ opens, s.start.minus (windowSpan w.premiereLead) = .ok opens ∧ opens ≤ now ∧ now < s.start

/-- A worker is alive at `now`: last seen less than the alive threshold before. -/
def AliveAt (w : DueWindows) (now : Instant) (wk : Worker) : Prop :=
  now.since wk.lastSeen < windowSpan w.aliveThreshold

theorem DueWindows.streamDue_eq_ok_true (w : DueWindows) (now : Instant) (s : Stream) :
    w.streamDue s now = .ok true ↔ StreamDueAt w now s := by
  unfold DueWindows.streamDue StreamDueAt
  simp only [except_bind_eq_ok]
  constructor
  · rintro ⟨opens, ho, closes, hc, h⟩
    have h' := Except.ok.inj h
    simp only [Bool.and_eq_true, Bool.not_eq_true', decide_eq_true_eq] at h'
    obtain ⟨⟨⟨⟨hp, hl⟩, hh⟩, h1⟩, h2⟩ := h'
    exact ⟨hp, hl, hh, opens, closes, ho, hc, h1, h2⟩
  · rintro ⟨hp, hl, hh, opens, closes, ho, hc, h1, h2⟩
    refine ⟨opens, ho, closes, hc, ?_⟩
    show Except.ok _ = Except.ok true
    simp [hp, hl, hh, h1, h2]

theorem DueWindows.premiereDue_eq_ok_true (w : DueWindows) (now : Instant) (s : Stream) :
    w.premiereDue s now = .ok true ↔ PremiereDueAt w now s := by
  unfold DueWindows.premiereDue PremiereDueAt
  simp only [except_bind_eq_ok]
  constructor
  · rintro ⟨opens, ho, h⟩
    have h' := Except.ok.inj h
    simp only [Bool.and_eq_true, Bool.not_eq_true', decide_eq_true_eq] at h'
    obtain ⟨⟨⟨hp, hl⟩, h1⟩, h2⟩ := h'
    exact ⟨hp, hl, opens, ho, h1, h2⟩
  · rintro ⟨hp, hl, opens, ho, h1, h2⟩
    refine ⟨opens, ho, ?_⟩
    show Except.ok _ = Except.ok true
    simp [hp, hl, h1, h2]

/-! ## The queries -/

/-- The directory's tables each hold one record per id, in increasing order of ids. -/
structure Directory.Keyed (d : Directory) : Prop where
  courses : KeyedBy Course.id d.courses
  halls : KeyedBy Hall.id d.halls
  streams : KeyedBy Stream.id d.streams
  workers : KeyedBy Worker.id d.workers

/-- Every directory is keyed: it carries that of each of its tables. -/
theorem Directory.keyed (d : Directory) : d.Keyed :=
  ⟨d.courses_keyed, d.halls_keyed, d.streams_keyed, d.workers_keyed⟩

/-- **The due and alive queries list exactly the due and alive records.** For every keyed
directory, all windows and every `now` at which the due queries return: the due lecture streams
are exactly the stored streams that are no premiere, not live and in a hall, and whose window,
from the stream lead before their start for the stream window, holds `now`; the due premieres
are exactly the stored premieres that are not live and for which `now` lies from the premiere
lead before their start up to their start; each due list holds a stream once and is strictly
increasing in start, then number. The alive workers are exactly the stored workers last seen
less than the alive threshold before `now`, once each, in strictly increasing order of id. -/
theorem due_and_alive_queries_list_exactly (d : Directory) (now : Instant) (hd : d.Keyed) :
    (∀ l, d.dueStreams now = .ok l →
      Listing d.streams (StreamDueAt d.windows now) StartsBefore l) ∧
    (∀ l, d.duePremieres now = .ok l →
      Listing d.streams (PremiereDueAt d.windows now) StartsBefore l) ∧
    Listing d.workers (AliveAt d.windows now) (fun a b => a.id < b.id) (d.aliveWorkers now) := by
  refine ⟨fun l h => ?_, fun l h => ?_, ?_⟩
  · exact (Directory.collectDue_listing hd.streams h).congr
      (DueWindows.streamDue_eq_ok_true d.windows now)
  · exact (Directory.collectDue_listing hd.streams h).congr
      (DueWindows.premiereDue_eq_ok_true d.windows now)
  · -- the worker table is already in id order, one worker per id: filtering keeps both
    refine ⟨fun w => ?_, (hd.workers.nodup String.lt_irrefl).filter _,
      List.Pairwise.filter _ hd.workers⟩
    simp [Directory.aliveWorkers, AliveAt]

/-- A seed with a lecture hall, three streams and two workers, read at 10:00 on day 19786: the
lectures `5` and `7` in the hall open their windows a minute before 10:00 and at 10:00, the
premiere `8` starts half a minute after 10:00 and the lecture `3` at noon; worker `a` was seen a
minute before 10:00 and worker `b` ten minutes before. -/
def morningSeed : Seed where
  halls := [⟨1, "HS 1", "", "", "", "", 0⟩]
  streams := [
    (Stream.new 3 1 (Instant.ofParts 19786 43200 0) (Instant.ofParts 19786 48600 0)).inHall 1,
    (Stream.new 8 1 (Instant.ofParts 19786 36030 0) (Instant.ofParts 19786 39600 0)).asPremiere
      "/vod/intro.mp4",
    (Stream.new 7 1 (Instant.ofParts 19786 36600 0) (Instant.ofParts 19786 41400 0)).inHall 1,
    (Stream.new 5 1 (Instant.ofParts 19786 36540 0) (Instant.ofParts 19786 41400 0)).inHall 1]
  workers := [
    Worker.new "b" "10.0.0.2" 0 (Instant.ofParts 19786 35400 0),
    Worker.new "a" "10.0.0.1" 0 (Instant.ofParts 19786 35940 0)]

/-- At 10:00 the directory of `morningSeed` lists the lectures `5` and `7`, the premiere `8`, and
the worker `a` alone, seen within the default five minutes; each list holds exactly the records
due or alive. -/
theorem seeded_directory_lists_due_and_alive_records :
    (Directory.ofSeed {} morningSeed).dueStreams (Instant.ofParts 19786 36000 0) =
      .ok [(Stream.new 5 1 (Instant.ofParts 19786 36540 0) (Instant.ofParts 19786 41400 0)).inHall 1,
        (Stream.new 7 1 (Instant.ofParts 19786 36600 0) (Instant.ofParts 19786 41400 0)).inHall 1] ∧
    Listing (Directory.ofSeed {} morningSeed).streams (StreamDueAt {} (Instant.ofParts 19786 36000 0))
      StartsBefore
      [(Stream.new 5 1 (Instant.ofParts 19786 36540 0) (Instant.ofParts 19786 41400 0)).inHall 1,
        (Stream.new 7 1 (Instant.ofParts 19786 36600 0) (Instant.ofParts 19786 41400 0)).inHall 1] ∧
    (Directory.ofSeed {} morningSeed).duePremieres (Instant.ofParts 19786 36000 0) =
      .ok [(Stream.new 8 1 (Instant.ofParts 19786 36030 0) (Instant.ofParts 19786 39600 0)).asPremiere
        "/vod/intro.mp4"] ∧
    Listing (Directory.ofSeed {} morningSeed).streams
      (PremiereDueAt {} (Instant.ofParts 19786 36000 0)) StartsBefore
      [(Stream.new 8 1 (Instant.ofParts 19786 36030 0) (Instant.ofParts 19786 39600 0)).asPremiere
        "/vod/intro.mp4"] ∧
    (Directory.ofSeed {} morningSeed).aliveWorkers (Instant.ofParts 19786 36000 0) =
      [Worker.new "a" "10.0.0.1" 0 (Instant.ofParts 19786 35940 0)] ∧
    Listing (Directory.ofSeed {} morningSeed).workers (AliveAt {} (Instant.ofParts 19786 36000 0))
      (fun a b => a.id < b.id) [Worker.new "a" "10.0.0.1" 0 (Instant.ofParts 19786 35940 0)] := by
  have h := due_and_alive_queries_list_exactly (Directory.ofSeed {} morningSeed)
    (Instant.ofParts 19786 36000 0) (Directory.keyed _)
  refine ⟨?due, h.1 _ ?due, ?premieres, h.2.1 _ ?premieres, ?alive, ?alive ▸ h.2.2⟩
  -- each due query keeps, in number order, streams that are already in order of start
  case due =>
    exact Directory.collectDue_of_sorted (Except.eq_ok_of_toOption (by decide +kernel)) (by decide)
  case premieres =>
    exact Directory.collectDue_of_sorted (Except.eq_ok_of_toOption (by decide +kernel)) (by decide)
  case alive => decide +kernel

end StreamDispatch
