import StreamDispatch.Proofs.CallEffects
import StreamDispatch.Proofs.WindowOverflow

/-!
# Self-streaming

A worker asks to publish a stream under its key. Once the worker is known and the key names a
stream, the request is granted exactly when its publishing window, the stream's start less the
tolerance to its end plus the tolerance, both bounds excluded, holds the request's time and the
stream's course is known; the grant carries the stream's number and start and the course's
slug, term, year and recording flag. The tolerance is the configured one, capped at 366 days and
cut to whole milliseconds (`windowSpan`).

A longer tolerance only widens the window, so a request granted under one tolerance is granted
under every longer one whose bounds stay on the clock. A request only reads: whatever it
answers, and when it halts, the node is as it was.
-/

namespace StreamDispatch

open Time

/-! ## The publishing window -/

section Window

variable {s : Stream} {now : Instant} {tol : Span}

/-- The window holds `now` exactly when both bounds are on the clock and `now` lies strictly
between them. -/
theorem withinPublishWindow_eq_true_iff :
    withinPublishWindow s now tol = .ok true ↔
      ∃ opens closes, s.start.minus tol = .ok opens ∧ s.finish.plus tol = .ok closes ∧
        opens < now ∧ now < closes := by
  unfold withinPublishWindow
  cases hm : s.start.minus tol with
  | error o =>
    constructor
    · intro h
      cases h
    · rintro ⟨_, _, h, _⟩
      cases h
  | ok opens =>
    show (if opens < now then (s.finish.plus tol >>= fun closes => pure (decide (now < closes)))
      else pure false) = .ok true ↔ _
    by_cases hlt : opens < now
    · rw [if_pos hlt]
      cases hp : s.finish.plus tol with
      | error o =>
        constructor
        · intro h
          cases h
        · rintro ⟨_, _, _, h, _⟩
          cases h
      | ok closes =>
        show Except.ok (decide (now < closes)) = .ok true ↔ _
        constructor
        · intro h
          exact ⟨opens, closes, rfl, rfl, hlt, of_decide_eq_true (Except.ok.inj h)⟩
        · rintro ⟨_, _, ⟨⟩, ⟨⟩, _, hnow⟩
          rw [decide_eq_true hnow]
    · -- before the opening the window is shut, and its end is never computed
      rw [if_neg hlt]
      constructor
      · intro h
        cases h
      · rintro ⟨_, _, ⟨⟩, _, h, _⟩
        exact absurd h hlt

/-- **A longer tolerance only widens the window.** A window that holds `now` under the
tolerance `d` holds it under every longer tolerance whose bounds stay on the clock. -/
theorem withinPublishWindow_mono {d d' : Duration} (hd : d ≤ d')
    (hopens : ∃ opens, s.start.minus (windowSpan d') = .ok opens)
    (hcloses : ∃ closes, s.finish.plus (windowSpan d') = .ok closes)
    (h : withinPublishWindow s now (windowSpan d) = .ok true) :
    withinPublishWindow s now (windowSpan d') = .ok true := by
  obtain ⟨opens, closes, hm, hp, hlo, hhi⟩ := withinPublishWindow_eq_true_iff.1 h
  obtain ⟨opens', hm'⟩ := hopens
  obtain ⟨closes', hp'⟩ := hcloses
  have hspan := windowSpan_mono hd
  have hlo' : opens'.ord ≤ opens.ord :=
    Instant.minus_antitone (windowSpan_nonneg d) hspan hm hm'
  have hhi' : closes.ord ≤ closes'.ord :=
    Instant.plus_monotone (windowSpan_nonneg d) hspan hp hp'
  refine withinPublishWindow_eq_true_iff.2 ⟨opens', closes', hm', hp', ?_, ?_⟩
  · show opens'.ord < now.ord
    exact Int.lt_of_le_of_lt hlo' hlo
  · show now.ord < closes'.ord
    exact Int.lt_of_lt_of_le hhi hhi'

end Window

namespace Node

/-! ## A request, step by step -/

section Request

variable {w key : String} {now : Instant} {n : Node}

theorem selfStream_run_unknown {e : Failure} (hw : n.lookup .workerById (·.worker w) = .error e) :
    (selfStream w key now).run n = .ok (.error e) n := by
  rw [selfStream, run_bind, discard_eq_bind, run_bind, authenticate_run, hw]

theorem selfStream_run_no_key {wk : Worker} {e : Failure}
    (hw : n.lookup .workerById (·.worker w) = .ok wk)
    (hs : n.lookup .streamByKey (·.streamWithKey key) = .error e) :
    (selfStream w key now).run n = .ok (.error e) n := by
  rw [selfStream, run_bind, discard_eq_bind, run_bind, authenticate_run, hw]
  show (must (streamByKey key) >>= _).run n = _
  rw [run_bind, run_must, streamByKey, read_run, hs]

/-- Once the worker is known and the key names a stream, the request answers as the stream's
publishing window says: a window off the clock halts it, a shut window refuses it, and an open
one grants it when the stream's course is known. -/
theorem selfStream_run_found {wk : Worker} {s : Stream}
    (hw : n.lookup .workerById (·.worker w) = .ok wk)
    (hs : n.lookup .streamByKey (·.streamWithKey key) = .ok s) :
    (selfStream w key now).run n =
      match withinPublishWindow s now (windowSpan n.settings.selfStreamTolerance) with
      | .error o => .error ⟨o.message⟩ n
      | .ok false => .ok (.error (.outsideWindow s.id)) n
      | .ok true =>
        match n.lookup .courseById (·.course s.courseId) with
        | .ok c => .ok (.ok ⟨s.id, c.slug, c.term, c.year, s.start.unixMillis, c.vodEnabled⟩) n
        | .error e => .ok (.error e) n := by
  rw [selfStream, run_bind, discard_eq_bind, run_bind, authenticate_run, hw]
  show (must (streamByKey key) >>= _).run n = _
  rw [run_bind, run_must, streamByKey, read_run, hs]
  show ((get : Answer Node) >>= _).run n = _
  rw [run_bind, run_get]
  dsimp only
  cases withinPublishWindow s now (windowSpan n.settings.selfStreamTolerance) with
  | error o => rfl
  | ok b =>
    cases b with
    | false => rfl
    | true =>
      show (must (courseById s.courseId) >>= _).run n = _
      rw [run_bind, run_must, courseById, read_run]
      cases n.lookup .courseById (·.course s.courseId) <;> rfl

/-- Once the worker is known and the key names a stream, the request is granted exactly when
the window holds the request's time and the course is known, and the grant is read off the
stream and its course. -/
theorem selfStream_eq_ok_iff {wk : Worker} {s : Stream} {g : SelfStreamGrant} {n' : Node}
    (hw : n.lookup .workerById (·.worker w) = .ok wk)
    (hs : n.lookup .streamByKey (·.streamWithKey key) = .ok s) :
    (selfStream w key now).run n = .ok (.ok g) n' ↔
      withinPublishWindow s now (windowSpan n.settings.selfStreamTolerance) = .ok true ∧
      ∃ c, n.lookup .courseById (·.course s.courseId) = .ok c ∧
        g = ⟨s.id, c.slug, c.term, c.year, s.start.unixMillis, c.vodEnabled⟩ ∧ n' = n := by
  rw [selfStream_run_found hw hs]
  cases hwin : withinPublishWindow s now (windowSpan n.settings.selfStreamTolerance) with
  | error o =>
    refine ⟨fun h => (nomatch h), ?_⟩
    rintro ⟨h, _⟩
    cases h
  | ok b =>
    cases b with
    | false =>
      refine ⟨fun h => (nomatch h), ?_⟩
      rintro ⟨h, _⟩
      cases h
    | true =>
      cases hc : n.lookup .courseById (·.course s.courseId) with
      | error e =>
        refine ⟨fun h => (nomatch h), ?_⟩
        rintro ⟨-, c, h, _⟩
        cases h
      | ok c =>
        constructor
        · intro h
          cases h
          exact ⟨rfl, c, rfl, rfl, rfl⟩
        · rintro ⟨-, c', hc', rfl, rfl⟩
          cases hc'
          rfl

/-- A request only reads: whatever it answers, and when it halts, the node is as it was. -/
theorem selfStream_keeps_node (w key : String) (now : Instant) (n : Node) :
    (∃ r, (selfStream w key now).run n = .ok r n) ∨
      ∃ p, (selfStream w key now).run n = .error p n := by
  cases hw : n.lookup .workerById (·.worker w) with
  | error e => exact .inl ⟨_, selfStream_run_unknown hw⟩
  | ok wk =>
    cases hs : n.lookup .streamByKey (·.streamWithKey key) with
    | error e => exact .inl ⟨_, selfStream_run_no_key hw hs⟩
    | ok s =>
      rw [selfStream_run_found hw hs]
      cases withinPublishWindow s now (windowSpan n.settings.selfStreamTolerance) with
      | error o => exact .inr ⟨_, rfl⟩
      | ok b =>
        cases b with
        | false => exact .inl ⟨_, rfl⟩
        | true =>
          cases n.lookup .courseById (·.course s.courseId) with
          | error e => exact .inl ⟨_, rfl⟩
          | ok c => exact .inl ⟨_, rfl⟩

/-- A granted request reached its window: the worker is known and the key names a stream. -/
theorem selfStream_found_of_eq_ok {g : SelfStreamGrant} {n' : Node}
    (h : (selfStream w key now).run n = .ok (.ok g) n') :
    ∃ wk s, n.lookup .workerById (·.worker w) = .ok wk ∧
      n.lookup .streamByKey (·.streamWithKey key) = .ok s := by
  cases hw : n.lookup .workerById (·.worker w) with
  | error e =>
    rw [selfStream_run_unknown hw] at h
    cases h
  | ok wk =>
    cases hs : n.lookup .streamByKey (·.streamWithKey key) with
    | error e =>
      rw [selfStream_run_no_key hw hs] at h
      cases h
    | ok s => exact ⟨wk, s, rfl, rfl⟩

end Request

/-- The node with another self-stream tolerance. -/
def withSelfStreamTolerance (n : Node) (d : Duration) : Node :=
  { n with settings := { n.settings with selfStreamTolerance := d } }

/-- A request granted under one tolerance is granted, with the same grant, under every longer
tolerance whose bounds stay on the clock. -/
theorem selfStream_mono {w key : String} {now : Instant} {n n' : Node} {g : SelfStreamGrant}
    {d : Duration} (hd : n.settings.selfStreamTolerance ≤ d)
    (hbounds : ∀ s, n.lookup .streamByKey (·.streamWithKey key) = .ok s →
      (∃ opens, s.start.minus (windowSpan d) = .ok opens) ∧
        ∃ closes, s.finish.plus (windowSpan d) = .ok closes)
    (h : (selfStream w key now).run n = .ok (.ok g) n') :
    (selfStream w key now).run (n.withSelfStreamTolerance d) =
      .ok (.ok g) (n.withSelfStreamTolerance d) := by
  obtain ⟨wk, s, hw, hs⟩ := selfStream_found_of_eq_ok h
  obtain ⟨hwin, c, hc, rfl, -⟩ := (selfStream_eq_ok_iff hw hs).1 h
  obtain ⟨hopens, hcloses⟩ := hbounds s hs
  -- the tolerance is a setting: the lookups read the same directory through the same faults
  exact (selfStream_eq_ok_iff (n := n.withSelfStreamTolerance d) hw hs).2
    ⟨withinPublishWindow_mono hd hopens hcloses hwin, c, hc, rfl, rfl⟩

end Node

/-! ## Self-streaming -/

/-- **A self-stream request is granted exactly inside its window.** Once the worker is known and
the key names a stream, the request is granted exactly when the stream's start less the window
span and its end plus the window span are on the clock, the request's time lies strictly
between them, and the stream's course is known; the grant carries the stream's number, the
course's slug, term and year, the stream's start in Unix milliseconds and the course's recording
flag. A request granted under the configured tolerance is granted, with the same grant, under
every longer tolerance whose bounds stay on the clock, and no request changes the node. -/
theorem self_stream_granted_exactly_inside_window :
    (∀ (n : Node) (w key : String) (now : Instant) (wk : Worker) (s : Stream),
      n.lookup .workerById (·.worker w) = .ok wk →
      n.lookup .streamByKey (·.streamWithKey key) = .ok s →
      ∀ g n', (Node.selfStream w key now).run n = .ok (.ok g) n' ↔
        (∃ opens closes,
          s.start.minus (windowSpan n.settings.selfStreamTolerance) = .ok opens ∧
          s.finish.plus (windowSpan n.settings.selfStreamTolerance) = .ok closes ∧
          opens < now ∧ now < closes) ∧
        ∃ c, n.lookup .courseById (·.course s.courseId) = .ok c ∧
          g = ⟨s.id, c.slug, c.term, c.year, s.start.unixMillis, c.vodEnabled⟩ ∧ n' = n) ∧
    (∀ (n n' : Node) (w key : String) (now : Instant) (g : SelfStreamGrant) (d : Duration),
      n.settings.selfStreamTolerance ≤ d →
      (∀ s, n.lookup .streamByKey (·.streamWithKey key) = .ok s →
        (∃ opens, s.start.minus (windowSpan d) = .ok opens) ∧
          ∃ closes, s.finish.plus (windowSpan d) = .ok closes) →
      (Node.selfStream w key now).run n = .ok (.ok g) n' →
      (Node.selfStream w key now).run (n.withSelfStreamTolerance d) =
        .ok (.ok g) (n.withSelfStreamTolerance d)) ∧
    (∀ (w key : String) (now : Instant) (n : Node),
      (∃ r, (Node.selfStream w key now).run n = .ok r n) ∨
        ∃ p, (Node.selfStream w key now).run n = .error p n) := by
  refine ⟨fun n w key now wk s hw hs g n' => ?_, fun _ _ _ _ _ _ _ hd hbounds h =>
    Node.selfStream_mono hd hbounds h, Node.selfStream_keeps_node⟩
  rw [Node.selfStream_eq_ok_iff hw hs, withinPublishWindow_eq_true_iff]

/-- A request a quarter of an hour before a stream starts is inside the half-hour window, and so
inside a two-hour one. -/
theorem early_request_granted_under_longer_tolerance :
    (Node.selfStream "w1" "k" (Instant.ofParts 0 35100 0)).run
        (Node.withSelfStreamTolerance
          { directory :=
              { courses := [⟨1, "cs", 2024, "W", false, true⟩]
                streams := [{ Stream.new 7 1 (Instant.ofParts 0 36000 0) (Instant.ofParts 0 39600 0)
                  with key := "k" }]
                workers := [Worker.new "w1" "h1" 0 (Instant.ofParts 0 0 0)] }
            workerIdOf := fun _ => ""
            jobIdOf := fun _ => "" } (.ofSecs 7200)) =
      .ok (.ok ⟨7, "cs", "W", 2024, 36000000, true⟩)
        (Node.withSelfStreamTolerance
          { directory :=
              { courses := [⟨1, "cs", 2024, "W", false, true⟩]
                streams := [{ Stream.new 7 1 (Instant.ofParts 0 36000 0) (Instant.ofParts 0 39600 0)
                  with key := "k" }]
                workers := [Worker.new "w1" "h1" 0 (Instant.ofParts 0 0 0)] }
            workerIdOf := fun _ => ""
            jobIdOf := fun _ => "" } (.ofSecs 7200)) := by
  refine self_stream_granted_exactly_inside_window.2.1 _ _ "w1" "k" _ _ (.ofSecs 7200)
    (by decide) ?_ ((self_stream_granted_exactly_inside_window.1 _ _ _ _ _ _ rfl rfl _ _).2
      ⟨⟨_, _, rfl, rfl, by decide, by decide⟩, _, rfl, rfl, rfl⟩)
  intro s hs
  cases hs
  exact ⟨⟨_, rfl⟩, _, rfl⟩

end StreamDispatch
