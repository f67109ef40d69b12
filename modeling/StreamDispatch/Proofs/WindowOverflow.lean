import StreamDispatch.Proofs.Clock
import StreamDispatch.Proofs.Store
import StreamDispatch.Node.Events

/-!
# Where the queries stop at the clock's ends

The due queries compute both bounds of every stored stream's window before they look at the
stream's flags, and the publishing window computes its end only once `now` is past its
opening. A bound that leaves the clock stops the computation. So, for streams whose times are
on the clock:

* the lecture-stream query stops exactly when some stored stream, of any kind and due or not,
  opens before the clock's first instant or closes past its last;
* the premiere query stops exactly when some stored stream opens before the first instant;
* the publishing window stops exactly when it opens before the first instant, or when `now` is
  past its opening and it closes past the last instant;
* the alive query never stops;
* none of them stops when every stored start and end lies at least 366 days inside the clock,
  since no window is longer.
-/

namespace StreamDispatch

open Time

theorem exists_ok_iff_not_error {ε β : Type} (x : Except ε β) :
    (∃ a, x = .ok a) ↔ ¬ ∃ e, x = .error e := by
  cases x with
  | error e => exact ⟨fun ⟨_, h⟩ => (nomatch h), fun h => absurd ⟨e, rfl⟩ h⟩
  | ok a => exact ⟨fun _ ⟨_, h⟩ => (nomatch h), fun _ => ⟨a, rfl⟩⟩

/-! ## Filtering by a test that may fail -/

section Filter

variable {ε α : Type} {p : α → Except ε Bool}

/-- The filter's loop fails exactly when the test fails on one of the records left. -/
theorem filterAuxM_eq_error_iff : ∀ (xs acc : List α),
    (∃ e, List.filterAuxM p xs acc = .error e) ↔ ∃ x ∈ xs, ∃ e, p x = .error e
  | [], acc => by
    refine ⟨fun ⟨e, h⟩ => ?_, fun ⟨_, hx, _⟩ => absurd hx List.not_mem_nil⟩
    cases h
  | x :: xs, acc => by
    have hstep : List.filterAuxM p (x :: xs) acc =
        (p x >>= fun b => List.filterAuxM p xs (cond b (x :: acc) acc)) := rfl
    rw [hstep]
    cases hx : p x with
    | error e => exact ⟨fun _ => ⟨x, List.mem_cons_self, e, hx⟩, fun _ => ⟨e, rfl⟩⟩
    | ok b =>
      -- the record passed its test; the loop goes on with the rest
      show (∃ e, List.filterAuxM p xs (cond b (x :: acc) acc) = .error e) ↔ _
      rw [filterAuxM_eq_error_iff xs]
      constructor
      · rintro ⟨y, hy, e, he⟩
        exact ⟨y, List.mem_cons_of_mem x hy, e, he⟩
      · rintro ⟨y, hy, e, he⟩
        rcases List.mem_cons.1 hy with rfl | hy
        · rw [hx] at he
          cases he
        · exact ⟨y, hy, e, he⟩

/-- A filter by a test that may fail fails exactly when the test fails on one of the records. -/
theorem filterM_eq_error_iff (xs : List α) :
    (∃ e, xs.filterM p = .error e) ↔ ∃ x ∈ xs, ∃ e, p x = .error e := by
  have h : xs.filterM p = (List.filterAuxM p xs [] >>= fun as => pure as.reverse) := rfl
  rw [h, ← filterAuxM_eq_error_iff xs []]
  cases List.filterAuxM p xs [] with
  | error e => exact ⟨fun _ => ⟨e, rfl⟩, fun _ => ⟨e, rfl⟩⟩
  | ok r => exact ⟨fun ⟨_, h⟩ => (nomatch h), fun ⟨_, h⟩ => (nomatch h)⟩

end Filter

/-! ## One stream's window -/

namespace DueWindows

/-- A lecture stream's test stops when its opening leaves the clock, or when its opening is
on it and its closing leaves it; the flags are read only after both. -/
theorem streamDue_eq_error_iff (w : DueWindows) (s : Stream) (now : Instant) :
    (∃ o, w.streamDue s now = .error o) ↔
      (∃ o, s.start.minus (windowSpan w.streamLead) = .error o) ∨
        ∃ opens, s.start.minus (windowSpan w.streamLead) = .ok opens ∧
          ∃ o, opens.plus (windowSpan w.streamWindow) = .error o := by
  unfold streamDue
  cases hm : s.start.minus (windowSpan w.streamLead) with
  | error o =>
    exact ⟨fun _ => .inl ⟨o, rfl⟩, fun _ => ⟨o, rfl⟩⟩
  | ok opens =>
    cases hp : opens.plus (windowSpan w.streamWindow) with
    | error o =>
      refine ⟨fun _ => .inr ⟨opens, rfl, o, hp⟩, fun _ => ⟨o, ?_⟩⟩
      show (opens.plus (windowSpan w.streamWindow) >>= _) = _
      rw [hp]
      rfl
    | ok closes =>
      refine ⟨fun ⟨o, h⟩ => ?_, ?_⟩
      · change (opens.plus (windowSpan w.streamWindow) >>= _) = _ at h
        rw [hp] at h
        cases h
      · rintro (⟨o, h⟩ | ⟨opens', h, o, hp'⟩)
        · cases h
        · cases h
          rw [hp] at hp'
          cases hp'

/-- A premiere's test stops exactly when its opening leaves the clock. -/
theorem premiereDue_eq_error_iff (w : DueWindows) (s : Stream) (now : Instant) :
    (∃ o, w.premiereDue s now = .error o) ↔
      ∃ o, s.start.minus (windowSpan w.premiereLead) = .error o := by
  unfold premiereDue
  cases s.start.minus (windowSpan w.premiereLead) with
  | error o => exact ⟨fun _ => ⟨o, rfl⟩, fun _ => ⟨o, rfl⟩⟩
  | ok opens => exact ⟨fun ⟨_, h⟩ => (nomatch h), fun ⟨_, h⟩ => (nomatch h)⟩

end DueWindows

/-! ## The queries -/

namespace Directory

/-- A due query stops exactly when the test of one of the stored streams stops. -/
theorem collectDue_eq_error_iff (d : Directory) (due : Stream → Except Overflow Bool) :
    (∃ o, d.collectDue due = .error o) ↔ ∃ s ∈ d.streams, ∃ o, due s = .error o := by
  unfold collectDue
  rw [← filterM_eq_error_iff d.streams]
  cases d.streams.filterM due with
  | error o => exact ⟨fun _ => ⟨o, rfl⟩, fun _ => ⟨o, rfl⟩⟩
  | ok l => exact ⟨fun ⟨_, h⟩ => (nomatch h), fun ⟨_, h⟩ => (nomatch h)⟩

variable {d : Directory} {now : Instant}

/-- The lecture-stream query stops exactly when a stored stream's window opens before the
clock's first instant, or opens on the clock and closes past its last. -/
theorem dueStreams_error_iff (hd : ∀ s ∈ d.streams, s.start.inRange = true) :
    (∃ o, d.dueStreams now = .error o) ↔ ∃ s ∈ d.streams,
      s.start.LeavesBefore (windowSpan d.windows.streamLead) ∨
        ∃ opens, s.start.minus (windowSpan d.windows.streamLead) = .ok opens ∧
          opens.LeavesAfter (windowSpan d.windows.streamWindow) := by
  unfold dueStreams
  rw [collectDue_eq_error_iff]
  -- stream by stream, the test stops exactly when a bound leaves the clock
  have hstream : ∀ s ∈ d.streams, (∃ o, d.windows.streamDue s now = .error o) ↔
      s.start.LeavesBefore (windowSpan d.windows.streamLead) ∨
        ∃ opens, s.start.minus (windowSpan d.windows.streamLead) = .ok opens ∧
          opens.LeavesAfter (windowSpan d.windows.streamWindow) := by
    intro s hs
    have hlead := windowSpan_nonneg d.windows.streamLead
    have hwin := windowSpan_nonneg d.windows.streamWindow
    rw [DueWindows.streamDue_eq_error_iff, Instant.minus_error_iff (hd s hs) hlead]
    refine or_congr Iff.rfl ⟨fun ⟨opens, ho, hp⟩ => ⟨opens, ho, ?_⟩,
      fun ⟨opens, ho, hp⟩ => ⟨opens, ho, ?_⟩⟩
    · exact (Instant.plus_error_iff (Instant.inRange_of_minus (hd s hs) hlead ho) hwin).1 hp
    · exact (Instant.plus_error_iff (Instant.inRange_of_minus (hd s hs) hlead ho) hwin).2 hp
  exact ⟨fun ⟨s, hs, h⟩ => ⟨s, hs, (hstream s hs).1 h⟩,
    fun ⟨s, hs, h⟩ => ⟨s, hs, (hstream s hs).2 h⟩⟩

/-- The premiere query stops exactly when a stored stream's premiere window opens before the
clock's first instant. -/
theorem duePremieres_error_iff (hd : ∀ s ∈ d.streams, s.start.inRange = true) :
    (∃ o, d.duePremieres now = .error o) ↔
      ∃ s ∈ d.streams, s.start.LeavesBefore (windowSpan d.windows.premiereLead) := by
  unfold duePremieres
  rw [collectDue_eq_error_iff]
  have hstream : ∀ s ∈ d.streams, (∃ o, d.windows.premiereDue s now = .error o) ↔
      s.start.LeavesBefore (windowSpan d.windows.premiereLead) := fun s hs => by
    rw [DueWindows.premiereDue_eq_error_iff,
      Instant.minus_error_iff (hd s hs) (windowSpan_nonneg _)]
  exact ⟨fun ⟨s, hs, h⟩ => ⟨s, hs, (hstream s hs).1 h⟩,
    fun ⟨s, hs, h⟩ => ⟨s, hs, (hstream s hs).2 h⟩⟩

/-- Neither due query stops when every stored start lies 366 days inside the clock. -/
theorem dueQueries_ok_of_wellInside (hd : ∀ s ∈ d.streams, s.start.WellInside) :
    (∃ l, d.dueStreams now = .ok l) ∧ ∃ l, d.duePremieres now = .ok l := by
  have hr : ∀ s ∈ d.streams, s.start.inRange = true := fun s hs => (hd s hs).inRange
  rw [exists_ok_iff_not_error, exists_ok_iff_not_error, dueStreams_error_iff hr,
    duePremieres_error_iff hr]
  refine ⟨?_, ?_⟩
  · rintro ⟨s, hs, hb | ⟨opens, ho, ha⟩⟩
    · exact (hd s hs).not_leavesBefore _ hb
    · exact (hd s hs).minus_not_leavesAfter _ _ ho ha
  · rintro ⟨s, hs, hb⟩
    exact (hd s hs).not_leavesBefore _ hb

end Directory

/-! ## The publishing window -/

section Publish

variable {s : Stream} {now : Instant} {tol : Span}

/-- The publishing window stops exactly when it opens before the clock's first instant, or
when `now` is past its opening and it closes past the clock's last instant. -/
theorem withinPublishWindow_error_iff (hs : s.start.inRange = true) (hf : s.finish.inRange = true)
    (htol : 0 ≤ tol.nanos) :
    (∃ o, withinPublishWindow s now tol = .error o) ↔
      s.start.LeavesBefore tol ∨
        ∃ opens, s.start.minus tol = .ok opens ∧ opens < now ∧ s.finish.LeavesAfter tol := by
  rw [← Instant.minus_error_iff hs htol, ← Instant.plus_error_iff hf htol]
  unfold withinPublishWindow
  cases hm : s.start.minus tol with
  | error o => exact ⟨fun _ => .inl ⟨o, rfl⟩, fun _ => ⟨o, rfl⟩⟩
  | ok opens =>
    have hno : ¬ ∃ o, (Except.ok opens : Except Overflow Instant) = .error o :=
      fun ⟨_, h⟩ => nomatch h
    show (∃ o, (if opens < now then (s.finish.plus tol >>= fun closes => pure (decide (now < closes)))
      else pure false) = .error o) ↔ _
    by_cases hlt : opens < now
    · -- past the opening, the end is computed
      rw [if_pos hlt]
      cases hp : s.finish.plus tol with
      | error o => exact ⟨fun _ => .inr ⟨opens, rfl, hlt, o, rfl⟩, fun _ => ⟨o, rfl⟩⟩
      | ok closes =>
        refine ⟨fun ⟨_, h⟩ => (nomatch h), ?_⟩
        rintro (h | ⟨_, _, _, _, h⟩)
        · exact absurd h hno
        · exact nomatch h
    · -- before the opening, the end is never computed
      rw [if_neg hlt]
      refine ⟨fun ⟨_, h⟩ => (nomatch h), ?_⟩
      rintro (h | ⟨opens', h, hlt', _⟩)
      · exact absurd h hno
      · cases h
        exact absurd hlt' hlt

/-- The publishing window of a stream whose start and end lie 366 days inside the clock never
stops, whatever the tolerance. -/
theorem withinPublishWindow_ok_of_wellInside (hs : s.start.WellInside) (hf : s.finish.WellInside)
    (tol : Duration) : ∃ b, withinPublishWindow s now (windowSpan tol) = .ok b := by
  rw [exists_ok_iff_not_error,
    withinPublishWindow_error_iff hs.inRange hf.inRange (windowSpan_nonneg tol)]
  rintro (hb | ⟨_, _, _, ha⟩)
  · exact hs.not_leavesBefore tol hb
  · exact hf.not_leavesAfter tol ha

end Publish

/-- The alive query never stops: it answers and leaves the node as it was. -/
theorem Node.aliveWorkers_answers (now : Instant) (n : Node) :
    ∃ r, Node.aliveWorkers now n = .ok r n :=
  read_state _ _ n

/-! ## Stopping at the clock's ends -/

/-- **The queries stop exactly where a bound leaves the clock.** For every directory whose
stored starts are on the clock, every due window and every `now`: the lecture-stream query
stops exactly when some stored stream, whatever its flags, opens its window before the clock's
first instant, or opens on the clock and closes past its last instant; the premiere query stops
exactly when some stored stream opens its premiere window before the first instant. For every
stream on the clock and every tolerance that is not negative, the publishing window stops
exactly when it opens before the first instant, or when `now` is past its opening and it
closes past the last instant. The alive query never stops. When every stored start and end
lies at least 366 days inside the clock, none of the due queries stops, nor the publishing
window of a stored stream under any configured tolerance. -/
theorem queries_stop_exactly_off_the_clock :
    (∀ (d : Directory) (now : Instant), (∀ s ∈ d.streams, s.start.inRange = true) →
      ((∃ o, d.dueStreams now = .error o) ↔ ∃ s ∈ d.streams,
        s.start.LeavesBefore (windowSpan d.windows.streamLead) ∨
          ∃ opens, s.start.minus (windowSpan d.windows.streamLead) = .ok opens ∧
            opens.LeavesAfter (windowSpan d.windows.streamWindow))) ∧
    (∀ (d : Directory) (now : Instant), (∀ s ∈ d.streams, s.start.inRange = true) →
      ((∃ o, d.duePremieres now = .error o) ↔
        ∃ s ∈ d.streams, s.start.LeavesBefore (windowSpan d.windows.premiereLead))) ∧
    (∀ (s : Stream) (now : Instant) (tol : Span), s.start.inRange = true →
      s.finish.inRange = true → 0 ≤ tol.nanos →
      ((∃ o, withinPublishWindow s now tol = .error o) ↔
        s.start.LeavesBefore tol ∨
          ∃ opens, s.start.minus tol = .ok opens ∧ opens < now ∧ s.finish.LeavesAfter tol)) ∧
    (∀ (now : Instant) (n : Node), ∃ r, Node.aliveWorkers now n = .ok r n) ∧
    (∀ (d : Directory) (now : Instant), (∀ s ∈ d.streams, s.start.WellInside ∧ s.finish.WellInside) →
      (∃ l, d.dueStreams now = .ok l) ∧ (∃ l, d.duePremieres now = .ok l) ∧
        ∀ s ∈ d.streams, ∀ tol : Duration, ∃ b, withinPublishWindow s now (windowSpan tol) = .ok b) :=
  ⟨fun _ _ hd => Directory.dueStreams_error_iff hd,
    fun _ _ hd => Directory.duePremieres_error_iff hd,
    fun _ _ _ hs hf htol => withinPublishWindow_error_iff hs hf htol,
    Node.aliveWorkers_answers,
    fun _ _ hd => ⟨(Directory.dueQueries_ok_of_wellInside fun s hs => (hd s hs).1).1,
      (Directory.dueQueries_ok_of_wellInside fun s hs => (hd s hs).1).2,
      fun s hs tol => withinPublishWindow_ok_of_wellInside (hd s hs).1 (hd s hs).2 tol⟩⟩

/-- A premiere scheduled at the clock's first instant stops the premiere query: its window
would open a minute before the clock. -/
theorem premiere_at_clock_start_stops_query :
    (∀ s ∈ ({ streams := [(Stream.new 1 1 (Instant.ofParts (-96465292) 0 0)
        (Instant.ofParts (-96465292) 3600 0)).asPremiere "p.mp4"] } : Directory).streams,
      s.start.inRange = true) ∧
    ∃ o, ({ streams := [(Stream.new 1 1 (Instant.ofParts (-96465292) 0 0)
        (Instant.ofParts (-96465292) 3600 0)).asPremiere "p.mp4"] } : Directory).duePremieres
      (Instant.ofParts 0 0 0) = .error o :=
  ⟨by decide, (queries_stop_exactly_off_the_clock.2.1 _ _ (by decide)).2
    ⟨_, List.mem_singleton_self _, by decide⟩⟩

end StreamDispatch
