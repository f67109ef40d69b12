import StreamDispatch.Proofs.Ledger
import StreamDispatch.Proofs.Store

/-!
# Dispatch batches

What a premiere batch and a lecture-stream batch do, for every directory, every set of failing
directory methods and every way the workers answer. Both batches share their early exits
(`BatchSpec`): a failed due query is reported and ends the batch; no due item ends it with
nothing done and the workers not listed; a failed or empty worker listing is reported once
and nothing is sent. Past those exits a batch is a ledger of dispatches (`Ledger.Valid`), one
for each job in the order the jobs come, and the report, the node's trace and the workers'
final loads are read off that ledger.
-/

namespace StreamDispatch

open Node Time

/-! ## The early exits -/

/-- How a batch of kind `kind` over the items of the due query `due` ends, from node `n`, by how
the query and the worker listing answer; `main` says what the batch does with the due items
and the alive workers once both are there. -/
def BatchSpec (kind : BatchKind) (due : Op (Except Failure (List Stream))) (now : Instant)
    (n : Node) (r : EStateM.Result Panic Node Batch)
    (main : List Stream → List Worker → EStateM.Result Panic Node Batch → Prop) : Prop :=
  match due n with
  | .error p _ => r = .error p n
  | .ok (.error e) _ => r = .ok {} (n.reporting e)
  | .ok (.ok items) _ =>
    if items = [] then r = .ok {} n
    else
      match aliveWorkers now n with
      | .ok (.error e) _ => r = .ok {} (n.reporting e)
      | .ok (.ok []) _ => r = .ok {} (n.reporting (.noWorkers kind))
      | .ok (.ok ws) _ => main items ws r
      | .error p _ => r = .error p n

/-- The shape both batches share: the due query, then the worker listing, then the work. -/
def batchShape (now : Instant) (due : Op (Except Failure (List Stream))) (kind : BatchKind)
    (body : List Stream → List Worker → Op Batch) : Op Batch := do
  match ← due with
  | .error e => report e; pure {}
  | .ok items =>
    match ← workersFor now (!items.isEmpty) kind with
    | none => pure {}
    | some workers => body items workers

theorem dispatchPremieres_eq_batchShape (now : Instant) :
    dispatchPremieres now = batchShape now (duePremieres now) .premieres (fun ps ws => do
      let (ws, b) ← ps.foldlM premiereStep (ws, {})
      pure (Batch.closed b ws)) := rfl

theorem dispatchStreams_eq_batchShape (now : Instant) :
    dispatchStreams now = batchShape now (dueStreams now) .streams (fun ss ws => do
      let (ws, b) ← ss.foldlM streamStep (ws, {})
      pure (Batch.closed b ws)) := rfl

theorem workersFor_false_run (now : Instant) (kind : BatchKind) (n : Node) :
    workersFor now false kind n = .ok none n := rfl

theorem workersFor_true_run (now : Instant) (kind : BatchKind) (n : Node)
    {r : Except Failure (List Worker)} (hr : aliveWorkers now n = .ok r n) :
    workersFor now true kind n =
      match r with
      | .error e => .ok none (n.reporting e)
      | .ok [] => .ok none (n.reporting (.noWorkers kind))
      | .ok ws => .ok (some ws) n := by
  simp only [workersFor, Bool.not_true, Bool.false_eq_true, if_false]
  rw [bind_run_ok hr]
  rcases r with e | _ | ⟨w, ws⟩ <;> rfl

/-- **The early exits.** A batch of the shared shape whose due query leaves the node as it was
meets `BatchSpec`, once its work meets `main` on every non-empty list of due items and every
non-empty listing of alive workers. -/
theorem batchShape_spec (now : Instant) (kind : BatchKind) (due : Op (Except Failure (List Stream)))
    (body : List Stream → List Worker → Op Batch)
    (main : List Stream → List Worker → EStateM.Result Panic Node Batch → Prop) (n : Node)
    (hdue : (∃ r, due n = .ok r n) ∨ ∃ p, due n = .error p n)
    (hmain : ∀ items ws, items ≠ [] → ws ≠ [] → aliveWorkers now n = .ok (.ok ws) n →
      main items ws (body items ws n)) :
    BatchSpec kind due now n (batchShape now due kind body n) main := by
  unfold BatchSpec batchShape
  rcases hdue with ⟨r, hr⟩ | ⟨p, hp⟩
  · rw [bind_run_ok hr]
    simp only [hr]
    cases r with
    | error e => exact bind_run_ok (report_run e n)
    | ok items =>
      by_cases hitems : items = []
      · subst hitems
        simp only [if_true, List.isEmpty_nil, Bool.not_true]
        rw [bind_run_ok (workersFor_false_run now kind n)]
        rfl
      · have hjobs : (!items.isEmpty) = true := by simpa using hitems
        simp only [if_neg hitems, hjobs]
        -- the listing leaves the node as it was, whatever it answers
        obtain ⟨l, hl⟩ := read_state .aliveWorkers (fun d => .ok (d.aliveWorkers now)) n
        change aliveWorkers now n = .ok l n at hl
        have hw := workersFor_true_run now kind n hl
        rw [hl]
        rcases l with e | _ | ⟨w, ws⟩
        · rw [bind_run_ok hw]
          rfl
        · rw [bind_run_ok hw]
          rfl
        · rw [bind_run_ok hw]
          exact hmain items (w :: ws) hitems (List.cons_ne_nil w ws) hl
  · rw [bind_run_error hp, hp]

/-! ## Premieres -/

/-- The job of a due premiere: its first file, played for its stream; none without a file. -/
def premiereJob (s : Stream) : Option Job :=
  s.files.head?.map fun f => .premiere { streamId := s.id, filePath := f }

/-- **The premiere loop.** From any valid ledger `L`, the premieres `ps` extend it by one valid
dispatch for each premiere with a file, in their order, and count the others as skipped; the
copy, the report and the node end as the longer ledger says. -/
theorem premiereStep_foldlM (n : Node) {ws : List Worker} (hws : ws ≠ []) :
    ∀ (ps : List Stream) (L : List Dispatch) (b : Batch), Ledger.Valid n ws L →
      ∃ L', Ledger.Valid n ws (L ++ L') ∧ L'.map (·.job) = ps.filterMap premiereJob ∧
        ps.foldlM premiereStep (afterLedger ws L, b) (n.after L) =
          .ok (afterLedger ws (L ++ L'),
            { b.add L' with skipped := b.skipped + ps.countP (·.files.isEmpty) })
            (n.after (L ++ L')) := by
  intro ps
  induction ps with
  | nil =>
    intro L b hL
    refine ⟨[], by simpa using hL, rfl, ?_⟩
    simp only [List.foldlM_nil, List.append_nil, Batch.add_nil, List.countP_nil, Nat.add_zero]
    rfl
  | cons s ps ih =>
    intro L b hL
    rw [List.foldlM_cons]
    cases hf : s.files with
    | nil =>
      -- a premiere without a file is only counted
      have hstep : premiereStep (afterLedger ws L, b) s (n.after L) =
          .ok (afterLedger ws L, { b with skipped := b.skipped + 1 }) (n.after L) := by
        simp only [premiereStep, hf]
        rfl
      obtain ⟨L', hv, hjobs, hrun⟩ := ih L { b with skipped := b.skipped + 1 } hL
      refine ⟨L', hv, by simpa [premiereJob, hf] using hjobs, ?_⟩
      rw [bind_run_ok hstep, hrun]
      simp only [List.countP_cons, hf, List.isEmpty_nil, if_true, Batch.add]
      rw [Nat.add_assoc, Nat.add_comm 1]
    | cons f fs =>
      -- a premiere with a file is one more dispatch of the ledger
      obtain ⟨d, hdj, hd, hassign⟩ :=
        assign_afterLedger n hws L (.premiere { streamId := s.id, filePath := f }) b (n.after L)
          rfl rfl rfl
      have hstep : premiereStep (afterLedger ws L, b) s (n.after L) =
          .ok (afterLedger ws (L ++ [d]), b.add [d]) (n.after (L ++ [d])) := by
        simp only [premiereStep, hf]
        rw [hassign, Node.after_append]
      obtain ⟨L', hv, hjobs, hrun⟩ := ih (L ++ [d]) (b.add [d]) (hL.snoc hd)
      refine ⟨d :: L', by simpa using hv, by simp [premiereJob, hf, hdj, hjobs], ?_⟩
      rw [bind_run_ok hstep, hrun]
      simp [Batch.add_append, hf]

/-- **What a premiere batch does.** For every directory, every set of failing directory methods
and every way the workers answer, a premiere batch at `now` takes the early exits of
`BatchSpec`, and otherwise hands out one job for each due premiere with a file, in the order
the premieres came, playing its first file: the jobs form a valid ledger over the alive
workers, so each went to the first least-loaded worker of the batch's copy with the next job
id; its report lists the accepted and the failed assignments, counts the premieres without a
file, and gives each worker's final in-run load; and the node has recorded exactly the calls of
the ledger and reported exactly its failures, in order. -/
theorem premiere_batch_follows_ledger (now : Instant) (n : Node) :
    BatchSpec .premieres (duePremieres now) now n (dispatchPremieres now n) fun ps ws r =>
      ∃ L, Ledger.Valid n ws L ∧ L.map (·.job) = ps.filterMap premiereJob ∧
        r = .ok (Batch.ofLedger ws L (ps.countP (·.files.isEmpty))) (n.after L) := by
  rw [dispatchPremieres_eq_batchShape]
  apply batchShape_spec
  · exact dueQuery_state _ _ n
  · intro ps ws _ hws _
    obtain ⟨L, hv, hjobs, hrun⟩ := premiereStep_foldlM n hws ps [] {} (Ledger.Valid.nil n ws)
    rw [List.nil_append, afterLedger_nil, Node.after_nil] at hrun
    rw [List.nil_append] at hv
    refine ⟨L, hv, hjobs, ?_⟩
    rw [bind_run_ok hrun]
    simp only [Batch.closed, Batch.ofLedger, Batch.add, List.nil_append, Nat.zero_add]
    rfl

/-! ## Lecture streams -/

/-- The jobs of a due stream resolved to its course and hall: one for each feed, in slot order,
whose address in the hall is configured, capturing from that address. -/
def streamJobs (s : Stream) (c : Course) (h : Hall) : List Job :=
  Feed.all.filterMap fun f => (h.source f).map fun url => .stream (StreamRequest.ofStream s c f url)

namespace Node

/-- How a due stream resolves on node `n`: its course, then its hall. A failed lookup is the
failure reported when the stream is skipped, and the hall is not looked up once the course
lookup failed; a stream without a hall is skipped silently. -/
def resolution (n : Node) (s : Stream) : Except (Option Failure) (Course × Hall) :=
  match n.lookup .courseById (·.course s.courseId) with
  | .error e => .error (some e)
  | .ok c =>
    match s.hallId with
    | none => .error none
    | some h =>
      match n.lookup .hallById (·.hall h) with
      | .error e => .error (some e)
      | .ok hall => .ok (c, hall)

/-- The jobs of a due stream on node `n`; none when it is skipped. -/
def streamJobsOf (n : Node) (s : Stream) : List Job :=
  match n.resolution s with
  | .ok (c, h) => streamJobs s c h
  | .error _ => []

/-- Whether a due stream is skipped on node `n`. -/
def skips (n : Node) (s : Stream) : Bool :=
  match n.resolution s with
  | .ok _ => false
  | .error _ => true

/-- The failure reported when a due stream is skipped on node `n`, if any. -/
def skipReport (n : Node) (s : Stream) : Option Failure :=
  match n.resolution s with
  | .ok _ => none
  | .error r => r

/-- What a batch logs for a due stream whose jobs went out as the dispatches `Ls`: the failure
reported on skipping it, then the dispatches. -/
def streamEntries (n : Node) (s : Stream) (Ls : List Dispatch) : List Entry :=
  (n.skipReport s).toList.map .report ++ Ls.map .dispatch

theorem resolve_run (s : Stream) (m : Node) :
    resolve s m =
      match m.resolution s with
      | .ok p => .ok (some p) m
      | .error none => .ok none m
      | .error (some e) => .ok none (m.reporting e) := by
  simp only [resolve, courseById, hallById]
  rw [bind_run_ok (read_run _ _ m)]
  unfold resolution
  cases m.lookup .courseById (·.course s.courseId) with
  | error e => exact bind_run_ok (report_run e m)
  | ok c =>
    cases s.hallId with
    | none => rfl
    | some h =>
      show (read .hallById (·.hall h) >>= _) m = _
      rw [bind_run_ok (read_run _ _ m)]
      cases hl : m.lookup .hallById (·.hall h) with
      | error e =>
        simp only [hl]
        exact bind_run_ok (report_run e m)
      | ok hall =>
        simp only [hl]
        rfl

end Node

/-- **The feed loop.** From any valid ledger `L` and any node that continues the batch's first
node `n`, the feeds `fs` of a resolved stream extend the ledger by one valid dispatch for each
feed whose address is configured, in the order of `fs`. -/
theorem feeds_foldlM (n : Node) {ws : List Worker} (hws : ws ≠ []) (s : Stream) (c : Course)
    (h : Hall) :
    ∀ (fs : List Feed) (L : List Dispatch) (b : Batch) (m : Node), Ledger.Valid n ws L →
      m.answer = n.answer → m.jobIdOf = n.jobIdOf → m.jobs = n.jobs + L.length →
      ∃ Ls, Ls.map (·.job) =
          fs.filterMap (fun f => (h.source f).map fun url =>
            .stream (StreamRequest.ofStream s c f url)) ∧
        Ledger.Valid n ws (L ++ Ls) ∧
        (fs.foldlM
            (fun acc f =>
              match h.source f with
              | none => pure acc
              | some url => assign acc.1 (.stream (StreamRequest.ofStream s c f url)) acc.2)
            (afterLedger ws L, b) : Op (List Worker × Batch)) m =
          .ok (afterLedger ws (L ++ Ls), b.add Ls) (m.after Ls) := by
  intro fs
  induction fs with
  | nil =>
    intro L b m hL _ _ _
    refine ⟨[], rfl, by simpa using hL, ?_⟩
    simp only [List.foldlM_nil, List.append_nil, Batch.add_nil, Node.after_nil]
    rfl
  | cons f fs ih =>
    intro L b m hL hans hids hjobs
    rw [List.foldlM_cons]
    cases hsrc : h.source f with
    | none =>
      -- an unconfigured feed gets no job
      obtain ⟨Ls, hmap, hv, hrun⟩ := ih L b m hL hans hids hjobs
      refine ⟨Ls, by simpa [hsrc] using hmap, hv, ?_⟩
      exact (bind_run_ok rfl).trans hrun
    | some url =>
      -- a configured feed is one more dispatch
      obtain ⟨d, hdj, hd, hassign⟩ := assign_afterLedger n hws L
        (.stream (StreamRequest.ofStream s c f url)) b m hans hids hjobs
      obtain ⟨Ls, hmap, hv, hrun⟩ := ih (L ++ [d]) (b.add [d]) (m.after [d]) (hL.snoc hd)
        (by simpa using hans) (by simpa using hids) (by simp [hjobs, Nat.add_assoc])
      refine ⟨d :: Ls, by simp [hsrc, hdj, hmap], by simpa using hv, ?_⟩
      rw [bind_run_ok hassign, hrun, Node.after_append, Batch.add_append]
      simp

/-- **The stream loop.** From any valid ledger `L` logged as the entries `es`, the due streams
`ss` extend the ledger by the dispatches of each stream's jobs, stream by stream, count the
skipped streams, and log each stream's skip report, then its dispatches. -/
theorem streamStep_foldlM (n : Node) {ws : List Worker} (hws : ws ≠ []) :
    ∀ (ss : List Stream) (L : List Dispatch) (b : Batch) (es : List Entry),
      Entry.dispatches es = L → Ledger.Valid n ws L →
      ∃ parts : List (List Dispatch),
        parts.map (List.map (·.job)) = ss.map n.streamJobsOf ∧
        Ledger.Valid n ws (L ++ parts.flatten) ∧
        ss.foldlM streamStep (afterLedger ws L, b) (n.log es) =
          .ok (afterLedger ws (L ++ parts.flatten),
            { b.add parts.flatten with skipped := b.skipped + ss.countP n.skips })
            (n.log (es ++ (List.zipWith n.streamEntries ss parts).flatten)) := by
  intro ss
  induction ss with
  | nil =>
    intro L b es _ hL
    refine ⟨[], rfl, by simpa using hL, ?_⟩
    simp only [List.foldlM_nil, List.flatten_nil, List.append_nil, Batch.add_nil, List.countP_nil,
      Nat.add_zero, List.zipWith_nil_left]
    rfl
  | cons s ss ih =>
    intro L b es hes hL
    rw [List.foldlM_cons]
    have hres := resolve_run s (n.log es)
    change resolve s (n.log es) = match n.resolution s with
      | .ok p => _ | .error none => _ | .error (some e) => _ at hres
    cases hr : n.resolution s with
    | error r =>
      -- a skipped stream: its failure, if any, is reported and it is counted
      have hstep : streamStep (afterLedger ws L, b) s (n.log es) =
          .ok (afterLedger ws L, { b with skipped := b.skipped + 1 })
            (n.log (es ++ r.toList.map .report)) := by
        rw [hr] at hres
        simp only [streamStep]
        cases r with
        | none =>
          rw [bind_run_ok hres]
          simp
          rfl
        | some e =>
          rw [bind_run_ok hres]
          simp only [Option.toList_some, List.map_cons, List.map_nil, ← Node.log_append,
            Node.log_report]
          rfl
      obtain ⟨parts, hmap, hv, hrun⟩ :=
        ih L { b with skipped := b.skipped + 1 } (es ++ r.toList.map .report) (by simp [hes]) hL
      refine ⟨[] :: parts, by simp [hmap, Node.streamJobsOf, hr], by simpa using hv, ?_⟩
      rw [bind_run_ok hstep, hrun]
      simp only [List.flatten_cons, List.nil_append, List.zipWith_cons_cons, Node.streamEntries,
        Node.skipReport, hr, List.map_nil, List.append_nil, List.append_assoc, List.countP_cons,
        Node.skips, if_true, Batch.add]
      rw [Nat.add_assoc, Nat.add_comm 1]
    | ok p =>
      -- a resolved stream: one dispatch for each configured feed
      obtain ⟨c, h⟩ := p
      obtain ⟨Ls, hmapLs, hvLs, hfeeds⟩ := feeds_foldlM n hws s c h Feed.all L b (n.log es) hL
        rfl rfl (by simp [hes])
      have hstep : streamStep (afterLedger ws L, b) s (n.log es) =
          .ok (afterLedger ws (L ++ Ls), b.add Ls) (n.log (es ++ Ls.map .dispatch)) := by
        rw [hr] at hres
        simp only [streamStep]
        rw [bind_run_ok hres, ← Node.log_append, ← Node.after_eq_log]
        exact hfeeds
      obtain ⟨parts, hmap, hv, hrun⟩ :=
        ih (L ++ Ls) (b.add Ls) (es ++ Ls.map .dispatch) (by simp [hes]) hvLs
      refine ⟨Ls :: parts, ?_, by simpa using hv, ?_⟩
      · simp [hmap, Node.streamJobsOf, hr, streamJobs, hmapLs]
      rw [bind_run_ok hstep, hrun]
      simp only [List.flatten_cons, List.zipWith_cons_cons, Node.streamEntries, Node.skipReport, hr,
        Option.toList_none, List.map_nil, List.nil_append, List.append_assoc, List.countP_cons,
        Node.skips, Bool.false_eq_true, if_false, Nat.add_zero, Batch.add_append, Batch.add_skipped]

/-- **What a lecture-stream batch does.** For every directory, every set of failing directory
methods and every way the workers answer, a lecture-stream batch at `now` takes the early exits
of `BatchSpec`, and otherwise goes through the due streams in the order they came: a stream
whose course lookup fails, that has no hall, or whose hall lookup fails is skipped, with the
failed lookup reported and nothing sent; every other stream gets one job for each feed whose
address in its hall is configured, in the order combined, presentation, camera, carrying the
stream, the feed, the address and the course's details. All the jobs together form one valid
ledger over the alive workers, so each went to the then first least-loaded worker of the
batch's copy, raised by 3 before the call and lowered by 1 after a refusal or failure; the
report lists the accepted and the failed assignments, counts the skipped streams and gives the
final in-run loads; and the node has logged, stream by stream, the skip report and then the
calls and failures of that stream's dispatches. -/
theorem stream_batch_follows_ledger (now : Instant) (n : Node) :
    BatchSpec .streams (dueStreams now) now n (dispatchStreams now n) fun ss ws r =>
      ∃ parts : List (List Dispatch),
        parts.map (List.map (·.job)) = ss.map n.streamJobsOf ∧
        Ledger.Valid n ws parts.flatten ∧
        r = .ok (Batch.ofLedger ws parts.flatten (ss.countP n.skips))
          (n.log (List.zipWith n.streamEntries ss parts).flatten) := by
  rw [dispatchStreams_eq_batchShape]
  apply batchShape_spec
  · exact dueQuery_state _ _ n
  · intro ss ws _ hws _
    obtain ⟨parts, hmap, hv, hrun⟩ :=
      streamStep_foldlM n hws ss [] {} [] rfl (Ledger.Valid.nil n ws)
    rw [List.nil_append, afterLedger_nil, Node.log_nil, List.nil_append] at hrun
    rw [List.nil_append] at hv
    refine ⟨parts, hmap, hv, ?_⟩
    rw [bind_run_ok hrun]
    simp only [Batch.closed, Batch.ofLedger, Batch.add, List.nil_append, Nat.zero_add]
    rfl

end StreamDispatch
