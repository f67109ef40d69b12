import StreamDispatch.Proofs.Batches

/-!
# Repeated dispatch runs

A dispatch run never writes the directory: the speculative loads of a batch live only in the
batch's own copy of the alive workers, and each batch lists its workers from the directory
afresh. A run can therefore be repeated, and this module says how exactly.

* `Node.Twin n m` — two nodes a batch cannot tell apart: one directory, the same failing
  methods, and workers that answer the `k`-th job drawn on either node alike;
* `Ledger.Valid.map_anonymous_eq` — twins that hand out the same jobs over the same workers
  make the same dispatches, up to job ids: the first least-loaded slot is unique, so every
  dispatch is forced by the ones before it;
* `Agree` — two runs of an operation did the same up to job ids, and `runOnce_agree`: twins
  run whole dispatch runs that agree;
* `dispatch_runs_repeat_up_to_job_ids` — a run keeps the directory, its lecture-stream batch
  starts from the directory's workers, and a second run repeats the first up to job ids when
  the workers' answers do not read job ids.

Job ids come from the node's counter, so a second run draws new ones; what the runs report and
send is compared with the job ids blanked (`Job.anonymous` and its kin).
-/

namespace StreamDispatch

open Node Time

/-! ## Forgetting job ids -/

namespace Job

/-- The job with its job id blanked. -/
def anonymous : Job → Job
  | .stream r => .stream { r with jobId := "" }
  | .premiere r => .premiere { r with jobId := "" }

/-- The job id a job is addressed with is all that blanking forgets. -/
@[simp] theorem anonymous_addressed (j : Job) (jobId workerId : String) :
    (j.addressed jobId workerId).anonymous = j.addressed "" workerId := by
  cases j <;> rfl

end Job

/-- A call with its job's id blanked. -/
def Call.anonymous (c : Call) : Call := ⟨c.worker, c.job.anonymous⟩

/-- An assignment with its job id blanked. -/
def Assignment.anonymous (a : Assignment) : Assignment := { a with jobId := "" }

/-- A batch report with the job ids of its assignments blanked. -/
def Batch.anonymous (b : Batch) : Batch :=
  { b with
    assigned := b.assigned.map Assignment.anonymous
    failed := b.failed.map Assignment.anonymous }

/-- A run report with the job ids of both batches blanked. -/
def RunReport.anonymous (r : RunReport) : RunReport := ⟨r.premieres.anonymous, r.streams.anonymous⟩

namespace Dispatch

/-- A dispatch with its job id blanked. -/
def anonymous (d : Dispatch) : Dispatch := { d with jobId := "" }

@[simp] theorem slot_anonymous (d : Dispatch) : d.anonymous.slot = d.slot := rfl

@[simp] theorem accepted_anonymous (d : Dispatch) : d.anonymous.accepted = d.accepted := rfl

@[simp] theorem failure_anonymous (d : Dispatch) : d.anonymous.failure = d.failure := rfl

@[simp] theorem assignment_anonymous (d : Dispatch) :
    d.anonymous.assignment = d.assignment.anonymous := rfl

@[simp] theorem call_anonymous (d : Dispatch) : d.anonymous.call.anonymous = d.call.anonymous := by
  simp [call, request, anonymous, Call.anonymous]

/-- Dispatches that differ at most in their job ids are equal once it is blanked. -/
theorem anonymous_eq_anonymous {d d' : Dispatch} (hslot : d.slot = d'.slot)
    (hworker : d.worker = d'.worker) (hjob : d.job = d'.job) (hanswer : d.answer = d'.answer) :
    d.anonymous = d'.anonymous := by
  cases d
  cases d'
  simp only at hslot hworker hjob hanswer
  subst hslot hworker hjob hanswer
  rfl

end Dispatch

namespace Entry

/-- An entry with its dispatch's job id blanked. -/
def anonymous : Entry → Entry
  | .report e => .report e
  | .dispatch d => .dispatch d.anonymous

@[simp] theorem anonymous_report (e : Failure) : (Entry.report e).anonymous = .report e := rfl

@[simp] theorem anonymous_dispatch (d : Dispatch) :
    (Entry.dispatch d).anonymous = .dispatch d.anonymous := rfl

@[simp] theorem failures_anonymous (e : Entry) : e.anonymous.failures = e.failures := by
  cases e <;> rfl

theorem dispatches_map_anonymous (es : List Entry) :
    dispatches (es.map anonymous) = (dispatches es).map Dispatch.anonymous := by
  induction es with
  | nil => rfl
  | cons e es ih =>
    cases e with
    | report e => simpa [dispatches] using ih
    | dispatch d => simpa [dispatches] using ih

theorem map_anonymous_map_dispatch (L : List Dispatch) :
    (L.map dispatch).map anonymous = (L.map Dispatch.anonymous).map dispatch := by
  simp

/-- Entries that agree up to job ids hold as many dispatches, record the same calls up to job
ids, and report the same failures. -/
theorem log_agree {es es' : List Entry} (h : es.map anonymous = es'.map anonymous) :
    (dispatches es').length = (dispatches es).length ∧
      ((dispatches es').map (·.call)).map Call.anonymous =
        ((dispatches es).map (·.call)).map Call.anonymous ∧
      es'.flatMap failures = es.flatMap failures := by
  have hd : (dispatches es).map Dispatch.anonymous = (dispatches es').map Dispatch.anonymous := by
    rw [← dispatches_map_anonymous, ← dispatches_map_anonymous, h]
  have hcalls := congrArg (List.map fun d => d.call.anonymous) hd
  have hfailures := congrArg (List.flatMap failures) h
  simp only [List.map_map, Function.comp_def, Dispatch.call_anonymous, List.flatMap_map,
    failures_anonymous] at hcalls hfailures
  refine ⟨by simpa using (congrArg List.length hd).symm, ?_, hfailures.symm⟩
  simpa [Function.comp_def] using hcalls.symm

end Entry

/-! ## Reports up to job ids -/

@[simp] theorem inRunLoad_map_anonymous (L : List Dispatch) (i : Nat) (w : Worker) :
    inRunLoad (L.map Dispatch.anonymous) i w = inRunLoad L i w := by
  simp [inRunLoad, List.countP_map, Function.comp_def]

@[simp] theorem afterLedger_map_anonymous (ws : List Worker) (L : List Dispatch) :
    afterLedger ws (L.map Dispatch.anonymous) = afterLedger ws L := by
  simp [afterLedger]

/-- A batch's report, its job ids blanked, is read off its ledger with the job ids blanked. -/
theorem Batch.anonymous_ofLedger (ws : List Worker) (L : List Dispatch) (skipped : Nat) :
    (Batch.ofLedger ws L skipped).anonymous =
      Batch.ofLedger ws (L.map Dispatch.anonymous) skipped := by
  simp [Batch.anonymous, Batch.ofLedger, List.filter_map, Function.comp_def]

/-- The stream entries of a batch, their job ids blanked, depend on its dispatches only up to
job ids. -/
theorem Node.streamEntries_map_anonymous (n : Node) (ss : List Stream)
    (parts : List (List Dispatch)) :
    (List.zipWith n.streamEntries ss parts).flatten.map Entry.anonymous =
      (List.zipWith n.streamEntries ss (parts.map (List.map Dispatch.anonymous))).flatten := by
  simp [List.map_flatten, List.map_zipWith, List.zipWith_map_right, Node.streamEntries,
    Function.comp_def]

/-- Parts of one shape whose concatenations agree up to job ids agree part by part. -/
theorem parts_map_anonymous_eq :
    ∀ parts parts' : List (List Dispatch),
      parts.map (List.map (·.job)) = parts'.map (List.map (·.job)) →
      parts.flatten.map Dispatch.anonymous = parts'.flatten.map Dispatch.anonymous →
      parts.map (List.map Dispatch.anonymous) = parts'.map (List.map Dispatch.anonymous)
  | [], [], _, _ => rfl
  | P :: ps, P' :: ps', hshape, hflat => by
    simp only [List.map_cons, List.cons.injEq] at hshape ⊢
    simp only [List.flatten_cons, List.map_append] at hflat
    have hlen : (P.map Dispatch.anonymous).length = (P'.map Dispatch.anonymous).length := by
      simpa using congrArg List.length hshape.1
    obtain ⟨hP, hrest⟩ := List.append_inj hflat hlen
    exact ⟨hP, parts_map_anonymous_eq ps ps' hshape.2 hrest⟩
  | [], _ :: _, hshape, _ => by simp at hshape
  | _ :: _, [], hshape, _ => by simp at hshape

/-! ## Twin nodes -/

/-- Two nodes a dispatch batch cannot tell apart, whatever each has logged: one directory, the
same failing methods, and workers that answer the `k`-th job drawn on either node alike, each
addressed with the job id its own node draws for it. -/
structure Node.Twin (n m : Node) : Prop where
  directory : m.directory = n.directory
  faults : m.faults = n.faults
  answer : ∀ k w (j : Job), m.answer w (j.addressed (m.jobIdOf (m.jobs + k)) w.id) =
    n.answer w (j.addressed (n.jobIdOf (n.jobs + k)) w.id)

namespace Node.Twin

variable {n m : Node}

theorem refl (n : Node) : Twin n n := ⟨rfl, rfl, fun _ _ _ => rfl⟩

/-- Answers that do not read job ids answer a job alike under every job id. -/
theorem answer_addressed_eq (hblind : ∀ w j, n.answer w j = n.answer w j.anonymous) (w : Worker)
    (j : Job) (jobId jobId' workerId : String) :
    n.answer w (j.addressed jobId workerId) = n.answer w (j.addressed jobId' workerId) := by
  rw [hblind w (j.addressed jobId workerId), hblind w (j.addressed jobId' workerId),
    Job.anonymous_addressed, Job.anonymous_addressed]

/-- A node whose workers' answers do not read job ids is a twin of every node it logs into. -/
theorem of_log (hblind : ∀ w j, n.answer w j = n.answer w j.anonymous) (es : List Entry) :
    Twin n (n.log es) where
  directory := rfl
  faults := rfl
  answer _ w j := answer_addressed_eq hblind w j _ _ _

/-- Twins stay twins once each logs entries that agree up to job ids. -/
theorem log (ht : Twin n m) {es es' : List Entry}
    (hes : es.map Entry.anonymous = es'.map Entry.anonymous) : Twin (n.log es) (m.log es') where
  directory := ht.directory
  faults := ht.faults
  answer k w j := by
    simp only [log_answer, log_jobIdOf, log_jobs, (Entry.log_agree hes).1, Nat.add_assoc]
    exact ht.answer _ w j

theorem lookup (ht : Twin n m) {α : Type} (mth : Method) (f : Directory → Except Failure α) :
    m.lookup mth f = n.lookup mth f := by
  simp only [Node.lookup, ht.faults, ht.directory]

theorem resolution (ht : Twin n m) : m.resolution = n.resolution := by
  funext s
  simp only [Node.resolution, ht.lookup]

theorem streamJobsOf (ht : Twin n m) : m.streamJobsOf = n.streamJobsOf := by
  funext s
  simp only [Node.streamJobsOf, ht.resolution]

theorem skips (ht : Twin n m) : m.skips = n.skips := by
  funext s
  simp only [Node.skips, ht.resolution]

theorem streamEntries (ht : Twin n m) : m.streamEntries = n.streamEntries := by
  funext s Ls
  simp only [Node.streamEntries, Node.skipReport, ht.resolution]

end Node.Twin

/-! ## Ledgers are forced -/

variable {n m : Node}

/-- **The next dispatch is forced.** Twins whose dispatches so far agree up to job ids hand their
next job to the same slot and the same worker, and get the same answer. -/
theorem Dispatch.Next.anonymous_eq (ht : n.Twin m) {ws : List Worker} {L L' : List Dispatch}
    {d d' : Dispatch} (hd : Dispatch.Next n ws L d) (hd' : Dispatch.Next m ws L' d')
    (hL : L.map Dispatch.anonymous = L'.map Dispatch.anonymous) (hjob : d.job = d'.job) :
    d.anonymous = d'.anonymous := by
  have hcopy : afterLedger ws L' = afterLedger ws L := by
    rw [← afterLedger_map_anonymous ws L', ← hL, afterLedger_map_anonymous]
  have hslot' := hd'.slot
  rw [hcopy] at hslot'
  have hslot : d.slot = d'.slot := hd.slot.unique hslot'
  obtain ⟨w, hw, hdw⟩ := hd.worker
  obtain ⟨w', hw', hdw'⟩ := hd'.worker
  have hww : w = w' := by
    rw [hcopy, ← hslot, hw] at hw'
    exact Option.some.inj hw'
  have hworker : d.worker = d'.worker := by rw [hdw, hdw', hww]
  have hlen : L'.length = L.length := by simpa using (congrArg List.length hL).symm
  -- both answer the same job, each under the job id its own node draws next
  have hanswer : d.answer = d'.answer := by
    rw [hd.answer, hd'.answer, Dispatch.request, Dispatch.request, hd.jobId, hd'.jobId, hlen,
      Nat.add_assoc, Nat.add_assoc, ← hworker, ← hjob]
    exact (ht.answer _ _ _).symm
  exact Dispatch.anonymous_eq_anonymous hslot hworker hjob hanswer

/-- **A ledger is forced by its jobs.** Twins that hand out the same jobs over the same workers
make the same dispatches, up to job ids. -/
theorem Ledger.Valid.map_anonymous_eq (ht : n.Twin m) {ws : List Worker} {L L' : List Dispatch}
    (hL : Ledger.Valid n ws L) (hL' : Ledger.Valid m ws L')
    (hjobs : L.map (·.job) = L'.map (·.job)) :
    L.map Dispatch.anonymous = L'.map Dispatch.anonymous := by
  have hlen : L.length = L'.length := by simpa using congrArg List.length hjobs
  -- the ledgers agree on every prefix, by induction on its length
  have hprefix : ∀ k, k ≤ L.length →
      (L.take k).map Dispatch.anonymous = (L'.take k).map Dispatch.anonymous := by
    intro k
    induction k with
    | zero => intro _; simp
    | succ k ih =>
      intro hk
      have hkL : k < L.length := by omega
      have hkL' : k < L'.length := by omega
      have hjob : L[k].job = L'[k].job := by
        simpa [hkL, hkL'] using congrArg (·[k]?) hjobs
      have hd := (hL k hkL).anonymous_eq ht (hL' k hkL') (ih (by omega)) hjob
      rw [List.take_succ_eq_append_getElem hkL, List.take_succ_eq_append_getElem hkL',
        List.map_append, List.map_append, ih (by omega)]
      simp [hd]
  have hall := hprefix L.length (Nat.le_refl _)
  rwa [List.take_of_length_le (Nat.le_refl _), List.take_of_length_le (Nat.le_of_eq hlen.symm)]
    at hall

/-! ## Runs that agree -/

/-- Two runs of an operation, one from `n` and one from `m`, did the same up to job ids: each
logged entries, the two lists agreeing up to job ids, and then both halted with one panic or
both returned results that agree once `anon` blanks their job ids. -/
def Agree {α : Type} (anon : α → α) (n m : Node) (rn rm : EStateM.Result Panic Node α) : Prop :=
  ∃ es es', es.map Entry.anonymous = es'.map Entry.anonymous ∧
    ((∃ p, rn = .error p (n.log es) ∧ rm = .error p (m.log es')) ∨
      ∃ a a', anon a = anon a' ∧ rn = .ok a (n.log es) ∧ rm = .ok a' (m.log es'))

namespace Agree

variable {α : Type} {anon : α → α} {rn rm : EStateM.Result Panic Node α}

theorem of_halt {p : Panic} (hn : rn = .error p n) (hm : rm = .error p m) : Agree anon n m rn rm :=
  ⟨[], [], rfl, .inl ⟨p, by simpa using hn, by simpa using hm⟩⟩

theorem of_same (a : α) (es : List Entry) (hn : rn = .ok a (n.log es))
    (hm : rm = .ok a (m.log es)) : Agree anon n m rn rm :=
  ⟨es, es, rfl, .inr ⟨a, a, rfl, hn, hm⟩⟩

/-- A run that agrees with another only logged entries before it returned. -/
theorem ok_log (h : Agree anon n m rn rm) {a : α} {n' : Node} (hr : rn = .ok a n') :
    ∃ es, n' = n.log es := by
  obtain ⟨es, _, _, ⟨p, hn, _⟩ | ⟨a', _, _, hn, _⟩⟩ := h
  · rw [hr] at hn
    cases hn
  · rw [hr] at hn
    cases hn
    exact ⟨es, rfl⟩

/-- A run that agrees with another only logged entries before it halted. -/
theorem error_log (h : Agree anon n m rn rm) {p : Panic} {n' : Node} (hr : rn = .error p n') :
    ∃ es, n' = n.log es := by
  obtain ⟨es, _, _, ⟨p', hn, _⟩ | ⟨a', _, _, hn, _⟩⟩ := h
  · rw [hr] at hn
    cases hn
    exact ⟨es, rfl⟩
  · rw [hr] at hn
    cases hn

end Agree

theorem aliveWorkers_run (now : Instant) (n : Node) :
    aliveWorkers now n = .ok (n.lookup .aliveWorkers fun d => .ok (d.aliveWorkers now)) n :=
  read_run _ _ n

/-- **The early exits agree.** On twins, a batch of the shared shape takes the same early exit,
or comes to its work on the same due items and the same alive workers. -/
theorem batchShape_agree (now : Instant) (kind : BatchKind) (mth : Method)
    (q : Directory → Except Overflow (List Stream)) (body : List Stream → List Worker → Op Batch)
    (ht : n.Twin m)
    (hbody : ∀ items ws, ws ≠ [] →
      Agree Batch.anonymous n m (body items ws n) (body items ws m)) :
    Agree Batch.anonymous n m (batchShape now (dueQuery mth q) kind body n)
      (batchShape now (dueQuery mth q) kind body m) := by
  have hn := batchShape_spec now kind (dueQuery mth q) body
    (fun items ws r => ws ≠ [] ∧ r = body items ws n) n (dueQuery_state _ _ n)
    fun _ _ _ hws _ => ⟨hws, rfl⟩
  have hm := batchShape_spec now kind (dueQuery mth q) body
    (fun items ws r => ws ≠ [] ∧ r = body items ws m) m (dueQuery_state _ _ m)
    fun _ _ _ hws _ => ⟨hws, rfl⟩
  unfold BatchSpec at hn hm
  rw [dueQuery_run, aliveWorkers_run] at hn hm
  rw [ht.faults, ht.directory, ht.lookup] at hm
  by_cases hc : n.faults.contains mth
  · -- the due query's method fails: both report it
    simp only [hc, if_true] at hn hm
    exact .of_same {} [.report _] (by rw [hn, log_report]) (by rw [hm, log_report])
  · simp only [hc, Bool.false_eq_true, if_false] at hn hm
    cases hq : q n.directory with
    | error o =>
      simp only [hq] at hn hm
      exact .of_halt hn hm
    | ok items =>
      simp only [hq] at hn hm
      by_cases hitems : items = []
      · simp only [hitems, if_true] at hn hm
        exact .of_same {} [] (by simpa using hn) (by simpa using hm)
      · simp only [hitems, if_false] at hn hm
        cases hl : n.lookup .aliveWorkers fun d => .ok (d.aliveWorkers now) with
        | error e =>
          simp only [hl] at hn hm
          exact .of_same {} [.report _] (by rw [hn, log_report]) (by rw [hm, log_report])
        | ok ws =>
          cases ws with
          | nil =>
            simp only [hl] at hn hm
            exact .of_same {} [.report _] (by rw [hn, log_report]) (by rw [hm, log_report])
          | cons w ws =>
            simp only [hl] at hn hm
            rw [hn.2, hm.2]
            exact hbody _ _ hn.1

/-! ## The two batches -/

/-- The work of a premiere batch over listed workers: one valid dispatch for each premiere with
a file. -/
theorem premiereWork_run (n : Node) {ws : List Worker} (hws : ws ≠ []) (ps : List Stream) :
    ∃ L, Ledger.Valid n ws L ∧ L.map (·.job) = ps.filterMap premiereJob ∧
      (do
        let (ws, b) ← ps.foldlM premiereStep (ws, {})
        pure (Batch.closed b ws) : Op Batch) n =
        .ok (Batch.ofLedger ws L (ps.countP (·.files.isEmpty))) (n.log (L.map .dispatch)) := by
  obtain ⟨L, hv, hjobs, hrun⟩ := premiereStep_foldlM n hws ps [] {} (Ledger.Valid.nil n ws)
  rw [List.nil_append, afterLedger_nil, Node.after_nil, Node.after_eq_log] at hrun
  rw [List.nil_append] at hv
  refine ⟨L, hv, hjobs, ?_⟩
  rw [bind_run_ok hrun]
  simp only [Batch.closed, Batch.ofLedger, Batch.add, List.nil_append, Nat.zero_add]
  rfl

/-- The work of a lecture-stream batch over listed workers: the dispatches of each stream's
jobs, stream by stream, logged after each stream's skip report. -/
theorem streamWork_run (n : Node) {ws : List Worker} (hws : ws ≠ []) (ss : List Stream) :
    ∃ parts : List (List Dispatch), parts.map (List.map (·.job)) = ss.map n.streamJobsOf ∧
      Ledger.Valid n ws parts.flatten ∧
      (do
        let (ws, b) ← ss.foldlM streamStep (ws, {})
        pure (Batch.closed b ws) : Op Batch) n =
        .ok (Batch.ofLedger ws parts.flatten (ss.countP n.skips))
          (n.log (List.zipWith n.streamEntries ss parts).flatten) := by
  obtain ⟨parts, hmap, hv, hrun⟩ :=
    streamStep_foldlM n hws ss [] {} [] rfl (Ledger.Valid.nil n ws)
  rw [List.nil_append, afterLedger_nil, Node.log_nil, List.nil_append] at hrun
  rw [List.nil_append] at hv
  refine ⟨parts, hmap, hv, ?_⟩
  rw [bind_run_ok hrun]
  simp only [Batch.closed, Batch.ofLedger, Batch.add, List.nil_append, Nat.zero_add]
  rfl

/-- Twins run premiere batches that agree up to job ids. -/
theorem premieres_agree (now : Instant) (ht : n.Twin m) :
    Agree Batch.anonymous n m (dispatchPremieres now n) (dispatchPremieres now m) := by
  rw [dispatchPremieres_eq_batchShape]
  refine batchShape_agree now .premieres .duePremieres _ _ ht fun ps ws hws => ?_
  obtain ⟨L, hv, hjobs, hrun⟩ := premiereWork_run n hws ps
  obtain ⟨L', hv', hjobs', hrun'⟩ := premiereWork_run m hws ps
  have hL := hv.map_anonymous_eq ht hv' (hjobs.trans hjobs'.symm)
  refine ⟨_, _, ?_, .inr ⟨_, _, ?_, hrun, hrun'⟩⟩
  · rw [Entry.map_anonymous_map_dispatch, Entry.map_anonymous_map_dispatch, hL]
  · rw [Batch.anonymous_ofLedger, Batch.anonymous_ofLedger, hL]

/-- Twins run lecture-stream batches that agree up to job ids. -/
theorem streams_agree (now : Instant) (ht : n.Twin m) :
    Agree Batch.anonymous n m (dispatchStreams now n) (dispatchStreams now m) := by
  rw [dispatchStreams_eq_batchShape]
  refine batchShape_agree now .streams .dueStreams _ _ ht fun ss ws hws => ?_
  obtain ⟨parts, hmap, hv, hrun⟩ := streamWork_run n hws ss
  obtain ⟨parts', hmap', hv', hrun'⟩ := streamWork_run m hws ss
  rw [ht.streamJobsOf] at hmap'
  have hshape := hmap.trans hmap'.symm
  have hflat := hv.map_anonymous_eq ht hv' (by rw [List.map_flatten, List.map_flatten, hshape])
  have hparts := parts_map_anonymous_eq parts parts' hshape hflat
  refine ⟨_, _, ?_, .inr ⟨_, _, ?_, hrun, hrun'⟩⟩
  · rw [Node.streamEntries_map_anonymous, Node.streamEntries_map_anonymous, hparts,
      ht.streamEntries]
  · rw [Batch.anonymous_ofLedger, Batch.anonymous_ofLedger, hflat, ht.skips]

/-! ## Whole runs -/

theorem runOnce_eq (now : Instant) :
    runOnce now = (dispatchPremieres now >>= fun p =>
      dispatchStreams now >>= fun s => pure ⟨p, s⟩) := rfl

/-- **Twins run alike.** Dispatch runs from twin nodes agree up to job ids: both halt with one
panic, or both return reports that differ only in job ids, having logged entries that differ
only in job ids. -/
theorem runOnce_agree (now : Instant) (ht : n.Twin m) :
    Agree RunReport.anonymous n m (runOnce now n) (runOnce now m) := by
  obtain ⟨es, es', hes, hp⟩ := premieres_agree now ht
  rw [runOnce_eq]
  rcases hp with ⟨p, hn, hm⟩ | ⟨a, a', ha, hn, hm⟩
  · -- the premiere batch halted on both
    exact ⟨es, es', hes, .inl ⟨p, bind_run_error hn, bind_run_error hm⟩⟩
  · -- the stream batches start on twins again
    obtain ⟨fs, fs', hfs, hs⟩ := streams_agree now (ht.log hes)
    refine ⟨es ++ fs, es' ++ fs', by simp only [List.map_append, hes, hfs], ?_⟩
    rw [bind_run_ok hn, bind_run_ok hm, ← log_append, ← log_append]
    rcases hs with ⟨p, hn', hm'⟩ | ⟨b, b', hb, hn', hm'⟩
    · exact .inl ⟨p, bind_run_error hn', bind_run_error hm'⟩
    · exact .inr ⟨⟨a, b⟩, ⟨a', b'⟩, by simp [RunReport.anonymous, ha, hb], bind_run_ok hn',
        bind_run_ok hm'⟩

/-- A run that returns made its premiere batch on the node it started on, and its stream batch
on the node the premiere batch left, which only logged entries. -/
theorem runOnce_ok_batches (now : Instant) {n n' : Node} {r : RunReport}
    (h : runOnce now n = .ok r n') :
    ∃ es, dispatchPremieres now n = .ok r.premieres (n.log es) ∧
      dispatchStreams now (n.log es) = .ok r.streams n' := by
  obtain ⟨es, _, _, hp⟩ := premieres_agree now (Twin.refl n)
  rw [runOnce_eq] at h
  rcases hp with ⟨p, hn, _⟩ | ⟨a, _, _, hn, _⟩
  · rw [bind_run_error hn] at h
    cases h
  · rw [bind_run_ok hn] at h
    cases hs : dispatchStreams now (n.log es) with
    | ok b n'' =>
      rw [bind_run_ok hs] at h
      cases h
      exact ⟨es, hn, hs⟩
    | error p n'' =>
      rw [bind_run_error hs] at h
      cases h

/-- **Dispatch runs keep the directory and repeat.** For every node, every set of failing
directory methods and every way the workers answer, a dispatch run at `now` leaves the
directory as it was, whether it returns or halts; its lecture-stream batch runs on a node with
the directory and failing methods it started with, so it lists its workers from the directory
and not from the premiere batch's copy. When the workers' answers do not read job ids, the
lecture-stream batch reports what a stream batch run alone would, up to job ids, and a second
run from where the first ended repeats it: the same report and the same calls up to job ids,
the same failures reported, or a halt with the same panic. -/
theorem dispatch_runs_repeat_up_to_job_ids (now : Instant) (n : Node) :
    (∀ r n', runOnce now n = .ok r n' → n'.directory = n.directory) ∧
    (∀ p n', runOnce now n = .error p n' → n'.directory = n.directory) ∧
    (∀ r n', runOnce now n = .ok r n' →
      ∃ n₁, dispatchPremieres now n = .ok r.premieres n₁ ∧ n₁.directory = n.directory ∧
        n₁.faults = n.faults ∧ dispatchStreams now n₁ = .ok r.streams n') ∧
    ((∀ w j, n.answer w j = n.answer w j.anonymous) →
      (∀ r n', runOnce now n = .ok r n' →
        ∃ b n'', dispatchStreams now n = .ok b n'' ∧ b.anonymous = r.streams.anonymous) ∧
      (∀ r₁ n₁, runOnce now n = .ok r₁ n₁ →
        ∃ r₂ n₂, runOnce now n₁ = .ok r₂ n₂ ∧ r₂.anonymous = r₁.anonymous ∧
          (∃ calls calls', n₁.trace.calls = n.trace.calls ++ calls ∧
            n₂.trace.calls = n₁.trace.calls ++ calls' ∧
            calls'.map Call.anonymous = calls.map Call.anonymous) ∧
          ∃ failures, n₁.trace.reported = n.trace.reported ++ failures ∧
            n₂.trace.reported = n₁.trace.reported ++ failures) ∧
      (∀ p n₁, runOnce now n = .error p n₁ → ∃ n₂, runOnce now n₁ = .error p n₂)) := by
  -- a run agrees with itself, so it ends on a node that only logged entries
  have hself := runOnce_agree now (Twin.refl n)
  refine ⟨fun r n' h => ?_, fun p n' h => ?_, fun r n' h => ?_, fun hblind => ⟨?_, ?_, ?_⟩⟩
  · obtain ⟨es, rfl⟩ := hself.ok_log h
    rfl
  · obtain ⟨es, rfl⟩ := hself.error_log h
    rfl
  · obtain ⟨es, hp, hs⟩ := runOnce_ok_batches now h
    exact ⟨n.log es, hp, rfl, rfl, hs⟩
  · -- the stream batch runs on a twin of the node the run started on
    intro r n' h
    obtain ⟨es, _, hs⟩ := runOnce_ok_batches now h
    obtain ⟨fs, fs', _, ⟨p, _, hm⟩ | ⟨b, b', hb, hn, hm⟩⟩ :=
      streams_agree now (Twin.of_log hblind es)
    · rw [hs] at hm
      cases hm
    · rw [hs] at hm
      cases hm
      exact ⟨b, _, hn, hb⟩
  · -- the second run starts on a twin of the node the first started on
    intro r₁ n₁ h
    obtain ⟨es, hes⟩ := hself.ok_log h
    have ht : n.Twin n₁ := hes ▸ Twin.of_log hblind es
    obtain ⟨fs, fs', hfs, ⟨p, hn, _⟩ | ⟨a, a', ha, hn, hm⟩⟩ := runOnce_agree now ht
    · rw [h] at hn
      cases hn
    · rw [h] at hn
      injection hn with hr hn₁
      subst hr hn₁
      obtain ⟨_, hcalls, hfailures⟩ := Entry.log_agree hfs
      exact ⟨a', _, hm, ha.symm, ⟨_, _, rfl, rfl, hcalls⟩, _, rfl, congrArg _ hfailures⟩
  · intro p n₁ h
    obtain ⟨es, hes⟩ := hself.error_log h
    have ht : n.Twin n₁ := hes ▸ Twin.of_log hblind es
    obtain ⟨fs, fs', _, ⟨p', hn, hm⟩ | ⟨a, _, _, hn, _⟩⟩ := runOnce_agree now ht
    · rw [h] at hn
      injection hn with hp
      subst hp
      exact ⟨_, hm⟩
    · rw [h] at hn
      cases hn

/-- Workers that answer by who they are, whatever the job id, see a run repeated. At 10:00 a
node has a premiere due in half a minute, a lecture due in a hall with a combined and a
presentation feed, and two alive workers with no load, of which `w1` accepts every job and
`w2` refuses every job. The first run hands the premiere to `w1`, the lecture's combined feed
to `w1` and its presentation feed to `w2`, which refuses it; a second run from where the first
ended reports the same, up to job ids. -/
theorem run_repeats_for_workers_answering_by_id :
    ∃ n₁, runOnce (Instant.ofParts 19786 36000 0)
        { directory :=
            { courses := [{ id := 1, slug := "eidi", year := 2024, term := "W" }]
              halls := [{ id := 1, name := "HS 1", combinedIp := "10.0.1.1", presentationIp := "10.0.1.2" }]
              streams := [
                (Stream.new 5 1 (Instant.ofParts 19786 36540 0) (Instant.ofParts 19786 41400 0)).inHall 1,
                (Stream.new 8 1 (Instant.ofParts 19786 36030 0) (Instant.ofParts 19786 39600 0)).asPremiere
                  "/vod/intro.mp4"]
              workers := [Worker.new "w1" "10.0.0.1" 0 (Instant.ofParts 19786 36000 0),
                Worker.new "w2" "10.0.0.2" 0 (Instant.ofParts 19786 36000 0)] }
          answer := fun w _ => .ok (w.id == "w1"), workerIdOf := fun _ => "", jobIdOf := toString } =
        .ok ⟨{ assigned := [⟨"1", 8, none, "w1"⟩], workloads := [("w1", 3), ("w2", 0)] },
          { assigned := [⟨"2", 5, some .combined, "w1"⟩], failed := [⟨"3", 5, some .presentation, "w2"⟩],
            workloads := [("w1", 3), ("w2", 2)] }⟩ n₁ ∧
      ∃ r₂ n₂, runOnce (Instant.ofParts 19786 36000 0) n₁ = .ok r₂ n₂ ∧
        r₂.anonymous = RunReport.anonymous
          ⟨{ assigned := [⟨"1", 8, none, "w1"⟩], workloads := [("w1", 3), ("w2", 0)] },
            { assigned := [⟨"2", 5, some .combined, "w1"⟩],
              failed := [⟨"3", 5, some .presentation, "w2"⟩], workloads := [("w1", 3), ("w2", 2)] }⟩ := by
  -- the first run's report, evaluated
  refine (exists_ok_of_run_eq_some (by decide +kernel)).imp fun n₁ h₁ => ⟨h₁, ?_⟩
  -- the workers answer alike whatever the job id, so the second run repeats the first
  obtain ⟨r₂, n₂, h₂, hr, -⟩ :=
    ((dispatch_runs_repeat_up_to_job_ids _ _).2.2.2 fun _ _ => rfl).2.1 _ n₁ h₁
  exact ⟨r₂, n₂, h₂, hr⟩

end StreamDispatch
