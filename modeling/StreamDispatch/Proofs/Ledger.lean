import StreamDispatch.Node.Schedule
import StreamDispatch.Proofs.Store

/-!
# The dispatch ledger

What a batch does with its jobs, said without running it. A batch works on its own copy of the
alive workers; each job it hands out is one `Dispatch`: the slot of the copy it went to, its
job id, the worker as it was called, the job, and the worker's answer. This module adds:

* `IsFirstLeast xs i` — `i` is the first index of a least load; there is one such index, and
  the scan of `leastLoaded` returns exactly it (`leastLoaded_eq_some_iff`), while handing a job
  to none of the workers halts (`least_loaded_picks_first_minimum`);
* `afterLedger ws L` — the copy after the dispatches `L`, given in closed form: each slot's
  load is its listed load plus 3 for every job sent to it less 1 for every one of those that
  failed (`inRunLoad`), so no worker's load depends on the order of the dispatches;
* `Dispatch.Next` — how the next job is handed out after `L`, and `Ledger.Valid`, which says
  that every dispatch of a ledger was made that way from the ones before it;
* `assign_afterLedger` — one job handed out by `assign` is one more valid dispatch: the copy,
  the batch report and the node's trace move exactly as the ledger says.
-/

namespace StreamDispatch

open Node

/-! ## The first least load -/

/-- `i` is the first index of a least value of `xs`. -/
structure IsFirstLeast (xs : List Int64) (i : Nat) : Prop where
  lt_length : i < xs.length
  le : ∀ j (hj : j < xs.length), xs[i] ≤ xs[j]
  lt_of_lt : ∀ j (hj : j < i), xs[i] < xs[j]

theorem IsFirstLeast.singleton (x : Int64) : IsFirstLeast [x] 0 where
  lt_length := by simp
  le j hj := by
    have : j = 0 := by simp at hj; omega
    subst this
    exact Int64.le_refl _
  lt_of_lt j hj := absurd hj (Nat.not_lt_zero j)

/-- A load below the least one so far becomes the first least. -/
theorem IsFirstLeast.snoc_of_lt {xs : List Int64} {i : Nat} {v x : Int64}
    (h : IsFirstLeast xs i) (hv : xs[i]? = some v) (hx : x < v) :
    IsFirstLeast (xs ++ [x]) xs.length := by
  have hi := h.lt_length
  have hvi : xs[i] = v := by simpa [hi] using hv
  refine ⟨by simp, fun j hj => ?_, fun j hj => ?_⟩
  · simp only [List.getElem_append_right (Nat.le_refl _), Nat.sub_self, List.getElem_cons_zero]
    rcases Nat.lt_or_ge j xs.length with hj' | hj'
    · rw [List.getElem_append_left hj']
      have hle := h.le j hj'
      rw [hvi, Int64.le_iff_toInt_le] at hle
      rw [Int64.le_iff_toInt_le]
      rw [Int64.lt_iff_toInt_lt] at hx
      omega
    · have : j = xs.length := by simp at hj; omega
      subst this
      simp
  · simp only [List.getElem_append_right (Nat.le_refl _), Nat.sub_self, List.getElem_cons_zero,
      List.getElem_append_left hj]
    have hle := h.le j hj
    rw [hvi, Int64.le_iff_toInt_le] at hle
    rw [Int64.lt_iff_toInt_lt] at hx ⊢
    omega

/-- A load not below the least one so far leaves the first least where it is. -/
theorem IsFirstLeast.snoc_of_le {xs : List Int64} {i : Nat} {v x : Int64}
    (h : IsFirstLeast xs i) (hv : xs[i]? = some v) (hx : v ≤ x) :
    IsFirstLeast (xs ++ [x]) i := by
  have hi := h.lt_length
  have hvi : xs[i] = v := by simpa [hi] using hv
  refine ⟨by simp; omega, fun j hj => ?_, fun j hj => ?_⟩
  · rw [List.getElem_append_left hi]
    rcases Nat.lt_or_ge j xs.length with hj' | hj'
    · rw [List.getElem_append_left hj']
      exact h.le j hj'
    · have : j = xs.length := by simp at hj; omega
      subst this
      simpa [hvi] using hx
  · rw [List.getElem_append_left hi, List.getElem_append_left (by omega)]
    exact h.lt_of_lt j hj

/-- **The scan's invariant**: after the loads `pre`, the best index and load of `leastFrom` are
a first least one of them, so the rest of the scan ends at a first least index of the whole. -/
theorem leastFrom_isFirstLeast :
    ∀ (rest pre : List Int64) (bi : Nat) (bv : Int64), IsFirstLeast pre bi →
      pre[bi]? = some bv → IsFirstLeast (pre ++ rest) (leastFrom (bi, bv) pre.length rest) := by
  intro rest
  induction rest with
  | nil => intro pre bi bv h _; simpa [leastFrom] using h
  | cons x rest ih =>
    intro pre bi bv h hv
    have hi := h.lt_length
    simp only [leastFrom]
    have hsplit : pre ++ x :: rest = (pre ++ [x]) ++ rest := by simp
    rw [hsplit, show pre.length + 1 = (pre ++ [x]).length by simp]
    split
    · rename_i hx
      exact ih _ _ _ (h.snoc_of_lt hv hx) (by simp)
    · rename_i hx
      have hle : bv ≤ x := by
        rw [Int64.lt_iff_toInt_lt] at hx
        rw [Int64.le_iff_toInt_le]
        omega
      exact ih _ _ _ (h.snoc_of_le hv hle) (by rw [List.getElem?_append_left hi]; exact hv)

/-- A list has one first least index. -/
theorem IsFirstLeast.le_of_isFirstLeast {xs : List Int64} {i j : Nat} (hi : IsFirstLeast xs i)
    (hj : IsFirstLeast xs j) : i ≤ j := by
  apply Nat.le_of_not_lt
  intro hji
  -- `j` comes first, so its load is below the least load at `i`
  have hlt := hi.lt_of_lt j hji
  have hle := hj.le i hi.lt_length
  rw [Int64.lt_iff_toInt_lt] at hlt
  rw [Int64.le_iff_toInt_le] at hle
  omega

theorem IsFirstLeast.unique {xs : List Int64} {i j : Nat} (hi : IsFirstLeast xs i)
    (hj : IsFirstLeast xs j) : i = j :=
  Nat.le_antisymm (hi.le_of_isFirstLeast hj) (hj.le_of_isFirstLeast hi)

theorem leastLoaded_isFirstLeast {xs : List Int64} {i : Nat} (h : leastLoaded xs = some i) :
    IsFirstLeast xs i := by
  cases xs with
  | nil => simp [leastLoaded] at h
  | cons x rest =>
    simp only [leastLoaded, Option.some.injEq] at h
    subst h
    exact leastFrom_isFirstLeast rest [x] 0 x (IsFirstLeast.singleton x) rfl

theorem leastLoaded_isSome {xs : List Int64} (h : xs ≠ []) : ∃ i, leastLoaded xs = some i := by
  cases xs with
  | nil => exact absurd rfl h
  | cons x rest => exact ⟨_, rfl⟩

/-- The scan returns exactly the first least index. -/
theorem leastLoaded_eq_some_iff {xs : List Int64} {i : Nat} :
    leastLoaded xs = some i ↔ IsFirstLeast xs i := by
  refine ⟨leastLoaded_isFirstLeast, fun h => ?_⟩
  -- a list with a least index is not empty, so the scan returns an index, and there is only one
  have hne : xs ≠ [] := List.ne_nil_of_length_pos (Nat.lt_of_le_of_lt (Nat.zero_le i) h.lt_length)
  obtain ⟨j, hj⟩ := leastLoaded_isSome hne
  rw [hj, (leastLoaded_isFirstLeast hj).unique h]

/-- Handing a job to the least-loaded of no workers halts, leaving the node as it was. -/
theorem Node.assign_nil (job : Job) (b : Batch) (n : Node) :
    assign [] job b n = .error ⟨leastLoadedEmptyMessage⟩ n := rfl

/-- **The least-loaded worker.** The scan over the workers' loads returns an index exactly when
there are workers, and the index it returns is the first least load: no load is below it and
every earlier one is above it, for every signed load, negatives and ties included. With no
workers, handing out a job halts with the scan's message. -/
theorem least_loaded_picks_first_minimum (ws : List Worker) :
    (ws ≠ [] ↔ ∃ i, leastLoaded (ws.map (·.workload)) = some i) ∧
    (∀ i, leastLoaded (ws.map (·.workload)) = some i ↔ IsFirstLeast (ws.map (·.workload)) i) ∧
    ∀ (job : Job) (b : Batch) (n : Node),
      assign [] job b n = .error ⟨"least_loaded called without workers"⟩ n := by
  refine ⟨⟨fun hne => leastLoaded_isSome (by simpa using hne), fun ⟨i, hi⟩ hnil => ?_⟩,
    fun i => leastLoaded_eq_some_iff, Node.assign_nil⟩
  subst hnil
  simp [leastLoaded] at hi

/-! ## Dispatches -/

/-- One job handed out during a batch. -/
structure Dispatch where
  /-- the slot of the batch's worker list the job went to -/
  slot : Nat
  jobId : String
  /-- the worker as it was called, its in-run load already raised -/
  worker : Worker
  job : Job
  answer : Except Failure Bool

namespace Dispatch

/-- The job as sent: with its job id and its worker's id filled in. -/
def request (d : Dispatch) : Job := d.job.addressed d.jobId d.worker.id

/-- The call the worker received. -/
def call (d : Dispatch) : Call := ⟨d.worker, d.request⟩

/-- The assignment a batch report lists for the dispatch. -/
def assignment (d : Dispatch) : Assignment := ⟨d.jobId, d.job.streamId, d.job.feed, d.worker.id⟩

/-- Why the dispatch failed: a refusal is a rejection of the job's stream by the worker; an
error is reported as it came. -/
def failure (d : Dispatch) : Option Failure :=
  match d.answer with
  | .ok true => none
  | .ok false => some (.rejected d.worker.id d.job.streamId)
  | .error e => some e

/-- Whether the worker took the job. -/
def accepted (d : Dispatch) : Bool := d.failure.isNone

end Dispatch

/-! ## The batch's copy of the workers -/

/-- The in-run load of the worker in slot `i` after the dispatches `L`: its listed load, plus
`speculativeLoad` for every job sent to it, less `failureBackoff` for every one of those that
failed. -/
def inRunLoad (L : List Dispatch) (i : Nat) (w : Worker) : Int64 :=
  w.workload + Int64.ofNat (L.countP (·.slot == i)) * speculativeLoad -
    Int64.ofNat (L.countP fun d => d.slot == i && !d.accepted) * failureBackoff

/-- The batch's copy of the workers `ws` after the dispatches `L`. -/
def afterLedger (ws : List Worker) (L : List Dispatch) : List Worker :=
  ws.mapIdx fun i w => { w with workload := inRunLoad L i w }

@[simp] theorem length_afterLedger (ws : List Worker) (L : List Dispatch) :
    (afterLedger ws L).length = ws.length := by
  simp [afterLedger]

theorem afterLedger_nil (ws : List Worker) : afterLedger ws [] = ws := by
  apply List.ext_getElem (by simp)
  intro i _ _
  simp [afterLedger, inRunLoad]

theorem getElem?_afterLedger (ws : List Worker) (L : List Dispatch) (i : Nat) :
    (afterLedger ws L)[i]? = ws[i]?.map fun w => { w with workload := inRunLoad L i w } := by
  simp [afterLedger]

theorem getElem?_shiftLoad (ws : List Worker) (i j : Nat) (δ : Int64) :
    (shiftLoad ws i δ)[j]? =
      ws[j]?.map fun w => if i = j then { w with workload := w.workload + δ } else w := by
  simp only [shiftLoad, List.getElem?_modify]
  by_cases h : i = j <;> simp [h]

/-- Each dispatch moves its own slot's load by 3, and back by 1 when it failed. -/
theorem inRunLoad_snoc (L : List Dispatch) (d : Dispatch) (i : Nat) (w : Worker) :
    inRunLoad (L ++ [d]) i w =
      if d.slot = i then
        inRunLoad L i w + speculativeLoad - (if d.accepted then 0 else failureBackoff)
      else inRunLoad L i w := by
  simp only [inRunLoad, List.countP_append, List.countP_cons, List.countP_nil, Int64.ofNat_add]
  by_cases hs : d.slot = i <;> cases d.accepted <;> simp [hs] <;> grind

/-- **The copy moves as `assign` moves it**: raising the chosen slot by 3, then lowering it by 1
when the job failed, gives the copy of the longer ledger. -/
theorem afterLedger_snoc (ws : List Worker) (L : List Dispatch) (d : Dispatch) :
    afterLedger ws (L ++ [d]) =
      if d.accepted then shiftLoad (afterLedger ws L) d.slot speculativeLoad
      else shiftLoad (shiftLoad (afterLedger ws L) d.slot speculativeLoad) d.slot
        (-failureBackoff) := by
  apply List.ext_getElem?
  intro i
  cases hw : ws[i]? with
  | none => cases d.accepted <;> simp [getElem?_shiftLoad, getElem?_afterLedger, hw]
  | some w =>
    by_cases hs : d.slot = i
    · -- the chosen slot: raised by 3, and lowered by 1 after a failure
      cases ha : d.accepted
      · simp [ha, getElem?_shiftLoad, getElem?_afterLedger, hw, inRunLoad_snoc, hs,
          Int64.sub_eq_add_neg]
      · simp [ha, getElem?_shiftLoad, getElem?_afterLedger, hw, inRunLoad_snoc, hs]
    · -- every other slot keeps its load
      cases d.accepted <;> simp [getElem?_shiftLoad, getElem?_afterLedger, hw, inRunLoad_snoc, hs]

/-! ## The node after a ledger -/

/-- The node after the dispatches `L`: one job id drawn for each, their calls recorded and their
failures reported, in order. -/
def Node.after (n : Node) (L : List Dispatch) : Node :=
  { n with
    jobs := n.jobs + L.length
    trace := { n.trace with
      calls := n.trace.calls ++ L.map (·.call)
      reported := n.trace.reported ++ L.filterMap (·.failure) } }

@[simp] theorem Node.after_nil (n : Node) : n.after [] = n := by
  simp [Node.after]

theorem Node.after_append (n : Node) (L L' : List Dispatch) :
    (n.after L).after L' = n.after (L ++ L') := by
  simp [Node.after, Nat.add_assoc]

@[simp] theorem Node.after_answer (n : Node) (L : List Dispatch) : (n.after L).answer = n.answer :=
  rfl

@[simp] theorem Node.after_jobIdOf (n : Node) (L : List Dispatch) :
    (n.after L).jobIdOf = n.jobIdOf := rfl

@[simp] theorem Node.after_jobs (n : Node) (L : List Dispatch) :
    (n.after L).jobs = n.jobs + L.length := rfl

@[simp] theorem Node.after_directory (n : Node) (L : List Dispatch) :
    (n.after L).directory = n.directory := rfl

/-- One thing a batch leaves in the node's trace: a failure it reported on its own, or a
dispatch. -/
inductive Entry where
  | report (e : Failure)
  | dispatch (d : Dispatch)

namespace Entry

/-- The dispatches among the entries, in order. -/
def dispatches (es : List Entry) : List Dispatch :=
  es.filterMap fun
    | .report _ => none
    | .dispatch d => some d

/-- The failures an entry reports: its own, or its dispatch's. -/
def failures : Entry → List Failure
  | .report e => [e]
  | .dispatch d => d.failure.toList

@[simp] theorem dispatches_append (es es' : List Entry) :
    dispatches (es ++ es') = dispatches es ++ dispatches es' := by
  simp [dispatches]

@[simp] theorem dispatches_map_dispatch (L : List Dispatch) :
    dispatches (L.map .dispatch) = L := by
  unfold dispatches
  rw [List.filterMap_map]
  exact List.filterMap_some

@[simp] theorem dispatches_map_report (es : List Failure) :
    dispatches (es.map .report) = [] := by
  unfold dispatches
  rw [List.filterMap_map]
  exact List.filterMap_eq_nil_iff.2 fun _ _ => rfl

end Entry

/-- The node after the entries `es`: one job id drawn for each dispatch, the dispatches' calls
recorded, and every failure reported, in order. -/
def Node.log (n : Node) (es : List Entry) : Node :=
  { n with
    jobs := n.jobs + (Entry.dispatches es).length
    trace := { n.trace with
      calls := n.trace.calls ++ (Entry.dispatches es).map (·.call)
      reported := n.trace.reported ++ es.flatMap Entry.failures } }

@[simp] theorem Node.log_nil (n : Node) : n.log [] = n := by
  simp [Node.log, Entry.dispatches]

theorem Node.log_append (n : Node) (es es' : List Entry) :
    (n.log es).log es' = n.log (es ++ es') := by
  simp [Node.log, Nat.add_assoc]

theorem Node.after_eq_log (n : Node) (L : List Dispatch) : n.after L = n.log (L.map .dispatch) := by
  simp only [Node.after, Node.log, Entry.dispatches_map_dispatch, List.flatMap_map, Entry.failures]
  congr
  induction L with
  | nil => rfl
  | cons d L ih => simp [List.filterMap_cons, ih]; cases d.failure <;> rfl

theorem Node.log_report (n : Node) (e : Failure) : n.log [.report e] = n.reporting e := by
  simp [Node.log, Node.reporting, Entry.dispatches, Entry.failures]

@[simp] theorem Node.log_answer (n : Node) (es : List Entry) : (n.log es).answer = n.answer := rfl

@[simp] theorem Node.log_jobIdOf (n : Node) (es : List Entry) :
    (n.log es).jobIdOf = n.jobIdOf := rfl

@[simp] theorem Node.log_jobs (n : Node) (es : List Entry) :
    (n.log es).jobs = n.jobs + (Entry.dispatches es).length := rfl

@[simp] theorem Node.log_directory (n : Node) (es : List Entry) :
    (n.log es).directory = n.directory := rfl

@[simp] theorem Node.log_faults (n : Node) (es : List Entry) : (n.log es).faults = n.faults := rfl

/-- The batch report with the dispatches `L` added: the accepted ones to `assigned`, the others
to `failed`, each in order. -/
def Batch.add (b : Batch) (L : List Dispatch) : Batch :=
  { b with
    assigned := b.assigned ++ (L.filter (·.accepted)).map (·.assignment)
    failed := b.failed ++ (L.filter (!·.accepted)).map (·.assignment) }

@[simp] theorem Batch.add_nil (b : Batch) : b.add [] = b := by
  simp [Batch.add]

theorem Batch.add_append (b : Batch) (L L' : List Dispatch) :
    (b.add L).add L' = b.add (L ++ L') := by
  simp [Batch.add]

@[simp] theorem Batch.add_skipped (b : Batch) (L : List Dispatch) : (b.add L).skipped = b.skipped :=
  rfl

/-- The report of a batch over the workers `ws` that made the dispatches `L` and skipped
`skipped` items: its assignments, its failures, and the final load of every worker of its
copy. -/
def Batch.ofLedger (ws : List Worker) (L : List Dispatch) (skipped : Nat) : Batch where
  assigned := (L.filter (·.accepted)).map (·.assignment)
  failed := (L.filter (!·.accepted)).map (·.assignment)
  skipped
  workloads := (afterLedger ws L).map fun w => (w.id, w.workload)

/-! ## Handing out one job -/

/-- How a batch that began at node `n` over the workers `ws` hands out its next job after the
dispatches `L`: to the first least-loaded slot of its copy, the worker called with its load
raised by `speculativeLoad`, under the next fresh job id, and answered as the node's workers
answer that call. -/
structure Dispatch.Next (n : Node) (ws : List Worker) (L : List Dispatch) (d : Dispatch) :
    Prop where
  slot : IsFirstLeast ((afterLedger ws L).map (·.workload)) d.slot
  worker : ∃ w, (afterLedger ws L)[d.slot]? = some w ∧
    d.worker = { w with workload := w.workload + speculativeLoad }
  jobId : d.jobId = n.jobIdOf (n.jobs + L.length + 1)
  answer : d.answer = n.answer d.worker d.request

/-- Every dispatch of the ledger `L` was made as `Dispatch.Next` says, from the ones before it. -/
def Ledger.Valid (n : Node) (ws : List Worker) (L : List Dispatch) : Prop :=
  ∀ k (hk : k < L.length), Dispatch.Next n ws (L.take k) L[k]

theorem Ledger.Valid.nil (n : Node) (ws : List Worker) : Ledger.Valid n ws [] :=
  fun k hk => absurd hk (Nat.not_lt_zero k)

theorem Ledger.Valid.snoc {n : Node} {ws : List Worker} {L : List Dispatch} {d : Dispatch}
    (h : Ledger.Valid n ws L) (hd : Dispatch.Next n ws L d) : Ledger.Valid n ws (L ++ [d]) := by
  intro k hk
  simp only [List.length_append, List.length_singleton] at hk
  rcases Nat.lt_or_ge k L.length with hlt | hge
  · rw [List.take_append_of_le_length (Nat.le_of_lt hlt), List.getElem_append_left hlt]
    exact h k hlt
  · have hk : k = L.length := by omega
    subst hk
    simpa using hd

theorem nextJobId_run (n : Node) :
    nextJobId n = .ok (n.jobIdOf (n.jobs + 1)) { n with jobs := n.jobs + 1 } := rfl

theorem send_run (w : Worker) (j : Job) (n : Node) :
    send w j n = .ok (n.answer w j)
      { n with trace := { n.trace with calls := n.trace.calls ++ [⟨w, j⟩] } } := rfl

/-- **One job handed out.** Over a non-empty copy in the state the ledger `L` left it, from any
node that answers and numbers jobs as the batch's first node `n` did and has drawn one job id
for each dispatch of `L`, `assign` makes exactly one more dispatch `d` of the job, made as
`Dispatch.Next` says: the copy becomes that of `L ++ [d]`, the report gains `d`, and the node
draws one job id, records the call and reports the failure, if any. -/
theorem assign_afterLedger (n : Node) {ws : List Worker} (hws : ws ≠ []) (L : List Dispatch)
    (j : Job) (b : Batch) (m : Node) (hans : m.answer = n.answer) (hids : m.jobIdOf = n.jobIdOf)
    (hjobs : m.jobs = n.jobs + L.length) :
    ∃ d, d.job = j ∧ Dispatch.Next n ws L d ∧
      assign (afterLedger ws L) j b m =
        .ok (afterLedger ws (L ++ [d]), b.add [d]) (m.after [d]) := by
  have hne : (afterLedger ws L).map (·.workload) ≠ [] :=
    List.ne_nil_of_length_pos (by simpa using List.length_pos_iff.2 hws)
  obtain ⟨i, hi⟩ := leastLoaded_isSome hne
  have hfirst := leastLoaded_isFirstLeast hi
  have hlt : i < (afterLedger ws L).length := by simpa using hfirst.lt_length
  obtain ⟨w, hw⟩ : ∃ w, (afterLedger ws L)[i]? = some w :=
    ⟨_, List.getElem?_eq_getElem hlt⟩
  have hw' : (shiftLoad (afterLedger ws L) i speculativeLoad)[i]? =
      some { w with workload := w.workload + speculativeLoad } := by
    simp [getElem?_shiftLoad, hw]
  refine ⟨⟨i, n.jobIdOf (n.jobs + L.length + 1),
    { w with workload := w.workload + speculativeLoad },
    j, n.answer { w with workload := w.workload + speculativeLoad }
      (j.addressed (n.jobIdOf (n.jobs + L.length + 1)) w.id)⟩,
    rfl, ⟨hfirst, ⟨w, hw, rfl⟩, rfl, rfl⟩, ?_⟩
  rw [afterLedger_snoc]
  simp only [assign, hi, hw']
  rw [Node.bind_run_ok (nextJobId_run m), Node.bind_run_ok (send_run _ _ _)]
  -- the three answers a worker can give: taken, refused, failed
  cases h : n.answer { w with workload := w.workload + speculativeLoad }
      (j.addressed (n.jobIdOf (n.jobs + L.length + 1)) w.id) with
  | ok ok =>
    cases ok
    · simp only [hans, hids, hjobs, h]
      rw [Node.bind_run_ok (Node.report_run _ _)]
      simp [Dispatch.accepted, Dispatch.failure, Batch.add, Node.after, Node.reporting,
        Dispatch.call, Dispatch.request, Dispatch.assignment, pure, EStateM.pure, hans, hids, hjobs]
    · simp only [hans, hids, hjobs, h]
      simp [Dispatch.accepted, Dispatch.failure, Batch.add, Node.after, Dispatch.call,
        Dispatch.request, Dispatch.assignment, pure, EStateM.pure, hans, hids, hjobs]
  | error e =>
    simp only [hans, hids, hjobs, h]
    rw [Node.bind_run_ok (Node.report_run _ _)]
    simp [Dispatch.accepted, Dispatch.failure, Batch.add, Node.after, Node.reporting, Dispatch.call,
      Dispatch.request, Dispatch.assignment, pure, EStateM.pure, hans, hids, hjobs]

end StreamDispatch
