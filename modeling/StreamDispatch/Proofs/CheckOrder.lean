import Mathlib.Data.List.TakeWhile
import StreamDispatch.Proofs.HallLights
import StreamDispatch.Proofs.LostSilences
import StreamDispatch.Proofs.ProgressFrames
import StreamDispatch.Proofs.SelfStream

/-!
# The order of a call's checks

Each worker call makes its checks in a fixed order: lookups, validations and at most one write,
each of which may refuse the call. A call fails with the failure of the first check that fails,
and leaves the node as it was; when no check fails, it does not fail at all (`FailsAs`).

The checks are written as a list of optional failures and read by `firstFailure`. A check that
needs what an earlier lookup read sits behind `readThen`. Every call but joining looks its
worker up first, so a worker that is not known learns nothing about streams or keys; the
lookup refuses an unknown id as unauthenticated and a failing worker table with a storage
failure (`authCheck_eq`).

The proofs never unfold a call past its first step: one lemma per way a call can begin (a read,
a validation, a write followed by steps that cannot fail) builds each call's statement.
-/

namespace StreamDispatch

open Time

namespace Text

theorem forall_blank_of_dropBlank {cs : List Char} (h : ∀ c ∈ dropBlank cs, isBlank c = true) :
    ∀ c ∈ cs, isBlank c = true := by
  induction cs with
  | nil => exact fun _ h => nomatch h
  | cons c cs ih =>
    by_cases hc : isBlank c = true
    · -- a leading blank is dropped, and the rest is read on
      have hrest : dropBlank (c :: cs) = dropBlank cs := List.dropWhile_cons_of_pos hc
      rw [hrest] at h
      intro x hx
      rcases List.mem_cons.1 hx with rfl | hx
      · exact hc
      · exact ih h x hx
    · have hkeep : dropBlank (c :: cs) = c :: cs := List.dropWhile_cons_of_neg hc
      rw [hkeep] at h
      exact absurd (h c List.mem_cons_self) hc

/-- A text trims to nothing exactly when every character of it is blank. -/
theorem trimBlank_isEmpty_iff (s : String) :
    (trimBlank s).isEmpty = true ↔ s.toList.all isBlank = true := by
  rw [String.isEmpty_iff, trimBlank, String.ofList_eq_empty_iff, List.reverse_eq_nil_iff,
    dropBlank, List.dropWhile_eq_nil_iff, List.all_eq_true]
  simp only [List.mem_reverse]
  constructor
  · exact forall_blank_of_dropBlank
  · intro h c hc
    exact h c (List.dropWhile_subset _ hc)

end Text

namespace Node

variable {α β : Type}

/-! ## Checks -/

/-- The failure an answer carries, if any. -/
def failureOf : Except Failure α → Option Failure
  | .ok _ => none
  | .error e => some e

/-- The failure of the first check that fails, the checks made in order. -/
def firstFailure : List (Option Failure) → Option Failure
  | [] => none
  | c :: cs => c.or (firstFailure cs)

/-- A check that refuses with `e` when `c` holds. -/
def refusal (c : Prop) [Decidable c] (e : Failure) : Option Failure := if c then some e else none

theorem refusal_congr {c c' : Prop} [Decidable c] [Decidable c'] (h : c ↔ c') (e : Failure) :
    refusal c e = refusal c' e := by
  unfold refusal
  by_cases hc : c
  · rw [if_pos hc, if_pos (h.1 hc)]
  · rw [if_neg hc, if_neg (mt h.2 hc)]

/-- The check of a directory write that can fail only while its method is down. -/
def outage (n : Node) (m : Method) : Option Failure :=
  refusal (n.faults.contains m = true) m.unavailable

/-- The check of the calling worker. -/
def authCheck (n : Node) (w : String) : Option Failure := failureOf (n.lookup .workerById (·.worker w))

/-- The check of the stream with a number. -/
def streamCheck (n : Node) (k : Nat) : Option Failure := failureOf (n.lookup .streamById (·.stream k))

/-- The checks made with what a lookup read, once it read something. -/
def readThen (r : Except Failure α) (cs : α → List (Option Failure)) : List (Option Failure) :=
  match r with
  | .ok a => cs a
  | .error e => [some e]

/-- The checks after a publishing window: an open window goes on to `cs`, a shut one refuses
with `e`, and one off the clock halts the call, which then fails no check. -/
def windowThen (r : Except Overflow Bool) (e : Failure) (cs : List (Option Failure)) :
    List (Option Failure) :=
  match r with
  | .ok true => cs
  | .ok false => [some e]
  | .error _ => []

/-- The checks of one progress update: its worker, its percentage, its stream and the save. -/
def progressChecks (n : Node) (u : ProgressUpdate) : List (Option Failure) :=
  [n.authCheck u.workerId,
    refusal (u.progress > 100) (.invalidArgument s!"progress {u.progress} exceeds 100"),
    n.streamCheck u.streamId, n.outage .saveStream]

/-- The checks of one progress frame: one that cannot be decoded refuses with its status. -/
def frameChecks (n : Node) : Except Status ProgressUpdate → List (Option Failure)
  | .error st => [some (.relayed st)]
  | .ok u => n.progressChecks u

/-- The call `x` fails on `n` exactly as the checks `cs` say: with the failure of the first
check that fails, leaving `n` as it was, and not at all when every check passes. -/
def FailsAs (x : Answer α) (n : Node) (cs : List (Option Failure)) : Prop :=
  ∀ e n', x.run n = .ok (.error e) n' ↔ firstFailure cs = some e ∧ n' = n

theorem failureOf_eq_some_iff {r : Except Failure α} {e : Failure} :
    failureOf r = some e ↔ r = .error e := by
  cases r <;> simp [failureOf]

/-- The worker lookup refuses an unknown id as unauthenticated, and a failing worker table with
its storage failure. -/
theorem authCheck_eq (n : Node) (w : String) :
    n.authCheck w =
      if n.faults.contains .workerById then some Method.workerById.unavailable
      else if ∃ x ∈ n.directory.workers, x.id = w then none
      else some (.unauthenticated w) := by
  unfold authCheck lookup
  by_cases hm : n.faults.contains .workerById = true
  · simp only [hm, if_true]
    rfl
  · simp only [hm, Bool.false_eq_true, if_false]
    unfold Directory.worker findBy
    cases hfind : n.directory.workers.find? (fun x => decide (x.id = w)) with
    | none =>
      have hnone : ¬ ∃ x ∈ n.directory.workers, x.id = w := by
        rintro ⟨x, hx, hid⟩
        exact absurd (decide_eq_true hid) (by simpa using List.find?_eq_none.1 hfind x hx)
      rw [if_neg hnone]
      rfl
    | some x =>
      have hid := List.find?_some hfind
      have hsome : ∃ x ∈ n.directory.workers, x.id = w :=
        ⟨x, List.mem_of_find?_eq_some hfind, of_decide_eq_true hid⟩
      rw [if_pos hsome]
      rfl

/-- The empty key names no stream, whatever the streams' keys. -/
theorem lookup_streamWithKey_empty (n : Node) :
    n.lookup .streamByKey (·.streamWithKey "") =
      .error (if n.faults.contains .streamByKey then Method.streamByKey.unavailable
        else .streamKeyNotFound "") := by
  unfold lookup
  split <;> rfl

/-! ## How a call's checks compose -/

section Compose

variable {n : Node} {cs : List (Option Failure)}

theorem FailsAs.of_failed {x : Answer α} {e : Failure} (h : x.run n = .ok (.error e) n)
    (hc : firstFailure cs = some e) : FailsAs x n cs := by
  intro e' n'
  rw [h, hc]
  constructor
  · intro h'
    injection h' with he hn
    injection he with he
    exact ⟨congrArg some he, hn.symm⟩
  · rintro ⟨he, rfl⟩
    cases he
    rfl

theorem FailsAs.of_never {x : Answer α} (h : ∀ e n', x.run n ≠ .ok (.error e) n')
    (hc : firstFailure cs = none) : FailsAs x n cs := by
  intro e n'
  refine ⟨fun hr => absurd hr (h e n'), ?_⟩
  rintro ⟨he, -⟩
  rw [hc] at he
  cases he

/-- A check that passes changes nothing. -/
theorem FailsAs.cons_none {x : Answer α} (h : FailsAs x n cs) : FailsAs x n (none :: cs) := h

theorem FailsAs.of_run_eq {x y : Answer α} (h : x.run n = y.run n) (hy : FailsAs y n cs) :
    FailsAs x n cs := by
  intro e n'
  rw [h]
  exact hy e n'

/-- A step that reads `r` without changing the node, followed by checks that do not need it. -/
theorem FailsAs.bind_check {x : Answer α} {f : α → Answer β} {r : Except Failure α}
    (hx : x.run n = .ok r n) (hf : ∀ a, r = .ok a → FailsAs (f a) n cs) :
    FailsAs (x >>= f) n (failureOf r :: cs) := by
  cases r with
  | error e => exact .of_failed (run_bind_failed hx) rfl
  | ok a => exact .of_run_eq (run_bind_ok hx) (hf a rfl)

theorem FailsAs.discard_bind {x : Answer α} {f : Unit → Answer β} {r : Except Failure α}
    (hx : x.run n = .ok r n) (hf : ∀ a, r = .ok a → FailsAs (f ()) n cs) :
    FailsAs (discard x >>= f) n (failureOf r :: cs) := by
  rw [Task.discard_bind]
  exact .bind_check hx hf

/-- A validation that refuses with `e` when `c` holds, followed by the rest of the call. -/
theorem FailsAs.ite {c : Prop} [Decidable c] {e : Failure} {k : Unit → Answer β}
    (hk : FailsAs (k ()) n cs) :
    FailsAs (if c then throw e >>= k else k ()) n (refusal c e :: cs) := by
  by_cases hc : c
  · rw [if_pos hc]
    exact .of_failed (run_bind_failed (run_throw e n)) (by simp [firstFailure, refusal, hc])
  · rw [if_neg hc]
    unfold refusal
    rw [if_neg hc]
    exact hk

/-- A write the directory accepts, followed by steps that cannot fail: the call fails only
while the write's method is down. -/
theorem FailsAs.write_bind {m : Method} {g : Directory → Except Failure Directory}
    {f : Unit → Answer β} {d : Directory} (hg : g n.directory = .ok d) (hf : ∀ u, Sure (f u)) :
    FailsAs (must (write m g) >>= f) n [n.outage m] := by
  by_cases hm : n.faults.contains m = true
  · have hw : (must (write m g)).run n = .ok (.error m.unavailable) n := by
      rw [run_must, write_run, if_pos hm]
    exact .of_failed (run_bind_failed hw) (by simp [firstFailure, outage, refusal, hm])
  · have hw : (must (write m g)).run n = .ok (.ok ()) { n with directory := d } := by
      rw [run_must, write_run, if_neg hm, hg]
    refine .of_never (fun e n' => ?_) (by simp [firstFailure, outage, refusal, hm])
    rw [run_bind_ok hw]
    exact hf () _ e n'

theorem FailsAs.write {m : Method} {g : Directory → Except Failure Directory} {d : Directory}
    (hg : g n.directory = .ok d) : FailsAs (must (write m g)) n [n.outage m] := by
  have hpure := FailsAs.write_bind (m := m) (f := pure) hg fun _ => sure_pure _
  rwa [bind_pure] at hpure

end Compose

/-! ## The calls -/

section Calls

variable (n : Node)

theorem must_read_run {γ : Type} (m : Method) (g : Directory → Except Failure γ) :
    (must (read m g)).run n = .ok (n.lookup m g) n := by
  rw [run_must, read_run]

theorem join_failsAs (token hostname : String) (now : Instant) :
    FailsAs (join token hostname now) n
      [refusal (n.settings.joinToken = none) (.permissionDenied "joining is disabled"),
        refusal (n.settings.joinToken ≠ some token) (.permissionDenied "invalid join token"),
        refusal (hostname.toList.all Text.isBlank = true)
          (.invalidArgument "hostname is required"),
        n.outage .saveWorker] := by
  rw [← refusal_congr (Text.trimBlank_isEmpty_iff hostname)]
  unfold join
  refine .of_run_eq (run_bind_ok run_get) ?_
  dsimp only
  cases hj : n.settings.joinToken with
  | none => exact .of_failed (run_throw _ n) (by simp [firstFailure, refusal])
  | some expected =>
    -- with a token configured, joining is enabled and the token is compared with it
    have hdisabled : refusal (some expected = none) (.permissionDenied "joining is disabled") =
        none := by
      simp [refusal]
    have htoken : refusal (some expected ≠ some token) (.permissionDenied "invalid join token") =
        refusal (token ≠ expected) (.permissionDenied "invalid join token") := by
      unfold refusal
      by_cases h : token = expected
      · simp [h]
      · simp [h, Ne.symm h]
    dsimp only
    rw [hdisabled, htoken]
    refine FailsAs.cons_none (FailsAs.ite (FailsAs.ite ?_))
    -- the worker is saved; counting it can no longer fail
    exact .write_bind rfl fun _ => (sure_modify _).bind fun _ => sure_pure _

theorem heartbeat_failsAs (h : Heartbeat) (now : Instant) :
    FailsAs (heartbeat h now) n [n.authCheck h.workerId, n.outage .saveWorker] :=
  .bind_check (authenticate_run _ n) fun _ _ => .write rfl

theorem transcodingFinished_failsAs (w : String) (k : Nat) (path source : String) :
    FailsAs (transcodingFinished w k path source) n
      [n.authCheck w, refusal path.isEmpty (.invalidArgument "file path is required"),
        n.streamCheck k, n.outage .saveStream] := by
  unfold transcodingFinished
  refine .discard_bind (authenticate_run w n) fun _ _ => .ite ?_
  exact .bind_check (must_read_run n _ _) fun _ _ => .write rfl

theorem streamStarted_failsAs (w : String) (k : Nat) (url source : String) :
    FailsAs (streamStarted w k url source) n
      [n.authCheck w, n.streamCheck k, n.outage .saveStream] := by
  unfold streamStarted
  refine .discard_bind (authenticate_run w n) fun _ _ => ?_
  refine .bind_check (must_read_run n _ _) fun _ _ => ?_
  -- the light and the event come after the save, and cannot fail the call
  exact .write_bind rfl fun _ => (sure_lift _).bind fun _ => sure_lift _

/-- Past the worker lookup, a finished stream is best effort: only the lookup can fail it. -/
theorem streamFinished_failsAs (w : String) (k : Nat) :
    FailsAs (streamFinished w k) n [n.authCheck w] := by
  unfold streamFinished
  refine .discard_bind (authenticate_run w n) fun _ _ => .of_never (fun e n' => ?_) rfl
  refine (sure_lift _).bind (fun r => ?_) n e n'
  dsimp only
  split
  · exact (sure_lift _).bind fun _ => (sure_lift _).discard.bind fun _ => sure_lift _
  · exact (sure_lift _).discard.bind fun _ => sure_lift _

theorem uploadFinished_failsAs (w : String) (k : Nat) (url source : String) :
    FailsAs (uploadFinished w k url source) n
      [n.authCheck w, n.streamCheck k, n.outage .saveStream] := by
  unfold uploadFinished
  refine .discard_bind (authenticate_run w n) fun _ _ => ?_
  exact .bind_check (must_read_run n _ _) fun _ _ => .write rfl

theorem silenceResults_failsAs (w : String) (k : Nat) (starts ends : List Nat) :
    FailsAs (silenceResults w k starts ends) n
      [n.authCheck w, n.streamCheck k,
        refusal (starts.length ≠ ends.length)
          (.invalidArgument s!"{starts.length} silence starts but {ends.length} ends"),
        if starts.isEmpty then none else n.outage .replaceSilences] := by
  unfold silenceResults
  refine .discard_bind (authenticate_run w n) fun _ _ => ?_
  refine .discard_bind (must_read_run n _ _) fun s hs => .ite ?_
  dsimp only
  by_cases he : starts.isEmpty = true
  · -- no interval: nothing is written
    rw [if_pos he, if_pos he]
    exact .of_never (sure_pure () n) rfl
  · -- the stream was found, so only the method being down can refuse the write
    rw [if_neg he, if_neg he]
    exact .write (Directory.replaceSilences_of_stream (lookup_eq_ok hs) _)

/-- A self-stream request checks its worker, then its key, then the stream's publishing window,
then the stream's course; a window off the clock halts it, and then it fails no check. -/
theorem selfStream_failsAs (w key : String) (now : Instant) :
    FailsAs (selfStream w key now) n
      (n.authCheck w :: readThen (n.lookup .streamByKey (·.streamWithKey key)) fun s =>
        windowThen (withinPublishWindow s now (windowSpan n.settings.selfStreamTolerance))
          (.outsideWindow s.id) [failureOf (n.lookup .courseById (·.course s.courseId))]) := by
  cases hw : n.lookup .workerById (·.worker w) with
  | error e =>
    refine .of_failed (selfStream_run_unknown hw) ?_
    simp [firstFailure, authCheck, failureOf, hw]
  | ok wk =>
    have hauth : n.authCheck w = none := by simp [authCheck, failureOf, hw]
    rw [hauth]
    refine .cons_none ?_
    cases hs : n.lookup .streamByKey (·.streamWithKey key) with
    | error e => exact .of_failed (selfStream_run_no_key hw hs) rfl
    | ok s =>
      dsimp only [readThen]
      cases hwin : withinPublishWindow s now (windowSpan n.settings.selfStreamTolerance) with
      | error o =>
        have hrun : (selfStream w key now).run n = .error ⟨o.message⟩ n := by
          rw [selfStream_run_found hw hs, hwin]
        exact .of_never (fun e n' h => by rw [hrun] at h; cases h) rfl
      | ok b =>
        cases b with
        | false =>
          have hrun : (selfStream w key now).run n = .ok (.error (.outsideWindow s.id)) n := by
            rw [selfStream_run_found hw hs, hwin]
          exact .of_failed hrun rfl
        | true =>
          cases hc : n.lookup .courseById (·.course s.courseId) with
          | error e =>
            have hrun : (selfStream w key now).run n = .ok (.error e) n := by
              rw [selfStream_run_found hw hs, hwin]
              dsimp only
              rw [hc]
            exact .of_failed hrun rfl
          | ok c =>
            have hrun : (selfStream w key now).run n =
                .ok (.ok ⟨s.id, c.slug, c.term, c.year, s.start.unixMillis, c.vodEnabled⟩) n := by
              rw [selfStream_run_found hw hs, hwin]
              dsimp only
              rw [hc]
            exact .of_never (fun e n' h => by rw [hrun] at h; cases h) rfl

/-- With its worker and stream found, a report of no silences succeeds and writes nothing,
whether or not the silence table is down. -/
theorem silenceResults_without_intervals {w : String} {k : Nat} {wk : Worker} {s : Stream}
    (hw : n.lookup .workerById (·.worker w) = .ok wk)
    (hs : n.lookup .streamById (·.stream k) = .ok s) :
    (silenceResults w k [] []).run n = .ok (.ok ()) n := by
  unfold silenceResults
  rw [Task.discard_bind, run_bind_ok ((authenticate_run w n).trans (by rw [hw])),
    Task.discard_bind, streamById, run_bind_ok ((must_read_run n _ _).trans (by rw [hs]))]
  rfl

end Calls

/-! ## Progress frames -/

/-- Recording an update checks its percentage, then its stream, then the save. -/
theorem recorded_failure (n : Node) (u : ProgressUpdate) :
    failureOf (n.recorded u) =
      firstFailure [refusal (u.progress > 100) (.invalidArgument s!"progress {u.progress} exceeds 100"),
        n.streamCheck u.streamId, n.outage .saveStream] := by
  unfold recorded streamCheck outage refusal
  by_cases hp : u.progress > 100
  · simp only [if_pos hp]
    rfl
  · simp only [if_neg hp]
    cases n.lookup .streamById (·.stream u.streamId) with
    | error e => rfl
    | ok s =>
      by_cases hf : n.faults.contains .saveStream = true
      · simp only [if_pos hf]
        rfl
      · simp only [if_neg hf]
        rfl

/-- An update applied on its own checks its worker before anything else. -/
theorem progressed_failure (n : Node) (u : ProgressUpdate) :
    failureOf (n.progressed u) = firstFailure (n.progressChecks u) := by
  unfold progressed progressChecks authCheck
  cases n.lookup .workerById (·.worker u.workerId) with
  | error e => rfl
  | ok wk => exact recorded_failure n u

/-- A progress call stops at a frame exactly when the frame's first failing check fails. -/
theorem stopsWith_iff (n : Node) (e : Failure) (frame : Except Status ProgressUpdate) :
    StopsWith n e frame ↔ firstFailure (n.frameChecks frame) = some e := by
  cases frame with
  | error st =>
    show e = .relayed st ↔ some (Failure.relayed st) = some e
    exact ⟨fun h => h ▸ rfl, fun h => (Option.some.inj h).symm⟩
  | ok u =>
    show n.progressed u = .error e ↔ _
    rw [← failureOf_eq_some_iff, progressed_failure]
    rfl

/-- A progress call fails exactly at a first frame whose checks fail, with the failure of its
first failing check, holding the updates before it. -/
theorem transcodingProgress_failed_iff (frames : List (Except Status ProgressUpdate))
    (n n' : Node) (e : Failure) :
    (transcodingProgress frames).run n = .ok (.error e) n' ↔
      ∃ (pre : List ProgressUpdate) (bad : Except Status ProgressUpdate) (rest : List _),
        frames = pre.map .ok ++ bad :: rest ∧ pre.foldlM progressed n = .ok n' ∧
          firstFailure (n'.frameChecks bad) = some e := by
  -- no worker has been looked up when the call starts
  have hplain : (transcodingProgress frames).run n = (progressEach frames).run n :=
    progressFrom_eq_progressEach frames none n fun _ hw => nomatch hw
  rw [hplain, progressEach_eq_failed_iff]
  simp only [stopsWith_iff]

/-! ## Every call -/

/-- **Every call fails at its first failing check.** Every call but joining looks its worker up
before anything else, refusing an unknown id as unauthenticated and a failing worker table with
a storage failure; a progress call does so for each update, before its other checks. Joining
checks that it is enabled, then the token (the empty token is a token like any other), then that
the hostname is not blank, then the save. A finished transcoding checks its path before its
stream; a silence report checks its stream before the lengths of its intervals, and a report of
no intervals succeeds without writing. A self-stream request checks its key, then the stream's
window, then the course; the empty key names no stream. -/
theorem worker_calls_fail_at_first_failing_check :
    (∀ (n : Node) (w : String), n.authCheck w =
      if n.faults.contains .workerById then some Method.workerById.unavailable
      else if ∃ x ∈ n.directory.workers, x.id = w then none
      else some (.unauthenticated w)) ∧
    (∀ (n : Node) (token hostname : String) (now : Instant),
      FailsAs (join token hostname now) n
        [refusal (n.settings.joinToken = none) (.permissionDenied "joining is disabled"),
          refusal (n.settings.joinToken ≠ some token) (.permissionDenied "invalid join token"),
          refusal (hostname.toList.all Text.isBlank = true)
            (.invalidArgument "hostname is required"),
          n.outage .saveWorker]) ∧
    (∀ (n : Node) (h : Heartbeat) (now : Instant),
      FailsAs (heartbeat h now) n [n.authCheck h.workerId, n.outage .saveWorker]) ∧
    (∀ (frames : List (Except Status ProgressUpdate)) (n n' : Node) (e : Failure),
      (transcodingProgress frames).run n = .ok (.error e) n' ↔
        ∃ (pre : List ProgressUpdate) (bad : Except Status ProgressUpdate) (rest : List _),
          frames = pre.map .ok ++ bad :: rest ∧ pre.foldlM progressed n = .ok n' ∧
            firstFailure (n'.frameChecks bad) = some e) ∧
    (∀ (n : Node) (w : String) (k : Nat) (path source : String),
      FailsAs (transcodingFinished w k path source) n
        [n.authCheck w, refusal path.isEmpty (.invalidArgument "file path is required"),
          n.streamCheck k, n.outage .saveStream]) ∧
    (∀ (n : Node) (w : String) (k : Nat) (starts ends : List Nat),
      FailsAs (silenceResults w k starts ends) n
        [n.authCheck w, n.streamCheck k,
          refusal (starts.length ≠ ends.length)
            (.invalidArgument s!"{starts.length} silence starts but {ends.length} ends"),
          if starts.isEmpty then none else n.outage .replaceSilences]) ∧
    (∀ (n : Node) (w : String) (k : Nat) (wk : Worker) (s : Stream),
      n.lookup .workerById (·.worker w) = .ok wk → n.lookup .streamById (·.stream k) = .ok s →
      (silenceResults w k [] []).run n = .ok (.ok ()) n) ∧
    (∀ (n : Node) (w : String) (k : Nat) (url source : String),
      FailsAs (streamStarted w k url source) n
        [n.authCheck w, n.streamCheck k, n.outage .saveStream]) ∧
    (∀ (n : Node) (w : String) (k : Nat), FailsAs (streamFinished w k) n [n.authCheck w]) ∧
    (∀ (n : Node) (w : String) (k : Nat) (url source : String),
      FailsAs (uploadFinished w k url source) n
        [n.authCheck w, n.streamCheck k, n.outage .saveStream]) ∧
    (∀ (n : Node) (w key : String) (now : Instant),
      FailsAs (selfStream w key now) n
        (n.authCheck w :: readThen (n.lookup .streamByKey (·.streamWithKey key)) fun s =>
          windowThen (withinPublishWindow s now (windowSpan n.settings.selfStreamTolerance))
            (.outsideWindow s.id) [failureOf (n.lookup .courseById (·.course s.courseId))])) ∧
    (∀ n : Node, n.lookup .streamByKey (·.streamWithKey "") =
      .error (if n.faults.contains .streamByKey then Method.streamByKey.unavailable
        else .streamKeyNotFound "")) :=
  ⟨authCheck_eq, join_failsAs, heartbeat_failsAs, transcodingProgress_failed_iff,
    transcodingFinished_failsAs, silenceResults_failsAs,
    fun n _ _ _ _ hw hs => silenceResults_without_intervals n hw hs, streamStarted_failsAs,
    streamFinished_failsAs, uploadFinished_failsAs, selfStream_failsAs,
    lookup_streamWithKey_empty⟩

/-- A report of no silences from a known worker about a known stream succeeds while the silence
table is down: it never reaches the write. -/
theorem empty_silence_report_skips_failing_write :
    (silenceResults "w1" 7 [] []).run
        { directory :=
            { workers := [Worker.new "w1" "h1" 0 (Instant.ofParts 0 0 0)]
              streams := [Stream.new 7 1 (Instant.ofParts 0 0 0) (Instant.ofParts 0 0 0)] }
          faults := [.replaceSilences]
          workerIdOf := fun _ => ""
          jobIdOf := fun _ => "" } =
      .ok (.ok ())
        { directory :=
            { workers := [Worker.new "w1" "h1" 0 (Instant.ofParts 0 0 0)]
              streams := [Stream.new 7 1 (Instant.ofParts 0 0 0) (Instant.ofParts 0 0 0)] }
          faults := [.replaceSilences]
          workerIdOf := fun _ => ""
          jobIdOf := fun _ => "" } :=
  worker_calls_fail_at_first_failing_check.2.2.2.2.2.2.1 _ "w1" 7 _ _ rfl rfl

end Node

end StreamDispatch
