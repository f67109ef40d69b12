import StreamDispatch.Node.Events
import StreamDispatch.Proofs.Store

/-!
# Failed worker calls

A worker call that answers a failure has done nothing a client could see: the directory, the
live-state events and the light switches are as they were. Each call is a straight line of
lookups and checks followed by at most one write, so this follows from three properties of
calls and the way they compose:

* a *quiet* call leaves the node intact whenever it answers (a lookup, a check, a refusal);
* a call that *fails clean* leaves it intact whenever it answers a failure (a write through
  `must`, which either fails before touching anything or succeeds);
* a *sure* call never answers a failure (what follows the write: lights, events, counters,
  and every directory method whose failure the call survives).

A quiet call followed by calls that fail clean fails clean, and a call that fails clean
followed by sure calls fails clean.

The progress call is different by design: it records its updates one at a time. When it fails,
the node holds exactly the updates before the failing frame, each applied as `progressed`
applies it on its own, and nothing of the failing frame or of those after it.
-/

namespace StreamDispatch

open Time

namespace Node

variable {α β : Type}

/-! ## Running a call -/

theorem run_bind (x : Answer α) (f : α → Answer β) (n : Node) :
    (x >>= f).run n = match x.run n with
      | .ok (.ok a) n' => (f a).run n'
      | .ok (.error e) n' => .ok (.error e) n'
      | .error p n' => .error p n' := by
  rw [ExceptT.run_bind]
  simp only [bind, EStateM.bind]
  rcases x.run n with ⟨_ | _, _⟩ | ⟨_, _⟩ <;> rfl

theorem run_bind_ok {x : Answer α} {f : α → Answer β} {n n' : Node} {a : α}
    (h : x.run n = .ok (.ok a) n') : (x >>= f).run n = (f a).run n' := by
  rw [run_bind, h]

theorem run_bind_failed {x : Answer α} {f : α → Answer β} {n n' : Node} {e : Failure}
    (h : x.run n = .ok (.error e) n') : (x >>= f).run n = .ok (.error e) n' := by
  rw [run_bind, h]

theorem run_bind_halted {x : Answer α} {f : α → Answer β} {n n' : Node} {p : Panic}
    (h : x.run n = .error p n') : (x >>= f).run n = .error p n' := by
  rw [run_bind, h]

theorem discard_eq_bind (x : Answer α) : discard x = x >>= fun _ => pure () := by
  rw [Functor.discard, LawfulFunctor.map_const, Function.comp_apply, ← bind_pure_comp]

theorem run_must (x : Op (Except Failure α)) (n : Node) : (must x).run n = x n := rfl

theorem run_lift (x : Op α) (n : Node) :
    (ExceptT.lift x : Answer α).run n = (x >>= fun a => pure (.ok a)) n := rfl

theorem run_throw (e : Failure) (n : Node) : (throw e : Answer α).run n = .ok (.error e) n := rfl

theorem authenticate_run (w : String) (n : Node) :
    (authenticate w).run n = .ok (n.lookup .workerById (·.worker w)) n := by
  rw [authenticate, run_must, workerById, read_run]

/-! ## Quiet calls, calls that fail clean, and sure calls -/

/-- The node `n'` shows a client what `n` showed: the same directory, live-state events and
light switches. -/
structure Intact (n n' : Node) : Prop where
  directory : n'.directory = n.directory
  events : n'.trace.events = n.trace.events
  lights : n'.trace.lights = n.trace.lights

theorem Intact.refl (n : Node) : Intact n n := ⟨rfl, rfl, rfl⟩

theorem Intact.trans {n n' n'' : Node} (h : Intact n n') (h' : Intact n' n'') :
    Intact n n'' :=
  ⟨h'.directory.trans h.directory, h'.events.trans h.events, h'.lights.trans h.lights⟩

/-- A call that leaves the node intact whenever it answers. -/
def Quiet (x : Answer α) : Prop := ∀ n r n', x.run n = .ok r n' → Intact n n'

/-- A call that leaves the node intact whenever it answers a failure. -/
def FailsClean (x : Answer α) : Prop := ∀ n e n', x.run n = .ok (.error e) n' → Intact n n'

/-- A call that never answers a failure. -/
def Sure (x : Answer α) : Prop := ∀ n e n', x.run n ≠ .ok (.error e) n'

theorem Quiet.failsClean {x : Answer α} (h : Quiet x) : FailsClean x :=
  fun n e n' hr => h n (.error e) n' hr

theorem Sure.failsClean {x : Answer α} (h : Sure x) : FailsClean x :=
  fun n e n' hr => absurd hr (h n e n')

theorem Quiet.bind {x : Answer α} {f : α → Answer β} (hx : Quiet x) (hf : ∀ a, Quiet (f a)) :
    Quiet (x >>= f) := by
  intro n r n'' h
  rcases hr : x.run n with ⟨e | a, n'⟩ | ⟨p, n'⟩
  · rw [run_bind_failed hr] at h
    cases h
    exact hx n _ _ hr
  · rw [run_bind_ok hr] at h
    exact (hx n _ n' hr).trans (hf a n' r n'' h)
  · rw [run_bind_halted hr] at h
    cases h

theorem Quiet.bind_failsClean {x : Answer α} {f : α → Answer β} (hx : Quiet x)
    (hf : ∀ a, FailsClean (f a)) : FailsClean (x >>= f) := by
  intro n e n'' h
  rcases hr : x.run n with ⟨e' | a, n'⟩ | ⟨p, n'⟩
  · rw [run_bind_failed hr] at h
    cases h
    exact hx n _ _ hr
  · rw [run_bind_ok hr] at h
    exact (hx n _ n' hr).trans (hf a n' e n'' h)
  · rw [run_bind_halted hr] at h
    cases h

theorem FailsClean.bind_sure {x : Answer α} {f : α → Answer β} (hx : FailsClean x)
    (hf : ∀ a, Sure (f a)) : FailsClean (x >>= f) := by
  intro n e n'' h
  rcases hr : x.run n with ⟨e' | a, n'⟩ | ⟨p, n'⟩
  · rw [run_bind_failed hr] at h
    cases h
    exact hx n _ _ hr
  · rw [run_bind_ok hr] at h
    exact absurd h (hf a n' e n'')
  · rw [run_bind_halted hr] at h
    cases h

theorem Sure.bind {x : Answer α} {f : α → Answer β} (hx : Sure x) (hf : ∀ a, Sure (f a)) :
    Sure (x >>= f) := by
  intro n e n'' h
  rcases hr : x.run n with ⟨e' | a, n'⟩ | ⟨p, n'⟩
  · exact hx n e' n' hr
  · rw [run_bind_ok hr] at h
    exact hf a n' e n'' h
  · rw [run_bind_halted hr] at h
    cases h

theorem Quiet.discard {x : Answer α} (h : Quiet x) : Quiet (discard x) := by
  rw [discard_eq_bind]
  exact h.bind fun _ n r n' hr => by
    cases hr
    exact .refl n

theorem Sure.discard {x : Answer α} (h : Sure x) : Sure (discard x) := by
  rw [discard_eq_bind]
  exact h.bind fun _ n e n' hr => by cases hr

theorem quiet_pure (a : α) : Quiet (pure a : Answer α) := by
  intro n r n' h
  cases h
  exact .refl n

theorem quiet_throw (e : Failure) : Quiet (throw e : Answer α) := by
  intro n r n' h
  cases h
  exact .refl n

/-- A refusal ends the call, whatever was to follow it. -/
theorem quiet_throw_bind (e : Failure) (f : α → Answer β) : Quiet (throw e >>= f) := by
  intro n r n' h
  rw [run_bind_failed (run_throw e n)] at h
  cases h
  exact .refl n

theorem quiet_get : Quiet (get : Answer Node) := by
  intro n r n' h
  cases h
  exact .refl n

theorem quiet_halt (message : String) : Quiet (monadLift (halt message : Op α) : Answer α) := by
  intro n r n' h
  cases h

theorem quiet_must_read (m : Method) (f : Directory → Except Failure α) :
    Quiet (must (read m f)) := by
  intro n r n' h
  rw [run_must, read_run] at h
  cases h
  exact .refl n

theorem quiet_authenticate (w : String) : Quiet (authenticate w) := quiet_must_read _ _

/-- A write either fails before it changes anything or answers success. -/
theorem failsClean_must_write (m : Method) (f : Directory → Except Failure Directory) :
    FailsClean (must (write m f)) := by
  intro n e n' h
  rw [run_must, write_run] at h
  split at h
  · -- the method is failing
    cases h
    exact .refl n
  · split at h
    · cases h
    · -- the directory refuses the change
      cases h
      exact .refl n

theorem sure_pure (a : α) : Sure (pure a : Answer α) := by
  intro n e n' h
  cases h

/-- What runs as a plain operation never answers a failure: it returns or it halts. -/
theorem sure_lift (x : Op α) : Sure (ExceptT.lift x : Answer α) := by
  intro n e n' h
  rw [run_lift] at h
  rcases hr : x n with ⟨a, n₁⟩ | ⟨p, n₁⟩
  · rw [Node.bind_run_ok hr] at h
    cases h
  · rw [Node.bind_run_error hr] at h
    cases h

theorem sure_modify (f : Node → Node) : Sure (modify f : Answer Unit) := by
  intro n e n' h
  cases h

/-! ## The calls that fail clean -/

theorem join_failsClean (token hostname : String) (now : Instant) :
    FailsClean (join token hostname now) := by
  unfold join
  refine quiet_get.bind_failsClean fun n => ?_
  split
  · exact (quiet_throw _).failsClean
  · dsimp only
    split
    · exact (quiet_throw_bind _ _).failsClean
    · split
      · exact (quiet_throw_bind _ _).failsClean
      · -- the worker is saved; counting it can no longer fail
        exact (failsClean_must_write _ _).bind_sure fun _ =>
          (sure_modify _).bind fun _ => sure_pure _

theorem heartbeat_failsClean (h : Heartbeat) (now : Instant) : FailsClean (heartbeat h now) :=
  (quiet_authenticate _).bind_failsClean fun _ => failsClean_must_write _ _

theorem transcodingFinished_failsClean (w : String) (s : Nat) (path source : String) :
    FailsClean (transcodingFinished w s path source) := by
  unfold transcodingFinished
  refine (quiet_authenticate w).discard.bind_failsClean fun _ => ?_
  dsimp only
  split
  · exact (quiet_throw_bind _ _).failsClean
  · exact (quiet_must_read _ _).bind_failsClean fun _ => failsClean_must_write _ _

theorem silenceResults_failsClean (w : String) (s : Nat) (starts ends : List Nat) :
    FailsClean (silenceResults w s starts ends) := by
  unfold silenceResults
  refine (quiet_authenticate w).discard.bind_failsClean fun _ => ?_
  refine (quiet_must_read _ _).discard.bind_failsClean fun _ => ?_
  dsimp only
  split
  · exact (quiet_throw_bind _ _).failsClean
  · split
    · exact (quiet_pure _).failsClean
    · exact failsClean_must_write _ _

theorem streamStarted_failsClean (w : String) (s : Nat) (url source : String) :
    FailsClean (streamStarted w s url source) := by
  unfold streamStarted
  refine (quiet_authenticate w).discard.bind_failsClean fun _ => ?_
  refine (quiet_must_read _ _).bind_failsClean fun _ => ?_
  -- the light and the event come after the save, and cannot fail the call
  exact (failsClean_must_write _ _).bind_sure fun _ => (sure_lift _).bind fun _ => sure_lift _

theorem streamFinished_failsClean (w : String) (s : Nat) : FailsClean (streamFinished w s) := by
  unfold streamFinished
  -- past the worker lookup everything is best effort
  refine (quiet_authenticate w).discard.bind_failsClean fun _ => Sure.failsClean ?_
  refine (sure_lift _).bind fun r => ?_
  dsimp only
  split
  · exact (sure_lift _).bind fun _ => (sure_lift _).discard.bind fun _ => sure_lift _
  · exact (sure_lift _).discard.bind fun _ => sure_lift _

theorem uploadFinished_failsClean (w : String) (s : Nat) (url source : String) :
    FailsClean (uploadFinished w s url source) := by
  unfold uploadFinished
  refine (quiet_authenticate w).discard.bind_failsClean fun _ => ?_
  exact (quiet_must_read _ _).bind_failsClean fun _ => failsClean_must_write _ _

/-- A self-stream request only reads. -/
theorem selfStream_quiet (w key : String) (now : Instant) : Quiet (selfStream w key now) := by
  unfold selfStream
  refine (quiet_authenticate w).discard.bind fun _ => ?_
  refine (quiet_must_read _ _).bind fun s => ?_
  refine quiet_get.bind fun n => ?_
  dsimp only
  split
  · exact quiet_halt _
  · exact quiet_throw _
  · exact (quiet_must_read _ _).bind fun _ => quiet_pure _

/-! ## Progress frames -/

/-- One progress update recorded, checked in the order the call checks it: the progress is at
most 100, the stream is known, and the stream is saved with the feed's progress set. -/
def recorded (n : Node) (u : ProgressUpdate) : Except Failure Node := do
  if u.progress > 100 then throw (.invalidArgument s!"progress {u.progress} exceeds 100")
  let s ← n.lookup .streamById (·.stream u.streamId)
  if n.faults.contains .saveStream then throw Method.saveStream.unavailable
  pure { n with
    directory := n.directory.putStream
      { s with progress := s.progress.set (Feed.ofLabel u.version) u.progress } }

/-- One progress update applied on its own: its worker is known and the update is recorded. -/
def progressed (n : Node) (u : ProgressUpdate) : Except Failure Node := do
  discard (n.lookup .workerById (·.worker u.workerId))
  n.recorded u

/-- The frame at which a progress call stops with the failure `e` on the node `n`: a frame that
cannot be decoded relays its status, and an update fails as it fails applied on its own. -/
def StopsWith (n : Node) (e : Failure) : Except Status ProgressUpdate → Prop
  | .error st => e = .relayed st
  | .ok u => n.progressed u = .error e

theorem recordProgress_run (u : ProgressUpdate) (n : Node) :
    (recordProgress u).run n = match n.recorded u with
      | .ok n' => .ok (.ok ()) n'
      | .error e => .ok (.error e) n := by
  unfold recordProgress recorded
  by_cases hp : u.progress > 100
  · rw [if_pos hp, if_pos hp]
    rfl
  · rw [if_neg hp, if_neg hp]
    dsimp only
    rw [run_bind, run_must, streamById, read_run]
    cases hl : n.lookup .streamById (·.stream u.streamId) with
    | error e => rfl
    | ok s =>
      dsimp only
      rw [run_must, saveStream, write_run]
      by_cases hf : n.faults.contains .saveStream
      · simp only [hf, if_true]
        rfl
      · simp only [hf]
        rfl

/-- Recording an update changes one stream of the directory and nothing else. -/
theorem recorded_ok {n n' : Node} {u : ProgressUpdate} (h : n.recorded u = .ok n') :
    ∃ s, n' = { n with directory := n.directory.putStream s } := by
  unfold recorded at h
  by_cases hp : u.progress > 100
  · rw [if_pos hp] at h
    cases h
  · rw [if_neg hp] at h
    cases hl : n.lookup .streamById (·.stream u.streamId) with
    | error e =>
      rw [hl] at h
      cases h
    | ok s =>
      rw [hl] at h
      by_cases hf : n.faults.contains .saveStream
      · simp only [hf] at h
        cases h
      · simp only [hf] at h
        cases h
        exact ⟨_, rfl⟩

/-- The worker a progress call last looked up, if any, is still known on `n`: the call may
skip looking it up again. -/
def Admits (n : Node) (a : Option String) : Prop :=
  ∀ w, a = some w → ∃ wk, n.lookup .workerById (·.worker w) = .ok wk

theorem progressed_admits {n m : Node} {u : ProgressUpdate} (h : n.progressed u = .ok m) :
    Admits m (some u.workerId) := by
  intro w hw
  cases hw
  unfold progressed at h
  cases hl : n.lookup .workerById (·.worker u.workerId) with
  | error e =>
    rw [hl] at h
    cases h
  | ok wk =>
    rw [hl] at h
    -- recording saves a stream, so the worker table is the one the lookup read
    obtain ⟨s, rfl⟩ := recorded_ok h
    exact ⟨wk, hl⟩

/-- One update frame: the call applies the update as it applies on its own, looking its worker
up again only when it differs from the last one. -/
theorem progressFrom_ok_run (a : Option String) (u : ProgressUpdate)
    (us : List (Except Status ProgressUpdate)) (n : Node) (ha : Admits n a) :
    (progressFrom a (Except.ok u :: us)).run n = match n.progressed u with
      | .ok n' => (progressFrom (some u.workerId) us).run n'
      | .error e => .ok (.error e) n := by
  rw [progressFrom]
  have hrecord : (recordProgress u >>= fun _ => progressFrom (some u.workerId) us).run n =
      match n.recorded u with
      | .ok n' => (progressFrom (some u.workerId) us).run n'
      | .error e => .ok (.error e) n := by
    rw [run_bind, recordProgress_run]
    cases n.recorded u <;> rfl
  by_cases hw : a = some u.workerId
  · -- the previous update looked this worker up, and recording kept it known
    obtain ⟨wk, hwk⟩ := ha _ hw
    rw [if_neg (not_not_intro hw)]
    dsimp only
    rw [hrecord, progressed, hwk]
    rfl
  · rw [if_pos hw, run_bind, discard_eq_bind, run_bind, authenticate_run]
    dsimp only
    rw [progressed]
    cases n.lookup .workerById (·.worker u.workerId) with
    | error e => rfl
    | ok wk => exact hrecord

/-- A failed progress call holds the updates before its failing frame, applied one after the
other, and nothing of that frame or of the frames after it. -/
theorem progressFrom_failed (frames : List (Except Status ProgressUpdate)) :
    ∀ (a : Option String) (n n' : Node) (e : Failure), Admits n a →
      (progressFrom a frames).run n = .ok (.error e) n' →
      ∃ (pre : List ProgressUpdate) (bad : Except Status ProgressUpdate) (rest : List _),
        frames = pre.map .ok ++ bad :: rest ∧
        pre.foldlM progressed n = .ok n' ∧ StopsWith n' e bad := by
  induction frames with
  | nil =>
    intro a n n' e _ h
    cases h
  | cons frame frames ih =>
    intro a n n' e ha h
    cases frame with
    | error st =>
      rw [progressFrom] at h
      cases h
      exact ⟨[], .error st, frames, rfl, rfl, rfl⟩
    | ok u =>
      rw [progressFrom_ok_run a u frames n ha] at h
      cases hp : n.progressed u with
      | error e' =>
        rw [hp] at h
        cases h
        exact ⟨[], .ok u, frames, rfl, rfl, hp⟩
      | ok m =>
        rw [hp] at h
        obtain ⟨pre, bad, rest, hframes, hfold, hbad⟩ :=
          ih (some u.workerId) m n' e (progressed_admits hp) h
        refine ⟨u :: pre, bad, rest, ?_, ?_, hbad⟩
        · rw [hframes]
          rfl
        · rw [List.foldlM_cons, hp]
          exact hfold

/-! ## Failed calls -/

/-- A worker call that answers a failure leaves the directory, the live-state events and the
light switches as they were, and a failed progress call holds exactly the updates before its
first failing frame. -/
theorem failed_worker_calls_leave_no_trace :
    (∀ (frames : List (Except Status ProgressUpdate)) (n n' : Node) (e : Failure),
      (transcodingProgress frames).run n = .ok (.error e) n' →
      ∃ (pre : List ProgressUpdate) (bad : Except Status ProgressUpdate) (rest : List _),
        frames = pre.map .ok ++ bad :: rest ∧
        pre.foldlM progressed n = .ok n' ∧ StopsWith n' e bad) ∧
    (∀ token hostname now, FailsClean (join token hostname now)) ∧
    (∀ h now, FailsClean (heartbeat h now)) ∧
    (∀ w s path source, FailsClean (transcodingFinished w s path source)) ∧
    (∀ w s starts ends, FailsClean (silenceResults w s starts ends)) ∧
    (∀ w s url source, FailsClean (streamStarted w s url source)) ∧
    (∀ w s, FailsClean (streamFinished w s)) ∧
    (∀ w s url source, FailsClean (uploadFinished w s url source)) ∧
    (∀ w key now, FailsClean (selfStream w key now)) := by
  refine ⟨?_, join_failsClean, heartbeat_failsClean, transcodingFinished_failsClean,
    silenceResults_failsClean, streamStarted_failsClean, streamFinished_failsClean,
    uploadFinished_failsClean, fun w key now => (selfStream_quiet w key now).failsClean⟩
  intro frames n n' e h
  -- no worker has been looked up when the call starts
  have hnone : Admits n none := fun _ hw => nomatch hw
  exact progressFrom_failed frames none n n' e hnone h

/-- Two updates of one stream by a known worker, the second above 100 percent: the call fails
at the second and keeps the first. -/
theorem progress_call_keeps_update_before_refusal :
    ∃ n' : Node,
      (transcodingProgress [.ok ⟨"w1", 7, "PRES", 40⟩, .ok ⟨"w1", 7, "PRES", 140⟩]).run
          { directory :=
              { workers := [Worker.new "w1" "h1" 0 (Instant.ofParts 0 0 0)]
                streams := [Stream.new 7 1 (Instant.ofParts 0 0 0) (Instant.ofParts 0 0 0)] }
            workerIdOf := fun _ => ""
            jobIdOf := fun _ => "" } =
        .ok (.error (.invalidArgument "progress 140 exceeds 100")) n' ∧
      ∃ (pre : List ProgressUpdate) (bad : Except Status ProgressUpdate) (rest : List _),
        [.ok ⟨"w1", 7, "PRES", 40⟩, .ok ⟨"w1", 7, "PRES", 140⟩] =
          pre.map .ok ++ bad :: rest ∧
        pre.foldlM progressed
            { directory :=
                { workers := [Worker.new "w1" "h1" 0 (Instant.ofParts 0 0 0)]
                  streams := [Stream.new 7 1 (Instant.ofParts 0 0 0) (Instant.ofParts 0 0 0)] }
              workerIdOf := fun _ => ""
              jobIdOf := fun _ => "" } = .ok n' ∧
        StopsWith n' (.invalidArgument "progress 140 exceeds 100") bad :=
  ⟨_, rfl, failed_worker_calls_leave_no_trace.1 _ _ _ _ rfl⟩

end Node

end StreamDispatch
