import StreamDispatch.Proofs.CallEffects

/-!
# Progress frames, one update at a time

A progress call looks a frame's worker up only when it differs from the worker of the frame
before. The shortcut changes nothing a client could see: the call answers, and leaves the node,
exactly as the plain loop `progressEach` that looks every frame's worker up anew and records its
update, stopping at the first frame that fails. The shortcut is sound because recording an
update never removes a worker (`progressed_admits`).

Of the plain loop we then say what it does whole: it answers success exactly when every frame is
an update that applies, and otherwise fails with the failure of the first frame that does not,
holding the updates before it. After updates that apply, each feed of each stream shows the
percentage of the last of them for that stream and feed, and every other field is as before.
-/

namespace StreamDispatch

open Time

/-- The slots filled by a function of the feed. -/
def PerFeed.ofFn {α : Type} (g : Feed → Option α) : PerFeed α :=
  ⟨g .combined, g .presentation, g .camera⟩

@[simp] theorem PerFeed.get_ofFn {α : Type} (g : Feed → Option α) (f : Feed) :
    (PerFeed.ofFn g).get f = g f := by
  cases f <;> rfl

/-- The percentage of the last of the updates `us` for the feed `f` of the stream `k`. -/
def lastProgress (us : List ProgressUpdate) (k : Nat) (f : Feed) : Option Nat :=
  (us.reverse.find? fun u => u.streamId = k ∧ Feed.ofLabel u.version = f).map (·.progress)

@[simp] theorem PerFeed.ofFn_get {α : Type} (p : PerFeed α) : PerFeed.ofFn p.get = p := by
  cases p
  rfl

@[simp] theorem lastProgress_nil (k : Nat) (f : Feed) : lastProgress [] k f = none := rfl

theorem lastProgress_cons (u : ProgressUpdate) (us : List ProgressUpdate) (k : Nat) (f : Feed) :
    lastProgress (u :: us) k f = (lastProgress us k f).or
      (if u.streamId = k ∧ Feed.ofLabel u.version = f then some u.progress else none) := by
  unfold lastProgress
  rw [List.reverse_cons, List.find?_append, Option.map_or, List.find?_singleton]
  by_cases hu : u.streamId = k ∧ Feed.ofLabel u.version = f <;> simp [hu]

/-- A stream whose feeds show the last of the updates `us` for it, where there is one. -/
def Stream.afterUpdates (us : List ProgressUpdate) (s : Stream) : Stream :=
  { s with progress := PerFeed.ofFn fun f => (lastProgress us s.id f).or (s.progress.get f) }

@[simp] theorem Stream.afterUpdates_nil (s : Stream) : s.afterUpdates [] = s := by
  simp [afterUpdates]

/-- A stream edited by one update and then shown after later ones is the stream shown after
both, the later ones winning. -/
theorem Stream.afterUpdates_edit {u : ProgressUpdate} {s : Stream} (hs : s.id = u.streamId)
    (us : List ProgressUpdate) : (u.edit s).afterUpdates us = s.afterUpdates (u :: us) := by
  unfold afterUpdates ProgressUpdate.edit
  congr 2
  funext f
  rw [lastProgress_cons, Option.or_assoc, hs, PerFeed.set, PerFeed.get_put]
  by_cases hf : Feed.ofLabel u.version = f <;> simp [hf]

/-- An update of another stream leaves a stream's showing as it was. -/
theorem Stream.afterUpdates_cons_other {u : ProgressUpdate} {s : Stream} (hs : s.id ≠ u.streamId)
    (us : List ProgressUpdate) : s.afterUpdates (u :: us) = s.afterUpdates us := by
  unfold afterUpdates
  congr 3
  funext f
  rw [lastProgress_cons, if_neg fun h => hs h.1.symm, Option.or_none]

namespace Node

/-! ## The plain loop -/

/-- The plain loop: every frame's worker looked up anew and its update recorded, until the first
frame that fails. -/
def progressEach : List (Except Status ProgressUpdate) → Answer Unit
  | [] => pure ()
  | .error st :: _ => throw (.relayed st)
  | .ok u :: us => do
    discard (authenticate u.workerId)
    recordProgress u
    progressEach us

/-- One update frame of the plain loop applies the update as it applies on its own. -/
theorem progressEach_ok_run (u : ProgressUpdate) (us : List (Except Status ProgressUpdate))
    (n : Node) :
    (progressEach (.ok u :: us)).run n = match n.progressed u with
      | .ok n' => (progressEach us).run n'
      | .error e => .ok (.error e) n := by
  rw [progressEach, run_bind, discard_eq_bind, run_bind, authenticate_run, progressed]
  cases n.lookup .workerById (·.worker u.workerId) with
  | error e => rfl
  | ok wk =>
    show (recordProgress u >>= fun _ => progressEach us).run n = _
    rw [run_bind, recordProgress_run]
    cases n.recorded u <;> rfl

/-- Skipping the lookup of the worker just looked up changes nothing: the call runs as the plain
loop from every node that still knows that worker. -/
theorem progressFrom_eq_progressEach (frames : List (Except Status ProgressUpdate)) :
    ∀ (a : Option String) (n : Node), Admits n a →
      (progressFrom a frames).run n = (progressEach frames).run n := by
  induction frames with
  | nil => intro a n _; rfl
  | cons frame frames ih =>
    intro a n ha
    cases frame with
    | error st => rfl
    | ok u =>
      rw [progressFrom_ok_run a u frames n ha, progressEach_ok_run]
      cases hp : n.progressed u with
      | error e => rfl
      | ok m => exact ih (some u.workerId) m (progressed_admits hp)

/-! ## What the plain loop does -/

theorem foldlM_progressed_cons {n m : Node} {u : ProgressUpdate} (hp : n.progressed u = .ok m)
    (us : List ProgressUpdate) : (u :: us).foldlM progressed n = us.foldlM progressed m := by
  rw [List.foldlM_cons, hp]
  rfl

/-- Frames that all apply take the loop to where their updates, applied one after the other,
take the node. -/
theorem progressEach_append_run :
    ∀ (us : List ProgressUpdate) (rest : List (Except Status ProgressUpdate)) (n m : Node),
      us.foldlM progressed n = .ok m →
      (progressEach (us.map .ok ++ rest)).run n = (progressEach rest).run m
  | [], rest, n, m, h => by
    cases h
    rfl
  | u :: us, rest, n, m, h => by
    cases hp : n.progressed u with
    | error e =>
      rw [List.foldlM_cons, hp] at h
      cases h
    | ok n' =>
      rw [foldlM_progressed_cons hp] at h
      rw [List.map_cons, List.cons_append, progressEach_ok_run, hp]
      exact progressEach_append_run us rest n' m h

/-- The loop stops at a frame that fails, with that frame's failure and the node as it was. -/
theorem progressEach_stops {n : Node} {e : Failure} {bad : Except Status ProgressUpdate}
    (h : StopsWith n e bad) (rest : List (Except Status ProgressUpdate)) :
    (progressEach (bad :: rest)).run n = .ok (.error e) n := by
  cases bad with
  | error st =>
    cases h
    rfl
  | ok u =>
    have hp : n.progressed u = .error e := h
    rw [progressEach_ok_run, hp]

theorem progressEach_applied {us : List ProgressUpdate} {n m : Node}
    (h : us.foldlM progressed n = .ok m) :
    (progressEach (us.map .ok)).run n = .ok (.ok ()) m := by
  have hrun := progressEach_append_run us [] n m h
  rwa [List.append_nil] at hrun

theorem progressEach_stopped {pre : List ProgressUpdate} {bad : Except Status ProgressUpdate}
    {n m : Node} {e : Failure} (h : pre.foldlM progressed n = .ok m) (hbad : StopsWith m e bad)
    (rest : List (Except Status ProgressUpdate)) :
    (progressEach (pre.map .ok ++ bad :: rest)).run n = .ok (.error e) m :=
  (progressEach_append_run pre _ n m h).trans (progressEach_stops hbad rest)

/-- Every list of frames either applies whole, or applies up to a first frame that fails. -/
theorem frames_apply_or_stop :
    ∀ (frames : List (Except Status ProgressUpdate)) (n : Node),
      (∃ (us : List ProgressUpdate) (m : Node),
        frames = us.map .ok ∧ us.foldlM progressed n = .ok m) ∨
      (∃ (pre : List ProgressUpdate) (bad : Except Status ProgressUpdate) (rest : List _)
          (m : Node) (e : Failure),
        frames = pre.map .ok ++ bad :: rest ∧ pre.foldlM progressed n = .ok m ∧
          StopsWith m e bad)
  | [], n => .inl ⟨[], n, rfl, rfl⟩
  | .error st :: rest, n => .inr ⟨[], .error st, rest, n, .relayed st, rfl, rfl, rfl⟩
  | .ok u :: rest, n => by
    cases hp : n.progressed u with
    | error e => exact .inr ⟨[], .ok u, rest, n, e, rfl, rfl, hp⟩
    | ok n' =>
      rcases frames_apply_or_stop rest n' with
        ⟨us, m, rfl, hfold⟩ | ⟨pre, bad, rest', m, e, rfl, hfold, hbad⟩
      · exact .inl ⟨u :: us, m, rfl, (foldlM_progressed_cons hp us).trans hfold⟩
      · exact .inr ⟨u :: pre, bad, rest', m, e, rfl, (foldlM_progressed_cons hp pre).trans hfold,
          hbad⟩

section Outcome

variable {frames : List (Except Status ProgressUpdate)} {n n' : Node}

/-- The plain loop succeeds exactly when every frame is an update and the updates apply one
after the other, and it then holds them all. -/
theorem progressEach_eq_ok_iff :
    (progressEach frames).run n = .ok (.ok ()) n' ↔
      ∃ us : List ProgressUpdate, frames = us.map .ok ∧ us.foldlM progressed n = .ok n' := by
  constructor
  · intro h
    rcases frames_apply_or_stop frames n with
      ⟨us, m, rfl, hfold⟩ | ⟨pre, bad, rest, m, e, rfl, hfold, hbad⟩
    · rw [progressEach_applied hfold] at h
      cases h
      exact ⟨us, rfl, hfold⟩
    · rw [progressEach_stopped hfold hbad rest] at h
      cases h
  · rintro ⟨us, rfl, hfold⟩
    exact progressEach_applied hfold

/-- The plain loop fails exactly at a first frame that fails, with that frame's failure, and it
then holds the updates before it. -/
theorem progressEach_eq_failed_iff {e : Failure} :
    (progressEach frames).run n = .ok (.error e) n' ↔
      ∃ (pre : List ProgressUpdate) (bad : Except Status ProgressUpdate) (rest : List _),
        frames = pre.map .ok ++ bad :: rest ∧
        pre.foldlM progressed n = .ok n' ∧ StopsWith n' e bad := by
  constructor
  · intro h
    rcases frames_apply_or_stop frames n with
      ⟨us, m, rfl, hfold⟩ | ⟨pre, bad, rest, m, e', rfl, hfold, hbad⟩
    · rw [progressEach_applied hfold] at h
      cases h
    · rw [progressEach_stopped hfold hbad rest] at h
      cases h
      exact ⟨pre, bad, rest, rfl, hfold, hbad⟩
  · rintro ⟨pre, bad, rest, rfl, hfold, hbad⟩
    exact progressEach_stopped hfold hbad rest

/-- The plain loop always answers: no frame makes it halt. -/
theorem progressEach_answers (frames : List (Except Status ProgressUpdate)) (n : Node) :
    ∃ r n', (progressEach frames).run n = .ok r n' := by
  rcases frames_apply_or_stop frames n with
    ⟨us, m, rfl, hfold⟩ | ⟨pre, bad, rest, m, e, rfl, hfold, hbad⟩
  · exact ⟨_, _, progressEach_applied hfold⟩
  · exact ⟨_, _, progressEach_stopped hfold hbad rest⟩

end Outcome

/-! ## The last update wins -/

theorem lookup_eq_ok {α : Type} {n : Node} {m : Method} {f : Directory → Except Failure α} {a : α}
    (h : n.lookup m f = .ok a) : f n.directory = .ok a := by
  unfold lookup at h
  by_cases hm : n.faults.contains m
  · simp only [hm, if_true] at h
    cases h
  · rwa [if_neg hm] at h

/-- Recording an update edits the stream it names, whatever methods fail. -/
theorem recorded_edits {n m : Node} {u : ProgressUpdate} (h : n.recorded u = .ok m) :
    ∃ s, n.directory.stream u.streamId = .ok s ∧
      m.directory = n.directory.putStream (u.edit s) := by
  unfold recorded at h
  by_cases hp : u.progress > 100
  · rw [if_pos hp] at h
    cases h
  · rw [if_neg hp] at h
    cases hl : n.lookup .streamById (·.stream u.streamId) with
    | error e =>
      rw [hl] at h
      cases h
    | ok s =>
      rw [hl] at h
      by_cases hf : n.faults.contains .saveStream
      · simp only [hf] at h
        cases h
      · simp only [hf] at h
        cases h
        exact ⟨s, lookup_eq_ok hl, rfl⟩

theorem progressed_edits {n m : Node} {u : ProgressUpdate} (h : n.progressed u = .ok m) :
    ∃ s, n.directory.stream u.streamId = .ok s ∧
      m.directory = n.directory.putStream (u.edit s) := by
  unfold progressed at h
  cases hw : n.lookup .workerById (·.worker u.workerId) with
  | error e =>
    rw [hw] at h
    cases h
  | ok wk =>
    rw [hw] at h
    exact recorded_edits h

/-- One update that applies shows in its stream, and leaves every other stream as it was. -/
theorem stream_of_progressed {n m : Node} {u : ProgressUpdate} (h : n.progressed u = .ok m)
    (us : List ProgressUpdate) (k : Nat) :
    (m.directory.stream k).map (Stream.afterUpdates us) =
      (n.directory.stream k).map (Stream.afterUpdates (u :: us)) := by
  obtain ⟨s, hs, hm⟩ := progressed_edits h
  have hid : s.id = u.streamId := Directory.id_of_stream hs
  -- an update edits the progress alone, so the edited stream keeps its number
  have hedit : (u.edit s).id = u.streamId := hid
  rw [hm, Directory.stream_putStream, hedit]
  by_cases hk : u.streamId = k
  · -- the edited stream
    subst hk
    rw [if_pos rfl, hs]
    exact congrArg Except.ok (Stream.afterUpdates_edit hid us)
  · rw [if_neg hk]
    cases hn : n.directory.stream k with
    | error e => rfl
    | ok x =>
      have hx : x.id ≠ u.streamId := by
        rw [Directory.id_of_stream hn]
        exact Ne.symm hk
      exact congrArg Except.ok (Stream.afterUpdates_cons_other hx us).symm

/-- After updates that apply, each feed of each stream shows the percentage of the last of them
for that stream and feed; every stream that none of them names, and every other field, is as it
was. -/
theorem stream_of_foldlM_progressed :
    ∀ (us : List ProgressUpdate) (n n' : Node), us.foldlM progressed n = .ok n' → ∀ k,
      n'.directory.stream k = (n.directory.stream k).map (Stream.afterUpdates us)
  | [], n, n', h, k => by
    cases h
    cases n.directory.stream k with
    | error e => rfl
    | ok s => exact congrArg Except.ok (Stream.afterUpdates_nil s).symm
  | u :: us, n, n', h, k => by
    cases hp : n.progressed u with
    | error e =>
      rw [List.foldlM_cons, hp] at h
      cases h
    | ok m =>
      rw [foldlM_progressed_cons hp] at h
      rw [stream_of_foldlM_progressed us m n' h k]
      exact stream_of_progressed hp us k

/-! ## The progress call -/

/-- A progress call answers, and leaves the node, as the plain loop does: success exactly when
every frame is an update and the updates apply one after the other, and otherwise the failure of
the first frame that fails, holding the updates before it; it never halts. After updates that
apply, each feed of each stream shows the percentage of the last of them for it. -/
theorem progress_call_runs_as_plain_loop :
    (∀ frames n, (transcodingProgress frames).run n = (progressEach frames).run n) ∧
    (∀ frames n n', (transcodingProgress frames).run n = .ok (.ok ()) n' ↔
      ∃ us : List ProgressUpdate, frames = us.map .ok ∧ us.foldlM progressed n = .ok n') ∧
    (∀ frames n n' e, (transcodingProgress frames).run n = .ok (.error e) n' ↔
      ∃ (pre : List ProgressUpdate) (bad : Except Status ProgressUpdate) (rest : List _),
        frames = pre.map .ok ++ bad :: rest ∧
        pre.foldlM progressed n = .ok n' ∧ StopsWith n' e bad) ∧
    (∀ frames n, ∃ r n', (transcodingProgress frames).run n = .ok r n') ∧
    (∀ (us : List ProgressUpdate) n n', us.foldlM progressed n = .ok n' → ∀ k,
      n'.directory.stream k = (n.directory.stream k).map (Stream.afterUpdates us)) := by
  -- no worker has been looked up when the call starts
  have heq : ∀ frames n, (transcodingProgress frames).run n = (progressEach frames).run n :=
    fun frames n => progressFrom_eq_progressEach frames none n fun _ hw => nomatch hw
  refine ⟨heq, fun frames n n' => ?_, fun frames n n' e => ?_, fun frames n => ?_,
    stream_of_foldlM_progressed⟩
  · rw [heq]
    exact progressEach_eq_ok_iff
  · rw [heq]
    exact progressEach_eq_failed_iff
  · rw [heq]
    exact progressEach_answers frames n

/-- Three updates of one stream by two known workers in turn, the first worker twice: the call
succeeds, and each feed shows its last percentage. -/
theorem alternating_workers_progress_keeps_last_per_feed :
    ∃ n' : Node,
      (transcodingProgress
          [.ok ⟨"w1", 7, "PRES", 40⟩, .ok ⟨"w2", 7, "PRES", 60⟩, .ok ⟨"w1", 7, "CAM", 10⟩]).run
          { directory :=
              { workers := [Worker.new "w1" "h1" 0 (Instant.ofParts 0 0 0),
                  Worker.new "w2" "h2" 0 (Instant.ofParts 0 0 0)]
                streams := [Stream.new 7 1 (Instant.ofParts 0 0 0) (Instant.ofParts 0 0 0)] }
            workerIdOf := fun _ => ""
            jobIdOf := fun _ => "" } = .ok (.ok ()) n' ∧
      n'.directory.stream 7 =
        .ok { Stream.new 7 1 (Instant.ofParts 0 0 0) (Instant.ofParts 0 0 0) with
          progress := { presentation := some 60, camera := some 10 } } := by
  obtain ⟨n', hfold⟩ : ∃ n', [(⟨"w1", 7, "PRES", 40⟩ : ProgressUpdate), ⟨"w2", 7, "PRES", 60⟩,
      ⟨"w1", 7, "CAM", 10⟩].foldlM progressed
        { directory :=
            { workers := [Worker.new "w1" "h1" 0 (Instant.ofParts 0 0 0),
                Worker.new "w2" "h2" 0 (Instant.ofParts 0 0 0)]
              streams := [Stream.new 7 1 (Instant.ofParts 0 0 0) (Instant.ofParts 0 0 0)] }
          workerIdOf := fun _ => ""
          jobIdOf := fun _ => "" } = .ok n' := ⟨_, rfl⟩
  refine ⟨n', (progress_call_runs_as_plain_loop.2.1 _ _ _).2 ⟨_, rfl, hfold⟩, ?_⟩
  rw [progress_call_runs_as_plain_loop.2.2.2.2 _ _ _ hfold 7]
  rfl

end Node

end StreamDispatch
