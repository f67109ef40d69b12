import StreamDispatch.Proofs.FailedCalls

/-!
# What a successful worker call changes

A worker call that succeeds while every directory method is served changes one record of the
directory, in the fields the call is about, and nothing else. The changes are said through what
the directory answers, so they hold whatever order its tables are in:

* `StreamEdited d d' k f` — the stream numbered `k`, which `d` holds, reads as `f` of it in
  `d'`; every other stream, and every course, hall and worker, reads as before;
* `StreamsEdited d es d'` — the stream edits `es` made one after the other;
* `WorkerEdited d d' id f` — the same for the worker `id`;
* `WorkerAdded d d' w` — `w` is added under an id no worker had.

`successful_calls_change_only_their_record` gives, call by call, the change each call makes.
None of them moves a stream's plan: its number, course, hall, times, key and premiere flag
(`Served.plans_kept`).
-/

namespace StreamDispatch

open Time

/-! ## Changes of the directory -/

/-- What a stream's workers never change: its number, course, hall, times, key and whether it is
a premiere. -/
structure Stream.Plan where
  id : Nat
  courseId : Nat
  hallId : Option Nat
  start : Instant
  finish : Instant
  key : String
  premiere : Bool

/-- The plan of a stream. -/
def Stream.plan (s : Stream) : Stream.Plan :=
  ⟨s.id, s.courseId, s.hallId, s.start, s.finish, s.key, s.premiere⟩

namespace Directory

/-- `d'` reads as `d` with the stream numbered `k`, which `d` holds, changed by `f`: every other
stream, and every course, hall and worker, reads as before. -/
structure StreamEdited (d d' : Directory) (k : Nat) (f : Stream → Stream) : Prop where
  edited : ∃ s, d.stream k = .ok s ∧ d'.stream k = .ok (f s)
  others : ∀ j, j ≠ k → d'.stream j = d.stream j
  courses : d'.courses = d.courses
  halls : d'.halls = d.halls
  workers : d'.workers = d.workers
  windows : d'.windows = d.windows

/-- `d'` is `d` after the stream edits `es`, made one after the other. -/
inductive StreamsEdited : Directory → List (Nat × (Stream → Stream)) → Directory → Prop
  | nil (d : Directory) : StreamsEdited d [] d
  | cons {d d₁ d' : Directory} {k : Nat} {f : Stream → Stream}
      {es : List (Nat × (Stream → Stream))} :
      StreamEdited d d₁ k f → StreamsEdited d₁ es d' → StreamsEdited d ((k, f) :: es) d'

/-- `d'` reads as `d` with the worker `id`, which `d` holds, changed by `f`: every other worker,
and every course, hall and stream, reads as before. -/
structure WorkerEdited (d d' : Directory) (id : String) (f : Worker → Worker) : Prop where
  edited : ∃ w, d.worker id = .ok w ∧ d'.worker id = .ok (f w)
  others : ∀ j, j ≠ id → d'.worker j = d.worker j
  courses : d'.courses = d.courses
  halls : d'.halls = d.halls
  streams : d'.streams = d.streams
  windows : d'.windows = d.windows

/-- `d'` is `d` with the worker `w` added: its table holds `w` and the workers of `d`, the
worker `w.id` reads as `w` and every other worker, course, hall and stream as before. -/
structure WorkerAdded (d d' : Directory) (w : Worker) : Prop where
  added : d'.worker w.id = .ok w
  others : ∀ j, j ≠ w.id → d'.worker j = d.worker j
  table : d'.workers.Perm (w :: d.workers)
  courses : d'.courses = d.courses
  halls : d'.halls = d.halls
  streams : d'.streams = d.streams
  windows : d'.windows = d.windows

variable {d d' : Directory}

/-- Saving a changed copy of a stream edits it, as long as the change keeps its number. -/
theorem StreamEdited.of_putStream {k : Nat} {s : Stream} {f : Stream → Stream}
    (hs : d.stream k = .ok s) (hid : (f s).id = s.id) (hd : d' = d.putStream (f s)) :
    d.StreamEdited d' k f where
  edited := ⟨s, hs, by rw [hd, stream_putStream, if_pos (hid.trans (id_of_stream hs))]⟩
  others j hj := by
    rw [hd, stream_putStream, if_neg]
    rw [hid, id_of_stream hs]
    exact fun h => hj h.symm
  courses := by rw [hd]; rfl
  halls := by rw [hd]; rfl
  workers := by rw [hd]; rfl
  windows := by rw [hd]; rfl

theorem StreamEdited.of_modifyStream {k : Nat} {f : Stream → Stream}
    (h : d.modifyStream k f = .ok d') (hid : ∀ s, (f s).id = s.id) : d.StreamEdited d' k f := by
  unfold modifyStream at h
  cases hs : d.stream k with
  | error e =>
    rw [hs] at h
    cases h
  | ok s =>
    rw [hs] at h
    cases h
    exact .of_putStream hs (hid s) rfl

/-- Saving a changed copy of a worker edits it, as long as the change keeps its id. -/
theorem WorkerEdited.of_putWorker {id : String} {w : Worker} {f : Worker → Worker}
    (hw : d.worker id = .ok w) (hid : (f w).id = w.id) (hd : d' = d.putWorker (f w)) :
    d.WorkerEdited d' id f where
  edited := ⟨w, hw, by rw [hd, worker_putWorker, if_pos (hid.trans (id_of_worker hw))]⟩
  others j hj := by
    rw [hd, worker_putWorker, if_neg]
    rw [hid, id_of_worker hw]
    exact fun h => hj h.symm
  courses := by rw [hd]; rfl
  halls := by rw [hd]; rfl
  streams := by rw [hd]; rfl
  windows := by rw [hd]; rfl

/-- Saving a worker under an id no worker has adds it. -/
theorem WorkerAdded.of_putWorker {w : Worker} (hfresh : ∀ x ∈ d.workers, x.id ≠ w.id)
    (hd : d' = d.putWorker w) : d.WorkerAdded d' w where
  added := by rw [hd, worker_putWorker, if_pos rfl]
  others j hj := by rw [hd, worker_putWorker, if_neg fun h => hj h.symm]
  table := hd ▸ putBy_perm_of_fresh Worker.id w d.workers hfresh
  courses := by rw [hd]; rfl
  halls := by rw [hd]; rfl
  streams := by rw [hd]; rfl
  windows := by rw [hd]; rfl

/-! ## Plans -/

/-- An edit that keeps the edited stream's plan keeps every stream's plan. -/
theorem StreamEdited.plans {k : Nat} {f : Stream → Stream} (h : d.StreamEdited d' k f)
    (hf : ∀ s, (f s).plan = s.plan) (j : Nat) :
    (d'.stream j).map Stream.plan = (d.stream j).map Stream.plan := by
  by_cases hj : j = k
  · subst hj
    obtain ⟨s, hs, hs'⟩ := h.edited
    rw [hs, hs']
    exact congrArg Except.ok (hf s)
  · rw [h.others j hj]

theorem StreamsEdited.plans {es : List (Nat × (Stream → Stream))} (h : d.StreamsEdited es d')
    (hf : ∀ e ∈ es, ∀ s, (e.2 s).plan = s.plan) (j : Nat) :
    (d'.stream j).map Stream.plan = (d.stream j).map Stream.plan := by
  induction h with
  | nil => rfl
  | cons hd _ ih =>
    rw [ih fun e he => hf e (List.mem_cons_of_mem _ he)]
    exact hd.plans (hf _ List.mem_cons_self) j

end Directory

/-- What a progress update does to its stream: the update's feed shows its percentage. -/
def ProgressUpdate.edit (u : ProgressUpdate) (s : Stream) : Stream :=
  { s with progress := s.progress.set (Feed.ofLabel u.version) u.progress }

namespace Node

variable {α β : Type} {n n' : Node}

/-! ## Steps of a successful call -/

theorem run_get : (get : Answer Node).run n = .ok (.ok n) n := rfl

theorem run_modify (f : Node → Node) : (modify f : Answer Unit).run n = .ok (.ok ()) (f n) := rfl

theorem lookup_of_faults_nil (hf : n.faults = []) (m : Method) (f : Directory → Except Failure α) :
    n.lookup m f = f n.directory := by
  simp [lookup, hf]

/-- A call that succeeds made its first part succeed, and then the rest. -/
theorem run_bind_eq_ok {x : Answer α} {f : α → Answer β} {n'' : Node} {b : β}
    (h : (x >>= f).run n = .ok (.ok b) n'') :
    ∃ a n', x.run n = .ok (.ok a) n' ∧ (f a).run n' = .ok (.ok b) n'' := by
  rw [run_bind] at h
  rcases hx : x.run n with ⟨e | a, n'⟩ | ⟨p, n'⟩ <;> simp only [hx] at h
  · cases h
  · exact ⟨a, n', rfl, h⟩
  · cases h

theorem discard_eq_ok {x : Answer α} {u : Unit} (h : (discard x).run n = .ok (.ok u) n') :
    ∃ a, x.run n = .ok (.ok a) n' := by
  rw [discard_eq_bind] at h
  obtain ⟨a, m, hx, hp⟩ := run_bind_eq_ok h
  cases hp
  exact ⟨a, hx⟩

/-- A call that succeeds passed each check that could have refused it. -/
theorem ite_throw_eq_ok {c : Prop} [Decidable c] {e : Failure} {k : Unit → Answer β} {b : β}
    (h : (if c then throw e >>= k else k ()).run n = .ok (.ok b) n') :
    ¬ c ∧ (k ()).run n = .ok (.ok b) n' := by
  by_cases hc : c
  · rw [if_pos hc, run_bind_failed (run_throw e n)] at h
    cases h
  · rw [if_neg hc] at h
    exact ⟨hc, h⟩

/-- A read that succeeds answers from the directory and leaves the node as it was. -/
theorem must_read_eq_ok {m : Method} {f : Directory → Except Failure α} {a : α}
    (h : (must (read m f)).run n = .ok (.ok a) n') : n.lookup m f = .ok a ∧ n' = n := by
  rw [run_must, read_run] at h
  injection h with ha hn
  exact ⟨ha, hn.symm⟩

/-- A write that succeeds changes the directory alone, as the write says. -/
theorem must_write_eq_ok {m : Method} {f : Directory → Except Failure Directory} {u : Unit}
    (h : (must (write m f)).run n = .ok (.ok u) n') :
    ∃ d, f n.directory = .ok d ∧ n' = { n with directory := d } := by
  rw [run_must, write_run] at h
  split at h
  · cases h
  · split at h
    · next d hd =>
      injection h with _ hn
      exact ⟨d, hd, hn.symm⟩
    · cases h

theorem lift_eq_ok {x : Op α} {a : α} (h : (ExceptT.lift x : Answer α).run n = .ok (.ok a) n') :
    x n = .ok a n' := by
  rw [run_lift] at h
  rcases hx : x n with ⟨b, m⟩ | ⟨p, m⟩
  · rw [bind_run_ok hx] at h
    injection h with hb hm
    cases hb
    rw [hm]
  · rw [bind_run_error hx] at h
    cases h

theorem switchLight_run (h : Hall) (on : Bool) :
    switchLight h on n =
      .ok () { n with trace := { n.trace with
        lights := n.trace.lights ++ [⟨h.id, on, n.switch h on⟩] } } := rfl

theorem publish_run (k : Nat) (live : Bool) :
    publish k live n =
      .ok () { n with trace := { n.trace with events := n.trace.events ++ [(k, live)] } } := rfl

/-- Switching a hall's light touches the trace alone. -/
theorem switchHallOf_trace {s : Stream} {on : Bool} {u : Unit}
    (h : switchHallOf s on n = .ok u n') : ∃ t, n' = { n with trace := t } := by
  unfold switchHallOf at h
  cases hh : s.hallId with
  | none =>
    rw [hh] at h
    cases h
    exact ⟨n.trace, rfl⟩
  | some k =>
    have hread : hallById k n = .ok (n.lookup .hallById (·.hall k)) n := read_run _ _ n
    simp only [hh] at h
    rw [bind_run_ok hread] at h
    cases hl : n.lookup .hallById (·.hall k) with
    | ok hall =>
      simp only [hl, switchLight_run] at h
      cases h
      exact ⟨_, rfl⟩
    | error e =>
      simp only [hl] at h
      cases h
      exact ⟨n.trace, rfl⟩

/-- A directory method whose failure the call survives changes the directory as its change
says when it can, and leaves it otherwise. -/
theorem attempt_write_directory {m : Method} {f : Directory → Except Failure Directory}
    {r : Except Failure Unit} (hf : n.faults = [])
    (h : (attempt (write m f)).run n = .ok (.ok r) n') :
    n'.directory = match f n.directory with
      | .ok d => d
      | .error _ => n.directory := by
  have hw := lift_eq_ok h
  rw [write_run] at hw
  simp only [hf, List.contains_nil, Bool.false_eq_true, if_false] at hw
  cases hd : f n.directory with
  | ok d =>
    simp only [hd] at hw
    cases hw
    rfl
  | error e =>
    simp only [hd] at hw
    cases hw
    rfl

/-! ## The change each call makes -/

/-- A worker that joins is saved under the next fresh id, as a new worker seen now. -/
theorem join_saves {token hostname id : String} {now : Instant}
    (hrun : (join token hostname now).run n = .ok (.ok id) n') :
    id = n.workerIdOf (n.joined + 1) ∧
      n'.directory = n.directory.putWorker (Worker.new id hostname 0 now) := by
  unfold join at hrun
  obtain ⟨n₀, m, hget, h₁⟩ := run_bind_eq_ok hrun
  rw [run_get] at hget
  cases hget
  split at h₁
  · rw [run_throw] at h₁
    cases h₁
  · -- the token matches and the hostname is not blank: the worker is saved, then counted
    dsimp only at h₁
    obtain ⟨-, h₂⟩ := ite_throw_eq_ok h₁
    obtain ⟨-, h₃⟩ := ite_throw_eq_ok h₂
    obtain ⟨u, m₁, hsave, h₄⟩ := run_bind_eq_ok h₃
    obtain ⟨u₂, m₂, hcount, hid⟩ := run_bind_eq_ok h₄
    obtain ⟨d, hd, rfl⟩ := must_write_eq_ok hsave
    rw [run_modify] at hcount
    cases hcount
    cases hid
    cases hd
    exact ⟨rfl, rfl⟩

theorem join_effect {token hostname id : String} {now : Instant}
    (hfresh : ∀ w ∈ n.directory.workers, w.id ≠ n.workerIdOf (n.joined + 1))
    (hrun : (join token hostname now).run n = .ok (.ok id) n') :
    id = n.workerIdOf (n.joined + 1) ∧
      n.directory.WorkerAdded n'.directory (Worker.new id hostname 0 now) := by
  obtain ⟨rfl, hd⟩ := join_saves hrun
  exact ⟨rfl, .of_putWorker hfresh hd⟩

theorem heartbeat_effect {h : Heartbeat} {now : Instant} (hf : n.faults = [])
    (hrun : (heartbeat h now).run n = .ok (.ok ()) n') :
    n.directory.WorkerEdited n'.directory h.workerId fun w => { w with
      workload := Int64.ofNat h.workload, lastSeen := now, status := ", ".intercalate h.jobs,
      cpu := h.cpu, memory := h.memory, disk := h.disk, uptime := h.uptime,
      version := h.version } := by
  unfold heartbeat at hrun
  obtain ⟨w, m, hauth, hsave⟩ := run_bind_eq_ok hrun
  obtain ⟨hw, hm⟩ := must_read_eq_ok hauth
  obtain ⟨d, hd, rfl⟩ := must_write_eq_ok hsave
  cases hd
  subst hm
  rw [lookup_of_faults_nil hf] at hw
  exact .of_putWorker hw rfl rfl

theorem transcodingFinished_effect {w : String} {k : Nat} {path source : String}
    (hf : n.faults = []) (hrun : (transcodingFinished w k path source).run n = .ok (.ok ()) n') :
    n.directory.StreamEdited n'.directory k fun s =>
      { s with files := s.files ++ [path], progress := s.progress.erase (Feed.ofLabel source) } := by
  unfold transcodingFinished at hrun
  obtain ⟨u, m, hauth, h₁⟩ := run_bind_eq_ok hrun
  obtain ⟨_, hauth'⟩ := discard_eq_ok hauth
  obtain ⟨-, hm⟩ := must_read_eq_ok hauth'
  dsimp only at h₁
  obtain ⟨-, h₂⟩ := ite_throw_eq_ok h₁
  obtain ⟨s, m₁, hread, hsave⟩ := run_bind_eq_ok h₂
  obtain ⟨hs, hm₁⟩ := must_read_eq_ok hread
  obtain ⟨d, hd, rfl⟩ := must_write_eq_ok hsave
  cases hd
  subst m₁ m
  rw [lookup_of_faults_nil hf] at hs
  exact .of_putStream hs rfl rfl

theorem silenceResults_effect {w : String} {k : Nat} {starts ends : List Nat}
    (hrun : (silenceResults w k starts ends).run n = .ok (.ok ()) n') :
    if starts = [] then n'.directory = n.directory
    else n.directory.StreamEdited n'.directory k fun s =>
      { s with silences := (starts.zip ends).map fun (a, b) => ⟨a, b⟩ } := by
  unfold silenceResults at hrun
  obtain ⟨u, m, hauth, h₁⟩ := run_bind_eq_ok hrun
  obtain ⟨_, hauth'⟩ := discard_eq_ok hauth
  obtain ⟨-, hm⟩ := must_read_eq_ok hauth'
  obtain ⟨u₁, m₁, hread, h₂⟩ := run_bind_eq_ok h₁
  obtain ⟨_, hread'⟩ := discard_eq_ok hread
  obtain ⟨-, hm₁⟩ := must_read_eq_ok hread'
  subst m₁ m
  dsimp only at h₂
  obtain ⟨-, h₃⟩ := ite_throw_eq_ok h₂
  cases starts with
  | nil =>
    -- no silences: the call answers without writing
    cases h₃
    rfl
  | cons a as =>
    obtain ⟨d, hd, rfl⟩ := must_write_eq_ok h₃
    exact .of_modifyStream hd fun _ => rfl

theorem streamStarted_effect {w : String} {k : Nat} {url source : String} (hf : n.faults = [])
    (hrun : (streamStarted w k url source).run n = .ok (.ok ()) n') :
    n.directory.StreamEdited n'.directory k fun s =>
      { s with live := true, playlists := s.playlists.set (Feed.ofLabel source) url } := by
  unfold streamStarted at hrun
  obtain ⟨u, m, hauth, h₁⟩ := run_bind_eq_ok hrun
  obtain ⟨_, hauth'⟩ := discard_eq_ok hauth
  obtain ⟨-, hm⟩ := must_read_eq_ok hauth'
  obtain ⟨s, m₁, hread, h₂⟩ := run_bind_eq_ok h₁
  obtain ⟨hs, hm₁⟩ := must_read_eq_ok hread
  obtain ⟨u₂, m₂, hsave, h₃⟩ := run_bind_eq_ok h₂
  obtain ⟨d, hd, rfl⟩ := must_write_eq_ok hsave
  cases hd
  subst m₁ m
  -- the light and the event that follow the save touch the trace alone
  obtain ⟨u₃, m₃, hlight, hpublish⟩ := run_bind_eq_ok h₃
  obtain ⟨t, rfl⟩ := switchHallOf_trace (lift_eq_ok hlight)
  have hp : publish _ true _ = .ok u₃ n' := lift_eq_ok hpublish
  rw [publish_run] at hp
  cases hp
  rw [lookup_of_faults_nil hf] at hs
  exact .of_putStream hs rfl rfl

theorem streamFinished_effect {w : String} {k : Nat} (hf : n.faults = [])
    (hrun : (streamFinished w k).run n = .ok (.ok ()) n') :
    match n.directory.stream k with
    | .ok _ => n.directory.StreamEdited n'.directory k fun s => { s with live := false }
    | .error _ => n'.directory = n.directory := by
  unfold streamFinished at hrun
  obtain ⟨u, m, hauth, h₁⟩ := run_bind_eq_ok hrun
  obtain ⟨_, hauth'⟩ := discard_eq_ok hauth
  obtain ⟨-, hm⟩ := must_read_eq_ok hauth'
  subst m
  obtain ⟨r, m₁, hread, h₂⟩ := run_bind_eq_ok h₁
  have hr := lift_eq_ok hread
  rw [streamById, read_run] at hr
  cases hr
  -- the light, if it is switched, leaves the directory to the write that follows
  obtain ⟨t, h₃⟩ : ∃ t,
      (discard (attempt (setStreamNotLive k)) >>= fun _ =>
        (liftM (publish k false) : Answer Unit)).run { n with trace := t } = .ok (.ok ()) n' := by
    split at h₂
    · obtain ⟨u₁, m₂, hlight, h₃⟩ := run_bind_eq_ok h₂
      obtain ⟨t, rfl⟩ := switchHallOf_trace (lift_eq_ok hlight)
      exact ⟨t, h₃⟩
    · exact ⟨n.trace, h₂⟩
  obtain ⟨u₂, m₃, hwrite, hpublish⟩ := run_bind_eq_ok h₃
  obtain ⟨r, hwrite'⟩ := discard_eq_ok hwrite
  have hm₃ := attempt_write_directory (n := { n with trace := t }) hf hwrite'
  have hp : publish k false m₃ = .ok u₂ n' := lift_eq_ok hpublish
  rw [publish_run] at hp
  cases hp
  show match n.directory.stream k with
    | .ok _ => n.directory.StreamEdited m₃.directory k _
    | .error _ => m₃.directory = n.directory
  rw [hm₃]
  unfold Directory.setStreamNotLive Directory.modifyStream
  cases hs : n.directory.stream k with
  | ok s => exact .of_putStream hs rfl rfl
  | error e => rfl

theorem uploadFinished_effect {w : String} {k : Nat} {url source : String} (hf : n.faults = [])
    (hrun : (uploadFinished w k url source).run n = .ok (.ok ()) n') :
    n.directory.StreamEdited n'.directory k fun s =>
      { s with recording := true, playlists := s.playlists.set (Feed.ofLabel source) url } := by
  unfold uploadFinished at hrun
  obtain ⟨u, m, hauth, h₁⟩ := run_bind_eq_ok hrun
  obtain ⟨_, hauth'⟩ := discard_eq_ok hauth
  obtain ⟨-, hm⟩ := must_read_eq_ok hauth'
  obtain ⟨s, m₁, hread, hsave⟩ := run_bind_eq_ok h₁
  obtain ⟨hs, hm₁⟩ := must_read_eq_ok hread
  obtain ⟨d, hd, rfl⟩ := must_write_eq_ok hsave
  cases hd
  subst m₁ m
  rw [lookup_of_faults_nil hf] at hs
  exact .of_putStream hs rfl rfl

/-! ## Progress frames -/

theorem recorded_eq_ok {u : ProgressUpdate} (hf : n.faults = []) (h : n.recorded u = .ok n') :
    u.progress ≤ 100 ∧ ∃ s, n.directory.stream u.streamId = .ok s ∧
      n' = { n with directory := n.directory.putStream (u.edit s) } := by
  unfold recorded at h
  by_cases hp : u.progress > 100
  · rw [if_pos hp] at h
    cases h
  · rw [if_neg hp, lookup_of_faults_nil hf] at h
    cases hs : n.directory.stream u.streamId with
    | error e =>
      rw [hs] at h
      cases h
    | ok s =>
      have hsave : n.faults.contains .saveStream = false := by rw [hf]; rfl
      rw [hs] at h
      simp only [hsave, Bool.false_eq_true, if_false] at h
      cases h
      exact ⟨Nat.le_of_not_gt hp, s, rfl, rfl⟩

/-- An update applied on its own edits its stream, within 100 percent. -/
theorem progressed_eq_ok {u : ProgressUpdate} (hf : n.faults = []) (h : n.progressed u = .ok n') :
    u.progress ≤ 100 ∧ n.directory.StreamEdited n'.directory u.streamId u.edit ∧
      n'.faults = n.faults := by
  unfold progressed at h
  cases hw : n.lookup .workerById (·.worker u.workerId) with
  | error e =>
    rw [hw] at h
    cases h
  | ok w =>
    rw [hw] at h
    obtain ⟨hp, s, hs, rfl⟩ := recorded_eq_ok hf h
    exact ⟨hp, .of_putStream hs rfl rfl, rfl⟩

/-- Updates applied one after the other make their edits in order. -/
theorem foldlM_progressed_eq_ok :
    ∀ (us : List ProgressUpdate) (n n' : Node), n.faults = [] → us.foldlM progressed n = .ok n' →
      (∀ u ∈ us, u.progress ≤ 100) ∧
        n.directory.StreamsEdited (us.map fun u => (u.streamId, u.edit)) n'.directory
  | [], n, n', _, h => by
    cases h
    exact ⟨by simp, .nil _⟩
  | u :: us, n, n', hf, h => by
    rw [List.foldlM_cons] at h
    cases h₁ : n.progressed u with
    | error e =>
      rw [h₁] at h
      cases h
    | ok m =>
      rw [h₁] at h
      obtain ⟨hp, hedit, hfaults⟩ := progressed_eq_ok hf h₁
      obtain ⟨hps, hedits⟩ := foldlM_progressed_eq_ok us m n' (hfaults.trans hf) h
      refine ⟨?_, .cons hedit hedits⟩
      intro v hv
      rcases List.mem_cons.1 hv with rfl | hv
      · exact hp
      · exact hps v hv

/-- A progress call that succeeds read only updates, and applied each of them in order. -/
theorem progressFrom_eq_ok (frames : List (Except Status ProgressUpdate)) :
    ∀ (a : Option String) (n n' : Node), Admits n a →
      (progressFrom a frames).run n = .ok (.ok ()) n' →
      ∃ us : List ProgressUpdate, frames = us.map .ok ∧ us.foldlM progressed n = .ok n' := by
  induction frames with
  | nil =>
    intro a n n' _ h
    rw [progressFrom] at h
    cases h
    exact ⟨[], rfl, rfl⟩
  | cons frame frames ih =>
    intro a n n' ha h
    cases frame with
    | error st =>
      rw [progressFrom] at h
      cases h
    | ok u =>
      rw [progressFrom_ok_run a u frames n ha] at h
      cases hp : n.progressed u with
      | error e =>
        rw [hp] at h
        cases h
      | ok m =>
        rw [hp] at h
        obtain ⟨us, rfl, hfold⟩ := ih (some u.workerId) m n' (progressed_admits hp) h
        exact ⟨u :: us, rfl, by rw [List.foldlM_cons, hp]; exact hfold⟩

theorem transcodingProgress_effect {frames : List (Except Status ProgressUpdate)}
    (hf : n.faults = []) (hrun : (transcodingProgress frames).run n = .ok (.ok ()) n') :
    ∃ us : List ProgressUpdate, frames = us.map .ok ∧ (∀ u ∈ us, u.progress ≤ 100) ∧
      n.directory.StreamsEdited (us.map fun u => (u.streamId, u.edit)) n'.directory := by
  -- no worker has been looked up when the call starts
  obtain ⟨us, hframes, hfold⟩ :=
    progressFrom_eq_ok frames none n n' (fun _ hw => nomatch hw) hrun
  exact ⟨us, hframes, foldlM_progressed_eq_ok us n n' hf hfold⟩

/-! ## Plans across calls -/

/-- One worker call that succeeds on `n` and leaves `n'`. -/
inductive Served (n n' : Node) : Prop
  | ofJoin (token hostname : String) (now : Instant) (id : String) :
      (join token hostname now).run n = .ok (.ok id) n' → Served n n'
  | ofHeartbeat (h : Heartbeat) (now : Instant) :
      (heartbeat h now).run n = .ok (.ok ()) n' → Served n n'
  | ofTranscodingProgress (frames : List (Except Status ProgressUpdate)) :
      (transcodingProgress frames).run n = .ok (.ok ()) n' → Served n n'
  | ofTranscodingFinished (w : String) (k : Nat) (path source : String) :
      (transcodingFinished w k path source).run n = .ok (.ok ()) n' → Served n n'
  | ofSilenceResults (w : String) (k : Nat) (starts ends : List Nat) :
      (silenceResults w k starts ends).run n = .ok (.ok ()) n' → Served n n'
  | ofStreamStarted (w : String) (k : Nat) (url source : String) :
      (streamStarted w k url source).run n = .ok (.ok ()) n' → Served n n'
  | ofStreamFinished (w : String) (k : Nat) :
      (streamFinished w k).run n = .ok (.ok ()) n' → Served n n'
  | ofUploadFinished (w : String) (k : Nat) (url source : String) :
      (uploadFinished w k url source).run n = .ok (.ok ()) n' → Served n n'
  | ofSelfStream (w key : String) (now : Instant) (g : SelfStreamGrant) :
      (selfStream w key now).run n = .ok (.ok g) n' → Served n n'

theorem plans_of_streams {d d' : Directory} (h : d'.streams = d.streams) (j : Nat) :
    (d'.stream j).map Stream.plan = (d.stream j).map Stream.plan := by
  unfold Directory.stream
  rw [h]

/-- No worker call that succeeds moves a stream's plan, nor adds or removes a stream. -/
theorem Served.plans_kept (hf : n.faults = []) (h : Served n n') (j : Nat) :
    (n'.directory.stream j).map Stream.plan = (n.directory.stream j).map Stream.plan := by
  cases h with
  | ofJoin token hostname now id hrun =>
    exact plans_of_streams (by rw [(join_saves hrun).2]; rfl) j
  | ofHeartbeat h now hrun => exact plans_of_streams (heartbeat_effect hf hrun).streams j
  | ofTranscodingProgress frames hrun =>
    obtain ⟨us, -, -, hedits⟩ := transcodingProgress_effect hf hrun
    exact hedits.plans (by simp [ProgressUpdate.edit, Stream.plan]) j
  | ofTranscodingFinished w k path source hrun =>
    exact (transcodingFinished_effect hf hrun).plans (fun _ => rfl) j
  | ofSilenceResults w k starts ends hrun =>
    have he := silenceResults_effect hrun
    split at he
    · rw [he]
    · exact he.plans (fun _ => rfl) j
  | ofStreamStarted w k url source hrun =>
    exact (streamStarted_effect hf hrun).plans (fun _ => rfl) j
  | ofStreamFinished w k hrun =>
    have he := streamFinished_effect hf hrun
    split at he
    · exact he.plans (fun _ => rfl) j
    · rw [he]
  | ofUploadFinished w k url source hrun =>
    exact (uploadFinished_effect hf hrun).plans (fun _ => rfl) j
  | ofSelfStream w key now g hrun => rw [(selfStream_quiet w key now n _ n' hrun).directory]

end Node

/-! ## Successful calls -/

open Node

/-- **What a successful worker call changes.** On a node whose directory methods are all
served, a worker call that succeeds changes the directory only as follows, every other record
and field reading as before: joining adds the new worker under the fresh id, with the hostname,
workload 0 and seen now; a heartbeat sets its worker's workload, sighting, status (the jobs
joined by `", "`), resources and version; a progress call read only updates, each within
100 percent, and set each update's feed on its stream, in order; a finished transcoding appends
the file to its stream and clears that feed's progress; silence results replace the stream's
silences by the reported pairs, unless none were reported; a started stream is live with the
feed's playlist set; a finished stream, if it exists, is no longer live; a finished upload is
recorded with the feed's playlist set; a self-stream request changes nothing. No call moves a
stream's plan, nor adds or removes a stream. -/
theorem successful_calls_change_only_their_record :
    (∀ token hostname now (n n' : Node) id,
      (∀ w ∈ n.directory.workers, w.id ≠ n.workerIdOf (n.joined + 1)) →
      (join token hostname now).run n = .ok (.ok id) n' →
      id = n.workerIdOf (n.joined + 1) ∧
        n.directory.WorkerAdded n'.directory (Worker.new id hostname 0 now)) ∧
    (∀ (h : Heartbeat) now (n n' : Node), n.faults = [] →
      (heartbeat h now).run n = .ok (.ok ()) n' →
      n.directory.WorkerEdited n'.directory h.workerId fun w => { w with
        workload := Int64.ofNat h.workload, lastSeen := now, status := ", ".intercalate h.jobs,
        cpu := h.cpu, memory := h.memory, disk := h.disk, uptime := h.uptime,
        version := h.version }) ∧
    (∀ frames (n n' : Node), n.faults = [] →
      (transcodingProgress frames).run n = .ok (.ok ()) n' →
      ∃ us : List ProgressUpdate, frames = us.map .ok ∧ (∀ u ∈ us, u.progress ≤ 100) ∧
        n.directory.StreamsEdited (us.map fun u => (u.streamId, u.edit)) n'.directory) ∧
    (∀ w k path source (n n' : Node), n.faults = [] →
      (transcodingFinished w k path source).run n = .ok (.ok ()) n' →
      n.directory.StreamEdited n'.directory k fun s =>
        { s with files := s.files ++ [path], progress := s.progress.erase (Feed.ofLabel source) }) ∧
    (∀ w k starts ends (n n' : Node),
      (silenceResults w k starts ends).run n = .ok (.ok ()) n' →
      if starts = [] then n'.directory = n.directory
      else n.directory.StreamEdited n'.directory k fun s =>
        { s with silences := (starts.zip ends).map fun (a, b) => ⟨a, b⟩ }) ∧
    (∀ w k url source (n n' : Node), n.faults = [] →
      (streamStarted w k url source).run n = .ok (.ok ()) n' →
      n.directory.StreamEdited n'.directory k fun s =>
        { s with live := true, playlists := s.playlists.set (Feed.ofLabel source) url }) ∧
    (∀ w k (n n' : Node), n.faults = [] →
      (streamFinished w k).run n = .ok (.ok ()) n' →
      match n.directory.stream k with
      | .ok _ => n.directory.StreamEdited n'.directory k fun s => { s with live := false }
      | .error _ => n'.directory = n.directory) ∧
    (∀ w k url source (n n' : Node), n.faults = [] →
      (uploadFinished w k url source).run n = .ok (.ok ()) n' →
      n.directory.StreamEdited n'.directory k fun s =>
        { s with recording := true, playlists := s.playlists.set (Feed.ofLabel source) url }) ∧
    (∀ w key now (n n' : Node) g, (selfStream w key now).run n = .ok (.ok g) n' →
      n'.directory = n.directory) ∧
    (∀ n n' : Node, n.faults = [] → Served n n' →
      ∀ j, (n'.directory.stream j).map Stream.plan = (n.directory.stream j).map Stream.plan) :=
  ⟨fun _ _ _ _ _ _ hfresh hrun => join_effect hfresh hrun,
    fun _ _ _ _ hf hrun => heartbeat_effect hf hrun,
    fun _ _ _ hf hrun => transcodingProgress_effect hf hrun,
    fun _ _ _ _ _ _ hf hrun => transcodingFinished_effect hf hrun,
    fun _ _ _ _ _ _ hrun => silenceResults_effect hrun,
    fun _ _ _ _ _ _ hf hrun => streamStarted_effect hf hrun,
    fun _ _ _ _ hf hrun => streamFinished_effect hf hrun,
    fun _ _ _ _ _ _ hf hrun => uploadFinished_effect hf hrun,
    fun w key now n n' _ hrun => (selfStream_quiet w key now n _ n' hrun).directory,
    fun _ _ hf hserved => hserved.plans_kept hf⟩

/-- A worker joining, with the configured token, a registry that holds one other worker gets the
next fresh id, and the registry then holds both. -/
theorem joining_worker_is_added :
    ∃ n' : Node,
      (join "tok" "cam-2" (Instant.ofParts 0 0 0)).run
          { directory := { workers := [Worker.new "w1" "cam-1" 0 (Instant.ofParts 0 0 0)] }
            settings := { joinToken := some "tok" }, joined := 1
            workerIdOf := fun k => if k = 2 then "w2" else "w1", jobIdOf := fun _ => "" } =
        .ok (.ok "w2") n' ∧
      Directory.WorkerAdded { workers := [Worker.new "w1" "cam-1" 0 (Instant.ofParts 0 0 0)] }
        n'.directory (Worker.new "w2" "cam-2" 0 (Instant.ofParts 0 0 0)) :=
  ⟨_, rfl, (successful_calls_change_only_their_record.1 "tok" "cam-2" (Instant.ofParts 0 0 0)
    { directory := { workers := [Worker.new "w1" "cam-1" 0 (Instant.ofParts 0 0 0)] }
      settings := { joinToken := some "tok" }, joined := 1
      workerIdOf := fun k => if k = 2 then "w2" else "w1", jobIdOf := fun _ => "" }
    _ "w2" (by decide) rfl).2⟩

end StreamDispatch
