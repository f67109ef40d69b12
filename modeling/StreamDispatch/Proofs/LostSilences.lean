import Mathlib.Data.List.Permutation
import StreamDispatch.Proofs.Process

/-!
# Silence reports lost inside a guarded save

Handlers that read a stream, change it and save it back hold the state guard from the read to
the save, so two of them never overlap inside that window. A silence report does not take the
guard: it replaces the silences with one directory call of its own. When that call falls between
a guarded handler's read and its save, the save writes back the silences it read, and the
reported silences are gone although the report answered success.

`silence_report_lost_inside_guarded_save` states this for every guarded save (any change that
keeps a stream's id and silences, followed by any unguarded tail that keeps the directory) and
every report of new silences: some schedule lets both calls answer success, leaves the stream
with its old silences, and ends with a directory that neither serial order gives.
-/

namespace StreamDispatch

open Time

/-! ## Tables -/

theorem putBy_putBy {α : Type} (key : α → Nat) {x y : α} (h : key x = key y) :
    ∀ xs : List α, putBy key y (putBy key x xs) = putBy key y xs
  | [] => by simp [putBy, h]
  | z :: zs => by
    by_cases hlt : key x < key z
    · have hlt' : key y < key z := h ▸ hlt
      simp [putBy, hlt', h]
    · by_cases heq : key x = key z
      · simp [putBy, heq, ← h]
      · have hlt' : ¬ key y < key z := h ▸ hlt
        have heq' : ¬ key y = key z := h ▸ heq
        simp only [putBy, hlt, heq, hlt', heq', if_false]
        rw [putBy_putBy key h zs]

namespace Directory

theorem putStream_putStream (d : Directory) {x y : Stream} (h : x.id = y.id) :
    (d.putStream x).putStream y = d.putStream y := by
  simp [putStream, putBy_putBy Stream.id h]

theorem replaceSilences_of_stream {d : Directory} {s : Nat} {st : Stream}
    (h : d.stream s = .ok st) (silences : List Silence) :
    d.replaceSilences s silences = .ok (d.putStream { st with silences }) := by
  unfold replaceSilences modifyStream
  rw [h]
  rfl

end Directory

/-! ## The calls as processes -/

/-- The silences a report of `starts` and `ends` sets. -/
def reportedSilences (starts ends : List Nat) : List Silence :=
  (starts.zip ends).map fun (a, b) => ⟨a, b⟩

namespace Proc

/-- A silence report: none of its steps takes the guard. -/
def silenceReport (w : String) (s : Nat) (starts ends : List Nat) : Proc Unit := do
  ignore (must (Node.workerById w))
  ignore (must (Node.streamById s))
  if starts.length ≠ ends.length then
    fail (.invalidArgument s!"{starts.length} silence starts but {ends.length} ends")
  else if starts.isEmpty then pure ()
  else must (Node.replaceSilences s (reportedSilences starts ends))

/-- Holding the guard, reads stream `s`, saves `f` of it, and goes on with `after` on the saved
record. -/
def saveGuarded (s : Nat) (f : Stream → Stream) (after : Stream → Proc Unit) : Proc Unit :=
  guarded do
    let st ← must (Node.streamById s)
    must (Node.saveStream (f st))
    after (f st)

/-- A call that looks its worker up and then changes stream `s` by `f` under the guard. -/
def guardedSave (w : String) (s : Nat) (f : Stream → Stream) (after : Stream → Proc Unit) :
    Proc Unit := do
  ignore (must (Node.workerById w))
  saveGuarded s f after

/-- A finished upload. -/
def uploadFinished (w : String) (s : Nat) (url source : String) : Proc Unit :=
  guardedSave w s
    (fun st =>
      { st with recording := true, playlists := st.playlists.set (Feed.ofLabel source) url })
    fun _ => pure ()

/-- Switches the light of a stream's hall: a hall lookup, then a light switch. -/
def switchHallOf (st : Stream) (on : Bool) : Proc Unit :=
  match st.hallId with
  | none => pure ()
  | some h => do
    match ← op (Node.hallById h) with
    | .ok hall => op (Node.switchLight hall on)
    | .error _ => pure ()

/-- A started stream; the light and the event come while the guard is still held. -/
def streamStarted (w : String) (s : Nat) (url source : String) : Proc Unit :=
  guardedSave w s
    (fun st => { st with live := true, playlists := st.playlists.set (Feed.ofLabel source) url })
    fun st => do
      switchHallOf st true
      op (Node.publish st.id true)

/-! ## The processes run as the handlers do -/

theorem Runs.bind_unit {p : Proc Unit} {x : Node.Answer Unit} (h : Runs p x) :
    Runs (p >>= fun _ => pure ()) x := by
  intro n
  rw [alone_bind, h n]
  rcases x.run n with ⟨e | ⟨⟩, n'⟩ | ⟨q, n'⟩ <;> rfl

theorem runs_fail_bind {β : Type} (e : Failure) (g : β → Node.Answer Unit) :
    Runs (fail e) (throw e >>= g) := by
  intro n
  rw [Node.run_bind_failed (Node.run_throw e n)]
  rfl

theorem runs_silenceReport (w : String) (s : Nat) (starts ends : List Nat) :
    Runs (silenceReport w s starts ends) (Node.silenceResults w s starts ends) := by
  unfold silenceReport Node.silenceResults
  refine (runs_must _).ignore.bind fun _ => (runs_must _).ignore.bind fun _ => ?_
  dsimp only
  split
  · exact runs_fail_bind _ _
  · split
    · exact runs_pure ()
    · exact runs_must _

theorem runs_uploadFinished (w : String) (s : Nat) (url source : String) :
    Runs (uploadFinished w s url source) (Node.uploadFinished w s url source) := by
  unfold uploadFinished guardedSave saveGuarded Node.uploadFinished
  refine (runs_must _).ignore.bind fun _ => Runs.guarded ?_
  exact (runs_must _).bind fun _ => (runs_must _).bind_unit

theorem runs_switchHallOf (st : Stream) (on : Bool) :
    Runs (switchHallOf st on) (ExceptT.lift (Node.switchHallOf st on)) := by
  intro n
  unfold switchHallOf Node.switchHallOf
  cases st.hallId with
  | none => rfl
  | some h =>
    dsimp only
    have hread : Node.hallById h n = .ok (n.lookup .hallById (·.hall h)) n := Node.read_run _ _ n
    rw [alone_bind, alone_op, Node.run_lift]
    simp only [Bind.bind, EStateM.bind, hread]
    cases n.lookup .hallById (·.hall h) with
    | ok hall => exact runs_op _ n
    | error e => rfl

theorem runs_streamStarted (w : String) (s : Nat) (url source : String) :
    Runs (streamStarted w s url source) (Node.streamStarted w s url source) := by
  unfold streamStarted guardedSave saveGuarded Node.streamStarted
  refine (runs_must _).ignore.bind fun _ => Runs.guarded ?_
  exact (runs_must _).bind fun _ => (runs_must _).bind fun _ =>
    (runs_switchHallOf _ _).bind fun _ => runs_op _


/-! ## The two calls run alone -/

theorem alone_guarded (body : Proc α) (n : Node) : body.guarded.alone n = body.alone n :=
  alone_releasing body n

theorem alone_ignore_must {γ : Type} {x : Op (Except Failure γ)} {n : Node} {a : γ}
    (h : x n = .ok (.ok a) n) : (ignore (must x)).alone n = .ok (.ok ()) n := by
  rw [ignore, alone_bind, alone_must, h]
  rfl

theorem unguarded_ignore_must {γ : Type} (x : Op (Except Failure γ)) :
    (ignore (must x)).Unguarded :=
  Unguarded.bind (unguarded_must x) fun _ => trivial

theorem unguarded_silenceReport (w : String) (s : Nat) (starts ends : List Nat) :
    (silenceReport w s starts ends).Unguarded := by
  unfold silenceReport
  refine Unguarded.bind (unguarded_ignore_must _) fun _ => ?_
  refine Unguarded.bind (unguarded_ignore_must _) fun _ => ?_
  split
  · exact trivial
  · split
    · exact trivial
    · exact unguarded_must _

/-- A report of silences for a known stream replaces them, and nothing else. -/
theorem silenceReport_alone (w : String) (s : Nat) (starts ends : List Nat) (n : Node)
    (x : Stream) (wk : Worker) (hw : n.lookup .workerById (·.worker w) = .ok wk)
    (hs : n.lookup .streamById (·.stream s) = .ok x)
    (hreplace : n.faults.contains .replaceSilences = false)
    (hlen : starts.length = ends.length) (hne : starts ≠ []) :
    (silenceReport w s starts ends).alone n = .ok (.ok ())
      { n with directory :=
          n.directory.putStream { x with silences := reportedSilences starts ends } } := by
  have hstream : n.directory.stream s = .ok x := by
    unfold Node.lookup at hs
    split at hs
    · cases hs
    · exact hs
  have hempty : starts.isEmpty = false := by
    cases starts with
    | nil => exact absurd rfl hne
    | cons _ _ => rfl
  have hW : Node.workerById w n = .ok (.ok wk) n := by rw [Node.workerById, Node.read_run, hw]
  have hS : Node.streamById s n = .ok (.ok x) n := by rw [Node.streamById, Node.read_run, hs]
  unfold silenceReport
  rw [alone_bind, alone_ignore_must hW]
  dsimp only
  rw [alone_bind, alone_ignore_must hS]
  dsimp only
  simp only [hlen, ne_eq, not_true_eq_false, if_false, hempty, Bool.false_eq_true]
  rw [alone_must, Node.replaceSilences, Node.write_run, hreplace,
    Directory.replaceSilences_of_stream hstream]
  rfl

/-- A guarded save of a known stream saves `f` of it, and its tail keeps the directory. -/
theorem guardedSave_alone (w : String) (s : Nat) (f : Stream → Stream)
    (after : Stream → Proc Unit) (n : Node) (x : Stream) (wk : Worker)
    (hw : n.lookup .workerById (·.worker w) = .ok wk)
    (hs : n.lookup .streamById (·.stream s) = .ok x)
    (hsave : n.faults.contains .saveStream = false)
    (hafter : ∀ m, ∃ m', (after (f x)).alone m = .ok (.ok ()) m' ∧
      m'.directory = m.directory ∧ m'.faults = m.faults) :
    ∃ m, (guardedSave w s f after).alone n = .ok (.ok ()) m ∧
      m.directory = n.directory.putStream (f x) ∧ m.faults = n.faults := by
  obtain ⟨m, hm, hdir, hfaults⟩ := hafter { n with directory := n.directory.putStream (f x) }
  refine ⟨m, ?_, hdir, hfaults⟩
  have hW : Node.workerById w n = .ok (.ok wk) n := by rw [Node.workerById, Node.read_run, hw]
  have hS : Node.streamById s n = .ok (.ok x) n := by rw [Node.streamById, Node.read_run, hs]
  unfold guardedSave saveGuarded
  rw [alone_bind, alone_ignore_must hW]
  dsimp only
  rw [alone_guarded, alone_bind, alone_must, hS]
  dsimp only
  rw [alone_bind, alone_must, Node.saveStream, Node.write_run, hsave]
  exact hm

end Proc

/-! ## A lost silence report -/

/-- Two directories that give one stream different silences differ. -/
theorem Directory.ne_of_silences {d d' : Directory} {s : Nat} {x x' : Stream}
    (h : d.stream s = .ok x) (h' : d'.stream s = .ok x') (hne : x.silences ≠ x'.silences) :
    d ≠ d' := by
  intro heq
  rw [heq, h'] at h
  cases h
  exact hne rfl

section Race

variable {n : Node} {w v : String} {s : Nat} {f : Stream → Stream} {after : Stream → Proc Unit}
  {starts ends : List Nat} {st : Stream} {wkw wkv : Worker}

/-- The interleaving that loses the report: the save takes the guard and reads the stream, the
report runs to its end, and the save writes back what it read. Both answer success, and the
directory holds the saved record over the report's. -/
theorem guardedSave_around_report (hW : n.faults.contains .workerById = false)
    (hR : n.faults.contains .streamById = false) (hsave : n.faults.contains .saveStream = false)
    (hreplace : n.faults.contains .replaceSilences = false)
    (hww : n.directory.worker w = .ok wkw) (hwv : n.directory.worker v = .ok wkv)
    (hst : n.directory.stream s = .ok st) (hlen : starts.length = ends.length) (hne : starts ≠ [])
    (hf : ∀ x, (f x).id = x.id)
    (hafter : ∀ x, (after x).Unguarded ∧ ∀ m, ∃ m', (after x).alone m = .ok (.ok ()) m' ∧
      m'.directory = m.directory ∧ m'.faults = m.faults) :
    ∃ sched m,
      (Calls.start [Proc.guardedSave w s f after, Proc.silenceReport v s starts ends] n).run sched =
        some ⟨[.answered (.ok ()), .answered (.ok ())], none, m⟩ ∧
      m.directory = n.directory.putStream (f st) := by
  have lw : n.lookup .workerById (·.worker w) = .ok wkw := by rw [Node.lookup_served hW]; exact hww
  have lv : n.lookup .workerById (·.worker v) = .ok wkv := by rw [Node.lookup_served hW]; exact hwv
  have ls : n.lookup .streamById (·.stream s) = .ok st := by rw [Node.lookup_served hR]; exact hst
  -- the save's write and the tail that follows it, once it has read the stream
  let body : Stream → Proc Unit := fun x => do
    Proc.must (Node.saveStream (f x))
    after (f x)
  let S := Proc.silenceReport v s starts ends
  -- the node once the report has replaced the silences
  let n₂ : Node :=
    { n with
      directory := n.directory.putStream { st with silences := reportedSilences starts ends } }
  obtain ⟨n₄, hbody, hdir₄⟩ : ∃ m, (body st).alone n₂ = .ok (.ok ()) m ∧
      m.directory = n₂.directory.putStream (f st) := by
    obtain ⟨m, hm, hdir, -⟩ :=
      (hafter (f st)).2 { n₂ with directory := n₂.directory.putStream (f st) }
    refine ⟨m, ?_, hdir⟩
    rw [Proc.alone_bind, Proc.alone_must, Node.saveStream, Node.write_run]
    simp only [n₂, hsave]
    exact hm
  -- the save looks its worker up, takes the guard and reads the stream
  have hWr : Node.workerById w n = .ok (.ok wkw) n := by rw [Node.workerById, Node.read_run, lw]
  obtain ⟨m₁, h₁⟩ : ∃ m,
      (Calls.start [Proc.guardedSave w s f after, S] n).run (List.replicate m 0) =
        some ⟨[Proc.saveGuarded s f after, S], none, n⟩ :=
    Calls.run_solo_bind id (fun _ _ => rfl) _ (Proc.unguarded_ignore_must _)
      (fun _ => Proc.saveGuarded s f after) _ 0 rfl (Proc.alone_ignore_must hWr)
  have h₂ : Calls.step ⟨[Proc.saveGuarded s f after, S], none, n⟩ 0 =
      some ⟨[(Proc.must (Node.streamById s) >>= body).releasing, S], some 0, n⟩ :=
    Calls.step_acquire rfl rfl
  obtain ⟨m₃, h₃⟩ : ∃ m,
      Calls.run ⟨[(Proc.must (Node.streamById s) >>= body).releasing, S], some 0, n⟩
        (List.replicate m 0) = some ⟨[(body st).releasing, S], some 0, n⟩ :=
    Calls.run_solo_bind Proc.releasing (fun _ _ => rfl) _ (Proc.unguarded_must _) body _ 0 rfl
      (by rw [Proc.alone_must, Node.streamById, Node.read_run, ls])
  -- the report runs to its end inside that window
  obtain ⟨m₄, h₄⟩ : ∃ m,
      Calls.run ⟨[(body st).releasing, S], some 0, n⟩ (List.replicate m 1) =
        some ⟨[(body st).releasing, pure ()], some 0, n₂⟩ :=
    Calls.run_solo_bind id (fun _ _ => rfl) S (Proc.unguarded_silenceReport _ _ _ _) pure _ 1
      (by rw [id, Proc.bind_pure]; rfl)
      (Proc.silenceReport_alone v s starts ends n st wkv lv ls hreplace hlen hne)
  -- the save writes back what it read, then finishes and gives the guard back
  obtain ⟨m₅, h₅⟩ : ∃ m,
      Calls.run ⟨[(body st).releasing, pure ()], some 0, n₂⟩ (List.replicate m 0) =
        some ⟨[.answered (.ok ()), pure ()], none, n₄⟩ :=
    Calls.run_releasing (body st)
      (Proc.Unguarded.bind (Proc.unguarded_must _) fun _ => (hafter _).1) _ 0 rfl hbody
  refine ⟨List.replicate m₁ 0 ++ 0 ::
    (List.replicate m₃ 0 ++ (List.replicate m₄ 1 ++ List.replicate m₅ 0)), n₄, ?_, ?_⟩
  · rw [Calls.run_append, h₁, Option.bind_some, Calls.run_cons, h₂, Option.bind_some,
      Calls.run_append, h₃, Option.bind_some, Calls.run_append, h₄, Option.bind_some, h₅]
    rfl
  · rw [hdir₄]
    exact Directory.putStream_putStream _ (hf st).symm

/-- Run one after the other, in either order, the two calls keep the reported silences: the
report either replaces the saved record's silences or is read by the save, which keeps them. -/
theorem serial_keeps_reported_silences (hW : n.faults.contains .workerById = false)
    (hR : n.faults.contains .streamById = false) (hsave : n.faults.contains .saveStream = false)
    (hreplace : n.faults.contains .replaceSilences = false)
    (hww : n.directory.worker w = .ok wkw) (hwv : n.directory.worker v = .ok wkv)
    (hst : n.directory.stream s = .ok st) (hlen : starts.length = ends.length) (hne : starts ≠ [])
    (hf : ∀ x, (f x).id = x.id ∧ (f x).silences = x.silences)
    (hafter : ∀ x, ∀ m, ∃ m', (after x).alone m = .ok (.ok ()) m' ∧
      m'.directory = m.directory ∧ m'.faults = m.faults)
    (order : List (Proc Unit))
    (hperm : order.Perm [Proc.guardedSave w s f after, Proc.silenceReport v s starts ends])
    {rs : List (Except Failure Unit)} {m : Node} (hrun : serial order n = .ok rs m) :
    (m.directory.stream s).map (·.silences) = .ok (reportedSilences starts ends) := by
  have hid : st.id = s := Directory.id_of_stream hst
  have lw : n.lookup .workerById (·.worker w) = .ok wkw := by rw [Node.lookup_served hW]; exact hww
  have lv : n.lookup .workerById (·.worker v) = .ok wkv := by rw [Node.lookup_served hW]; exact hwv
  have ls : n.lookup .streamById (·.stream s) = .ok st := by rw [Node.lookup_served hR]; exact hst
  rcases List.perm_pair.1 hperm with rfl | rfl
  · -- the save first: the report then replaces the saved record's silences
    obtain ⟨m₁, hG, hdir₁, hfaults₁⟩ :=
      Proc.guardedSave_alone w s f after n st wkw lw ls hsave (hafter (f st))
    have lv₁ : m₁.lookup .workerById (·.worker v) = .ok wkv := by
      rw [Node.lookup_served (hfaults₁ ▸ hW), hdir₁]
      exact hwv
    have ls₁ : m₁.lookup .streamById (·.stream s) = .ok (f st) := by
      rw [Node.lookup_served (hfaults₁ ▸ hR), hdir₁, ← (hf st).1.trans hid,
        Directory.stream_putStream_self]
    have hS := Proc.silenceReport_alone v s starts ends m₁ (f st) wkv lv₁ ls₁
      (hfaults₁ ▸ hreplace) hlen hne
    simp only [serial, hG, hS] at hrun
    cases hrun
    show ((m₁.directory.putStream { f st with silences := _ }).stream s).map (·.silences) = _
    rw [← (hf st).1.trans hid]
    exact congrArg (Except.map (·.silences)) (Directory.stream_putStream_self _ _)
  · -- the report first: the save reads the reported silences and keeps them
    let n₂ : Node :=
      { n with
      directory := n.directory.putStream { st with silences := reportedSilences starts ends } }
    have hS : (Proc.silenceReport v s starts ends).alone n = .ok (.ok ()) n₂ :=
      Proc.silenceReport_alone v s starts ends n st wkv lv ls hreplace hlen hne
    -- the report changed one stream and no fault
    have hW₂ : n₂.faults.contains .workerById = false := hW
    have hR₂ : n₂.faults.contains .streamById = false := hR
    have lw₂ : n₂.lookup .workerById (·.worker w) = .ok wkw := by
      rw [Node.lookup_served hW₂]
      exact hww
    have ls₂ : n₂.lookup .streamById (·.stream s) =
        .ok { st with silences := reportedSilences starts ends } := by
      rw [Node.lookup_served hR₂, ← hid]
      exact Directory.stream_putStream_self _ _
    obtain ⟨m₂, hG, hdir₂, -⟩ :=
      Proc.guardedSave_alone w s f after n₂ _ wkw lw₂ ls₂ hsave (hafter _)
    simp only [serial, hS, hG] at hrun
    cases hrun
    rw [hdir₂, ← (hf { st with silences := reportedSilences starts ends }).1.trans hid,
      Directory.stream_putStream_self]
    exact congrArg Except.ok (hf _).2

end Race

/-- A silence report whose replacement falls between a guarded save's read and its save is lost:
both calls answer success, the stream keeps the silences the save read, and neither serial
order of the two calls ends with that directory. -/
theorem silence_report_lost_inside_guarded_save (n : Node) (w v : String) (s : Nat)
    (f : Stream → Stream) (after : Stream → Proc Unit) (starts ends : List Nat) (st : Stream)
    (hserves : ∀ m ∈ [Method.workerById, .streamById, .saveStream, .replaceSilences],
      n.faults.contains m = false)
    (hw : ∃ wk, n.directory.worker w = .ok wk) (hv : ∃ wk, n.directory.worker v = .ok wk)
    (hst : n.directory.stream s = .ok st)
    (hlen : starts.length = ends.length) (hne : starts ≠ [])
    (hnew : reportedSilences starts ends ≠ st.silences)
    (hf : ∀ x, (f x).id = x.id ∧ (f x).silences = x.silences)
    (hafter : ∀ x, (after x).Unguarded ∧ ∀ m, ∃ m', (after x).alone m = .ok (.ok ()) m' ∧
      m'.directory = m.directory ∧ m'.faults = m.faults) :
    Calls.Unserializable [Proc.guardedSave w s f after, Proc.silenceReport v s starts ends] n
      [.ok (), .ok ()] fun m => (m.directory.stream s).map (·.silences) = .ok st.silences := by
  obtain ⟨wkw, hww⟩ := hw
  obtain ⟨wkv, hwv⟩ := hv
  have hW : n.faults.contains .workerById = false := hserves _ (by simp)
  have hR : n.faults.contains .streamById = false := hserves _ (by simp)
  have hsave : n.faults.contains .saveStream = false := hserves _ (by simp)
  have hreplace : n.faults.contains .replaceSilences = false := hserves _ (by simp)
  obtain ⟨sched, m, hrun, hdir⟩ :=
    guardedSave_around_report hW hR hsave hreplace hww hwv hst hlen hne (fun x => (hf x).1) hafter
  -- the saved record, with the silences it was read with
  have hlast : m.directory.stream s = .ok (f st) := by
    rw [hdir, ← (hf st).1.trans (Directory.id_of_stream hst), Directory.stream_putStream_self]
  refine ⟨sched, _, hrun, rfl, ?_, ?_⟩
  · show (m.directory.stream s).map (·.silences) = .ok st.silences
    rw [hlast]
    exact congrArg Except.ok (hf st).2
  · intro order hperm rs m' hserial
    have hkept := serial_keeps_reported_silences hW hR hsave hreplace hww hwv hst hlen hne hf
      (fun x => (hafter x).2) order hperm hserial
    obtain ⟨x, hx, hsil⟩ : ∃ x, m'.directory.stream s = .ok x ∧
        x.silences = reportedSilences starts ends := by
      cases h : m'.directory.stream s with
      | error e =>
        rw [h] at hkept
        cases hkept
      | ok x =>
        rw [h] at hkept
        exact ⟨x, rfl, Except.ok.inj hkept⟩
    refine Directory.ne_of_silences hx hlast ?_
    rw [hsil, (hf st).2]
    exact hnew

/-- A finished upload and a silence report for one stream: run while the upload holds the guard
between its read and its save, the report is lost. -/
theorem upload_loses_concurrent_silence_report :
    Calls.Unserializable [Proc.uploadFinished "w1" 7 "u1" "COMB", Proc.silenceReport "w1" 7 [5] [9]]
      { directory :=
          { workers := [Worker.new "w1" "h1" 0 (Instant.ofParts 0 0 0)]
            streams := [Stream.new 7 1 (Instant.ofParts 0 0 0) (Instant.ofParts 0 0 0)] }
        workerIdOf := fun _ => ""
        jobIdOf := fun _ => "" }
      [.ok (), .ok ()] fun m => (m.directory.stream 7).map (·.silences) = .ok [] :=
  silence_report_lost_inside_guarded_save _ "w1" "w1" 7 _ (fun _ => pure ()) [5] [9]
    (Stream.new 7 1 (Instant.ofParts 0 0 0) (Instant.ofParts 0 0 0))
    (by decide) ⟨_, rfl⟩ ⟨_, rfl⟩ rfl rfl (by simp) (by decide) (fun _ => ⟨rfl, rfl⟩)
    fun _ => ⟨trivial, fun m => ⟨m, rfl, rfl, rfl⟩⟩

end StreamDispatch
