import StreamDispatch.Proofs.CallEffects
import StreamDispatch.Proofs.LostSilences

/-!
# Live-state events that contradict the stored flag

A started stream saves its live flag and publishes `(s, true)` while it holds the state guard. A
finished stream clears the flag under the guard too, but publishes `(s, false)` only after it has
given the guard back. A started stream that takes the guard in that gap saves the stream live and
publishes its event first; the finished stream's event then comes last, and viewers are told the
stream went off the air while the directory holds it live.

`finished_event_overtakes_started_save` states this for every node on which both calls succeed:
some schedule of the two calls ends with the stream stored live and the last event for it saying
that it is not, while each serial order of the two calls leaves them agreeing.
-/

namespace StreamDispatch

open Time

namespace Node

/-- The live flag of the last live-state event published for stream `s`, if any. -/
def lastLive (n : Node) (s : Nat) : Option Bool :=
  ((n.trace.events.filter fun e => e.1 == s).getLast?).map (·.2)

/-- The stored live flag of stream `s`, if the stream is there. -/
def storedLive (n : Node) (s : Nat) : Option Bool :=
  ((n.directory.stream s).map (·.live)).toOption

theorem lastLive_of_events {n : Node} {s : Nat} {b : Bool} {es : List (Nat × Bool)}
    (h : n.trace.events = es ++ [(s, b)]) : n.lastLive s = some b := by
  simp [lastLive, h, List.filter_append]

theorem storedLive_of_stream {n : Node} {s : Nat} {x : Stream} (h : n.directory.stream s = .ok x) :
    n.storedLive s = some x.live := by
  simp [storedLive, h, Except.map, Except.toOption]

/-- Clearing the live flag of a stored stream puts it back not live. -/
theorem setStreamNotLive_run {n : Node} {s : Nat} {x : Stream}
    (hclear : n.faults.contains .setStreamNotLive = false) (hx : n.directory.stream s = .ok x) :
    setStreamNotLive s n =
      .ok (.ok ()) { n with directory := n.directory.putStream { x with live := false } } := by
  rw [setStreamNotLive, write_run, hclear]
  simp only [Bool.false_eq_true, if_false, Directory.setStreamNotLive, Directory.modifyStream, hx]
  rfl

end Node

namespace Proc

variable {β : Type}

/-- A finished stream. The light goes off and the live flag is cleared, both best effort; only the
clearing holds the guard, and the event is published once the guard is given back. -/
def streamFinished (w : String) (s : Nat) : Proc Unit := do
  ignore (must (Node.workerById w))
  match ← op (Node.streamById s) with
  | .ok st => switchHallOf st false
  | .error _ => pure ()
  guarded (ignore (op (Node.setStreamNotLive s)))
  op (Node.publish s false)

theorem runs_streamFinished (w : String) (s : Nat) :
    Runs (streamFinished w s) (Node.streamFinished w s) := by
  unfold streamFinished Node.streamFinished
  refine (runs_must _).ignore.bind fun _ => (runs_op _).bind fun r => ?_
  dsimp only
  cases r with
  | ok st =>
    exact (runs_switchHallOf _ _).bind fun _ => (runs_op _).ignore.guarded.bind fun _ => runs_op _
  | error e => exact (runs_op _).ignore.guarded.bind fun _ => runs_op _

/-! ## Steps that never take the guard -/

theorem unguarded_op (x : Op β) : (op x).Unguarded := by
  intro n
  dsimp only
  cases x n <;> exact True.intro

theorem unguarded_switchHallOf (st : Stream) (on : Bool) : (switchHallOf st on).Unguarded := by
  unfold switchHallOf
  cases st.hallId with
  | none => exact trivial
  | some h =>
    refine Unguarded.bind (unguarded_op _) fun r => ?_
    cases r with
    | ok hall => exact unguarded_op _
    | error e => exact trivial

/-! ## The two calls run alone -/

variable {m m' : Node} {s : Nat}

theorem alone_op_run {x : Op β} {b : β} (h : x m = .ok b m') : (op x).alone m = .ok (.ok b) m' := by
  rw [alone_op, Node.bind_run_ok h]
  rfl

/-- Switching a hall's light touches the lights alone. -/
theorem switchHallOf_alone (st : Stream) (on : Bool) (m : Node) :
    ∃ ls, (switchHallOf st on).alone m =
      .ok (.ok ()) { m with trace := { m.trace with lights := ls } } := by
  unfold switchHallOf
  cases st.hallId with
  | none => exact ⟨m.trace.lights, rfl⟩
  | some h =>
    dsimp only
    have hread : Node.hallById h m = .ok (m.lookup .hallById (·.hall h)) m := Node.read_run _ _ m
    rw [alone_bind, alone_op_run hread]
    cases m.lookup .hallById (·.hall h) with
    | ok hall => exact ⟨_, alone_op_run (Node.switchLight_run hall on)⟩
    | error e => exact ⟨m.trace.lights, rfl⟩

/-- Clearing the live flag of a stored stream, as a finished stream does under the guard. -/
theorem clear_alone {x : Stream} (hclear : m.faults.contains .setStreamNotLive = false)
    (hx : m.directory.stream s = .ok x) :
    (ignore (op (Node.setStreamNotLive s))).alone m =
      .ok (.ok ()) { m with directory := m.directory.putStream { x with live := false } } := by
  rw [ignore, alone_bind, alone_op_run (Node.setStreamNotLive_run hclear hx)]
  rfl

theorem publish_alone (k : Nat) (live : Bool) (m : Node) :
    (op (Node.publish k live)).alone m =
      .ok (.ok ()) { m with trace := { m.trace with events := m.trace.events ++ [(k, live)] } } :=
  alone_op_run (Node.publish_run k live)

/-- What a started stream does once it has saved the record `st`: its hall's light goes on and
`(st.id, true)` is published. -/
theorem startedTail_alone (st : Stream) (m : Node) :
    ∃ ls, (do switchHallOf st true; op (Node.publish st.id true) : Proc Unit).alone m =
      .ok (.ok ()) { m with trace := { m.trace with
        lights := ls, events := m.trace.events ++ [(st.id, true)] } } := by
  obtain ⟨ls, hl⟩ := switchHallOf_alone st true m
  refine ⟨ls, ?_⟩
  rw [alone_bind, hl]
  exact publish_alone _ _ _

/-- Holding the guard, a save reads the record `x`, saves `f x` and goes on with `g`. -/
theorem saveGuardedBody_alone {f : Stream → Stream} {g : Stream → Proc Unit} {x : Stream}
    (hR : m.faults.contains .streamById = false) (hsave : m.faults.contains .saveStream = false)
    (hx : m.directory.stream s = .ok x)
    (hafter : (g (f x)).alone { m with directory := m.directory.putStream (f x) } =
      .ok (.ok ()) m') :
    (do
      let st ← must (Node.streamById s)
      must (Node.saveStream (f st))
      g (f st) : Proc Unit).alone m = .ok (.ok ()) m' := by
  have hS : Node.streamById s m = .ok (.ok x) m := by
    rw [Node.streamById, Node.read_run, Node.lookup_served hR]
    exact congrArg (EStateM.Result.ok · m) hx
  rw [alone_bind, alone_must, hS]
  dsimp only
  rw [alone_bind, alone_must, Node.saveStream, Node.write_run, hsave]
  exact hafter

/-- Holding the guard, a started stream for the stored record `x` saves it live with the new
playlist, switches its hall's light on and publishes `(s, true)`. -/
theorem startedSave_alone (url source : String) {x : Stream}
    (hR : m.faults.contains .streamById = false) (hsave : m.faults.contains .saveStream = false)
    (hx : m.directory.stream s = .ok x) :
    ∃ ls, (saveGuarded s
        (fun st => { st with live := true, playlists := st.playlists.set (Feed.ofLabel source) url })
        fun st => do switchHallOf st true; op (Node.publish st.id true)).alone m = .ok (.ok ())
      { m with
        directory := m.directory.putStream
          ({ x with live := true, playlists := x.playlists.set (Feed.ofLabel source) url })
        trace := { m.trace with lights := ls, events := m.trace.events ++ [(s, true)] } } := by
  have hid : x.id = s := Directory.id_of_stream hx
  -- the record the call saves
  let saved : Stream :=
    { x with live := true, playlists := x.playlists.set (Feed.ofLabel source) url }
  obtain ⟨ls, htail⟩ :=
    startedTail_alone saved { m with directory := m.directory.putStream saved }
  refine ⟨ls, ?_⟩
  rw [saveGuarded, alone_guarded, show ((s, true) : Nat × Bool) = (x.id, true) by rw [hid]]
  exact saveGuardedBody_alone (f := fun st =>
      { st with live := true, playlists := st.playlists.set (Feed.ofLabel source) url })
    (g := fun st => do switchHallOf st true; op (Node.publish st.id true)) hR hsave hx htail

/-- A started stream for a stored record `x`: it saves `x` live with the new playlist, switches
its hall's light on and publishes `(s, true)`. -/
theorem streamStarted_alone (w url source : String) {x : Stream} {wk : Worker}
    (hW : m.faults.contains .workerById = false) (hR : m.faults.contains .streamById = false)
    (hsave : m.faults.contains .saveStream = false) (hw : m.directory.worker w = .ok wk)
    (hx : m.directory.stream s = .ok x) :
    ∃ ls, (streamStarted w s url source).alone m = .ok (.ok ())
      { m with
        directory := m.directory.putStream
          ({ x with live := true, playlists := x.playlists.set (Feed.ofLabel source) url })
        trace := { m.trace with lights := ls, events := m.trace.events ++ [(s, true)] } } := by
  have hW' : Node.workerById w m = .ok (.ok wk) m := by
    rw [Node.workerById, Node.read_run, Node.lookup_served hW]
    exact congrArg (EStateM.Result.ok · m) hw
  obtain ⟨ls, hsaved⟩ := startedSave_alone url source hR hsave hx
  refine ⟨ls, ?_⟩
  unfold streamStarted guardedSave
  rw [alone_bind, alone_ignore_must hW']
  exact hsaved

/-- A finished stream for a stored record `x`: it switches its hall's light off, stores `x` not
live and publishes `(s, false)`. -/
theorem streamFinished_alone (v : String) {x : Stream} {wk : Worker}
    (hW : m.faults.contains .workerById = false) (hR : m.faults.contains .streamById = false)
    (hclear : m.faults.contains .setStreamNotLive = false) (hv : m.directory.worker v = .ok wk)
    (hx : m.directory.stream s = .ok x) :
    ∃ ls, (streamFinished v s).alone m = .ok (.ok ())
      { m with
        directory := m.directory.putStream { x with live := false }
        trace := { m.trace with lights := ls, events := m.trace.events ++ [(s, false)] } } := by
  have hW' : Node.workerById v m = .ok (.ok wk) m := by
    rw [Node.workerById, Node.read_run, Node.lookup_served hW]
    exact congrArg (EStateM.Result.ok · m) hv
  have hS : Node.streamById s m = .ok (.ok x) m := by
    rw [Node.streamById, Node.read_run, Node.lookup_served hR]
    exact congrArg (EStateM.Result.ok · m) hx
  obtain ⟨ls, hl⟩ := switchHallOf_alone x false m
  refine ⟨ls, ?_⟩
  unfold streamFinished
  rw [alone_bind, alone_ignore_must hW']
  dsimp only
  rw [alone_bind, alone_op_run hS]
  dsimp only
  rw [alone_bind, hl]
  dsimp only
  rw [alone_bind, alone_guarded,
    clear_alone (m := { m with trace := { m.trace with lights := ls } }) hclear hx]
  exact publish_alone _ _ _

end Proc

/-! ## Schedules one step at a time -/

namespace Calls

variable {α β γ : Type} {c c₁ c₂ : Calls α}

/-- Some schedule takes the calls `c` to `c'`. -/
def Reaches (c c' : Calls α) : Prop := ∃ sched, c.run sched = some c'

theorem Reaches.trans (h₁ : c.Reaches c₁) (h₂ : c₁.Reaches c₂) : c.Reaches c₂ := by
  obtain ⟨s₁, hs₁⟩ := h₁
  obtain ⟨s₂, hs₂⟩ := h₂
  exact ⟨s₁ ++ s₂, by rw [run_append, hs₁, Option.bind_some, hs₂]⟩

theorem reaches_step (i : Nat) (h : c.step i = some c₁) : c.Reaches c₁ :=
  ⟨[i], by rw [run_cons, h, Option.bind_some, run_nil]⟩

/-- Taking the guard to run a section, with what follows the section left to run. -/
theorem step_guarded_bind {i : Nat} {body : Proc α} {k : α → Proc α}
    (hi : c.procs[i]? = some (body.guarded >>= k)) (hg : c.guard = none) :
    c.step i = some { c with procs := c.procs.set i (body.releasing >>= k), guard := some i } :=
  step_acquire hi hg

theorem step_guarded {i : Nat} {body : Proc α} (hi : c.procs[i]? = some body.guarded)
    (hg : c.guard = none) :
    c.step i = some { c with procs := c.procs.set i body.releasing, guard := some i } :=
  step_acquire hi hg

theorem reaches_solo_bind (F : Proc β → Proc γ)
    (hF : ∀ next effect, F (.atomic next effect) = .atomic (fun n => F (next n)) effect)
    (p : Proc α) (hp : p.Unguarded) (k : α → Proc β) (c : Calls γ) (i : Nat)
    (hi : c.procs[i]? = some (F (p >>= k))) {a : α} {n' : Node}
    (h : p.alone c.node = .ok (.ok a) n') :
    c.Reaches { c with procs := c.procs.set i (F (k a)), node := n' } := by
  obtain ⟨m, hm⟩ := run_solo_bind F hF p hp k c i hi h
  exact ⟨_, hm⟩

theorem reaches_releasing (p : Proc α) (hp : p.Unguarded) (c : Calls α) (i : Nat)
    (hi : c.procs[i]? = some p.releasing) {r : Except Failure α} {n' : Node}
    (h : p.alone c.node = .ok r n') :
    c.Reaches { c with procs := c.procs.set i (.answered r), node := n', guard := none } := by
  obtain ⟨m, hm⟩ := run_releasing p hp c i hi h
  exact ⟨_, hm⟩

end Calls

/-! ## A stale event -/

section Race

variable {n : Node} {w v : String} {s : Nat} {url source : String} {st : Stream}
  {wkw wkv : Worker}

/-- The interleaving that publishes a stale event: the finished stream switches the light off
and clears the flag, the started stream then runs to its end, and the finished stream's event
goes out last. -/
theorem started_inside_finished_gap (hW : n.faults.contains .workerById = false)
    (hR : n.faults.contains .streamById = false) (hsave : n.faults.contains .saveStream = false)
    (hclear : n.faults.contains .setStreamNotLive = false)
    (hww : n.directory.worker w = .ok wkw) (hwv : n.directory.worker v = .ok wkv)
    (hst : n.directory.stream s = .ok st) :
    ∃ sched m,
      (Calls.start [Proc.streamStarted w s url source, Proc.streamFinished v s] n).run sched =
        some ⟨[.answered (.ok ()), .answered (.ok ())], none, m⟩ ∧
      m.storedLive s = some true ∧ m.lastLive s = some false := by
  have hid : st.id = s := Directory.id_of_stream hst
  have hWv : Node.workerById v n = .ok (.ok wkv) n := by
    rw [Node.workerById, Node.read_run, Node.lookup_served hW]
    exact congrArg (EStateM.Result.ok · n) hwv
  have hS : Node.streamById s n = .ok (.ok st) n := by
    rw [Node.streamById, Node.read_run, Node.lookup_served hR]
    exact congrArg (EStateM.Result.ok · n) hst
  -- the nodes along the way: light off, flag cleared, stream started, stale event
  obtain ⟨l₁, hl₁⟩ := Proc.switchHallOf_alone st false n
  let n₁ : Node := { n with trace := { n.trace with lights := l₁ } }
  let x : Stream := { st with live := false }
  let n₂ : Node := { n₁ with directory := n.directory.putStream x }
  have hx : n₂.directory.stream s = .ok x := by
    rw [← hid]
    exact Directory.stream_putStream_self _ x
  have hWw : Node.workerById w n₂ = .ok (.ok wkw) n₂ := by
    rw [Node.workerById, Node.read_run, Node.lookup_served (n := n₂) hW]
    exact congrArg (EStateM.Result.ok · n₂) hww
  obtain ⟨l₂, hstarted⟩ := Proc.startedSave_alone (m := n₂) url source hR hsave hx
  let saved : Stream :=
    { x with live := true, playlists := x.playlists.set (Feed.ofLabel source) url }
  let n₃ : Node :=
    { n₂ with
      directory := n₂.directory.putStream saved
      trace := { n₂.trace with lights := l₂, events := n.trace.events ++ [(s, true)] } }
  let n₄ : Node := { n₃ with trace := { n₃.trace with events := n₃.trace.events ++ [(s, false)] } }
  have hreach : (Calls.start [Proc.streamStarted w s url source, Proc.streamFinished v s] n).Reaches
      ⟨[.answered (.ok ()), .answered (.ok ())], none, n₄⟩ := by
    -- the finished stream looks its worker and its stream up and switches the light off
    refine .trans (Calls.reaches_solo_bind id (fun _ _ => rfl) _ (Proc.unguarded_ignore_must _) _
      _ 1 rfl (Proc.alone_ignore_must hWv)) ?_
    refine .trans (Calls.reaches_solo_bind id (fun _ _ => rfl) _ (Proc.unguarded_op _) _
      _ 1 rfl (Proc.alone_op_run hS)) ?_
    refine .trans (Calls.reaches_solo_bind id (fun _ _ => rfl) _
      (Proc.unguarded_switchHallOf st false) _ _ 1 rfl hl₁) ?_
    -- it clears the flag under the guard and gives the guard back
    refine .trans (Calls.reaches_step 1 (Calls.step_guarded_bind rfl rfl)) ?_
    refine .trans (Calls.reaches_solo_bind (fun q => q.releasing >>= fun _ =>
        Proc.op (Node.publish s false)) (fun _ _ => rfl)
      (Proc.ignore (Proc.op (Node.setStreamNotLive s)))
      (Proc.Unguarded.bind (Proc.unguarded_op _) fun _ => trivial) pure _ 1
      (by rw [Proc.bind_pure]; rfl) (Proc.clear_alone (m := n₁) hclear hst)) ?_
    refine .trans (Calls.reaches_step 1 (Calls.step_release rfl)) ?_
    -- the started stream runs to its end
    refine .trans (Calls.reaches_solo_bind id (fun _ _ => rfl) _ (Proc.unguarded_ignore_must _) _
      _ 0 rfl (Proc.alone_ignore_must hWw)) ?_
    refine .trans (Calls.reaches_step 0 (Calls.step_guarded rfl rfl)) ?_
    refine .trans (Calls.reaches_releasing _ ?_ _ 0 rfl
      ((Proc.alone_guarded _ _).symm.trans hstarted)) ?_
    · exact Proc.Unguarded.bind (Proc.unguarded_must _) fun _ =>
        Proc.Unguarded.bind (Proc.unguarded_must _) fun _ =>
          Proc.Unguarded.bind (Proc.unguarded_switchHallOf _ _) fun _ => Proc.unguarded_op _
    -- and the finished stream's event goes out last
    refine .trans (Calls.reaches_step 1 (Calls.step_atomic rfl)) ⟨[], ?_⟩
    rfl
  obtain ⟨sched, hrun⟩ := hreach
  refine ⟨sched, n₄, hrun, ?_, Node.lastLive_of_events rfl⟩
  apply Node.storedLive_of_stream (x := saved)
  rw [← hid]
  exact Directory.stream_putStream_self _ saved

/-- Run one after the other, in either order, the two calls leave the last event for the stream
agreeing with its stored flag: whichever runs second both stores the flag and publishes last. -/
theorem serial_live_agrees (hW : n.faults.contains .workerById = false)
    (hR : n.faults.contains .streamById = false) (hsave : n.faults.contains .saveStream = false)
    (hclear : n.faults.contains .setStreamNotLive = false)
    (hww : n.directory.worker w = .ok wkw) (hwv : n.directory.worker v = .ok wkv)
    (hst : n.directory.stream s = .ok st) (order : List (Proc Unit))
    (hperm : order.Perm [Proc.streamStarted w s url source, Proc.streamFinished v s])
    {rs : List (Except Failure Unit)} {m : Node} (hrun : serial order n = .ok rs m) :
    m.lastLive s = m.storedLive s := by
  have hid : st.id = s := Directory.id_of_stream hst
  rcases List.perm_pair.1 hperm with rfl | rfl
  · -- the started stream first: the finished stream then stores it not live and publishes last
    obtain ⟨l₁, hS⟩ := Proc.streamStarted_alone w url source hW hR hsave hww hst
    let saved : Stream :=
      { st with live := true, playlists := st.playlists.set (Feed.ofLabel source) url }
    let m₁ : Node :=
      { n with
        directory := n.directory.putStream saved
        trace := { n.trace with lights := l₁, events := n.trace.events ++ [(s, true)] } }
    have hx₁ : m₁.directory.stream s = .ok saved := by
      rw [← hid]
      exact Directory.stream_putStream_self _ saved
    obtain ⟨l₂, hF⟩ := Proc.streamFinished_alone (m := m₁) v hW hR hclear hwv hx₁
    simp only [serial, hS] at hrun
    rw [hF] at hrun
    cases hrun
    rw [Node.lastLive_of_events rfl, Node.storedLive_of_stream (x := { saved with live := false })]
    rw [← hid]
    exact Directory.stream_putStream_self _ _
  · -- the finished stream first: the started stream then stores it live and publishes last
    obtain ⟨l₁, hF⟩ := Proc.streamFinished_alone v hW hR hclear hwv hst
    let cleared : Stream := { st with live := false }
    let m₁ : Node :=
      { n with
        directory := n.directory.putStream cleared
        trace := { n.trace with lights := l₁, events := n.trace.events ++ [(s, false)] } }
    have hx₁ : m₁.directory.stream s = .ok cleared := by
      rw [← hid]
      exact Directory.stream_putStream_self _ cleared
    obtain ⟨l₂, hS⟩ := Proc.streamStarted_alone (m := m₁) w url source hW hR hsave hww hx₁
    simp only [serial, hF] at hrun
    rw [hS] at hrun
    cases hrun
    rw [Node.lastLive_of_events rfl, Node.storedLive_of_stream (x := { cleared with
      live := true, playlists := cleared.playlists.set (Feed.ofLabel source) url })]
    rw [← hid]
    exact Directory.stream_putStream_self _ _

end Race

/-- A started and a finished notification for one stream, both succeeding, can leave viewers
with a live state that contradicts the directory: some schedule ends with the stream stored live
while the last event published for it says it is not, although each serial order of the two
calls leaves the last event and the stored flag agreeing. -/
theorem finished_event_overtakes_started_save (n : Node) (w v : String) (s : Nat)
    (url source : String) (st : Stream)
    (hserves : ∀ m ∈ [Method.workerById, .streamById, .saveStream, .setStreamNotLive],
      n.faults.contains m = false)
    (hw : ∃ wk, n.directory.worker w = .ok wk) (hv : ∃ wk, n.directory.worker v = .ok wk)
    (hst : n.directory.stream s = .ok st) :
    (∃ sched m,
      (Calls.start [Proc.streamStarted w s url source, Proc.streamFinished v s] n).run sched =
        some ⟨[.answered (.ok ()), .answered (.ok ())], none, m⟩ ∧
      m.storedLive s = some true ∧ m.lastLive s = some false) ∧
    ∀ order, order.Perm [Proc.streamStarted w s url source, Proc.streamFinished v s] →
      ∀ rs m, serial order n = .ok rs m → m.lastLive s = m.storedLive s := by
  obtain ⟨wkw, hww⟩ := hw
  obtain ⟨wkv, hwv⟩ := hv
  have hW : n.faults.contains .workerById = false := hserves _ (by simp)
  have hR : n.faults.contains .streamById = false := hserves _ (by simp)
  have hsave : n.faults.contains .saveStream = false := hserves _ (by simp)
  have hclear : n.faults.contains .setStreamNotLive = false := hserves _ (by simp)
  exact ⟨started_inside_finished_gap hW hR hsave hclear hww hwv hst,
    fun order hperm _ _ hrun => serial_live_agrees hW hR hsave hclear hww hwv hst order hperm hrun⟩

/-- A stream restarted while its finished notice is still going out: the finished stream clears
the flag, the started stream saves it live and announces it, and the finished stream's notice
then announces it off. -/
theorem restarted_stream_announced_off_while_live :
    ∃ sched m,
      (Calls.start [Proc.streamStarted "w1" 7 "u1" "COMB", Proc.streamFinished "w1" 7]
        { directory :=
            { workers := [Worker.new "w1" "h1" 0 (Instant.ofParts 0 0 0)]
              streams := [Stream.new 7 1 (Instant.ofParts 0 0 0) (Instant.ofParts 0 0 0)] }
          workerIdOf := fun _ => ""
          jobIdOf := fun _ => "" }).run sched =
        some ⟨[.answered (.ok ()), .answered (.ok ())], none, m⟩ ∧
      m.storedLive 7 = some true ∧ m.lastLive 7 = some false :=
  (finished_event_overtakes_started_save _ "w1" "w1" 7 "u1" "COMB"
    (Stream.new 7 1 (Instant.ofParts 0 0 0) (Instant.ofParts 0 0 0))
    (by decide) ⟨_, rfl⟩ ⟨_, rfl⟩ rfl).1

end StreamDispatch
