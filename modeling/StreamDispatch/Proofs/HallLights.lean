import StreamDispatch.Proofs.LiveEvents
import StreamDispatch.Proofs.TaskPool

/-!
# The recording light after a stream finishes

A started stream hands the switch-on of its hall's light to a task of its own and answers
without waiting for it; a finished stream switches the light off and waits. Both switches hold
the light guard, so they never overlap, but which of them takes the guard first is decided by
the scheduler, not by the order of the calls.

`light_ends_off_after_switch_on_sent` states what every schedule guarantees: the two calls send
the hall exactly one switch-on and one switch-off, in either order, and the switch-off comes
last whenever the finished call is invoked after the switch-on has gone out.
`light_stays_on_after_stream_finished` is a schedule where the finished call is invoked only after
the started call has answered, and the handed-off switch-on still comes last.
-/

namespace StreamDispatch

open Time

namespace Directory

/-- The hall found under a number has that number. -/
theorem id_of_hall {d : Directory} {k : Nat} {hl : Hall} (h : d.hall k = .ok hl) : hl.id = k := by
  unfold hall at h
  cases hf : findBy Hall.id k d.halls with
  | none =>
    rw [hf] at h
    cases h
  | some x =>
    rw [hf] at h
    cases h
    exact findBy_key hf

end Directory

namespace Node

/-- The commands sent to hall `h`'s light, oldest first: `true` for on, `false` for off. -/
def hallLights (n : Node) (h : Nat) : List Bool :=
  (n.trace.lights.filter (·.hallId == h)).map (·.on)

/-- The last command sent to hall `h`'s light, if any. -/
def lastLight (n : Node) (h : Nat) : Option Bool := (n.hallLights h).getLast?

/-- The node serves the calls of worker `w` about stream `s`, which lies in hall `h`: the worker
is known, the stream and the hall are there, and none of the directory methods the calls go
through is failing. -/
structure Serves (w : String) (s h : Nat) (n : Node) : Prop where
  healthy : ∀ m ∈ [Method.workerById, .streamById, .saveStream, .hallById, .setStreamNotLive],
    n.faults.contains m = false
  worker : ∃ wk, n.directory.worker w = .ok wk
  stream : ∃ st, n.directory.stream s = .ok st ∧ st.hallId = some h
  hall : ∃ hl, n.directory.hall h = .ok hl

variable {w : String} {s h : Nat} {n : Node}

theorem hallLights_switchLight {hl : Hall} (hid : hl.id = h) (on : Bool) (f : Option Failure) :
    ({ n with trace := { n.trace with lights := n.trace.lights ++ [⟨hl.id, on, f⟩] } } :
      Node).hallLights h = n.hallLights h ++ [on] := by
  simp [hallLights, List.filter_append, hid]

namespace Serves

theorem trace (hs : n.Serves w s h) (t : Trace) : ({ n with trace := t } : Node).Serves w s h :=
  ⟨hs.healthy, hs.worker, hs.stream, hs.hall⟩

/-- Saving a stream keeps the node serving, as long as a record saved under `s` stays in `h`. -/
theorem putStream (hs : n.Serves w s h) (x : Stream) (hx : x.id = s → x.hallId = some h) :
    ({ n with directory := n.directory.putStream x } : Node).Serves w s h := by
  refine ⟨hs.healthy, hs.worker, ?_, hs.hall⟩
  obtain ⟨st, hst, hhall⟩ := hs.stream
  show ∃ st, (n.directory.putStream x).stream s = .ok st ∧ st.hallId = some h
  rw [Directory.stream_putStream]
  by_cases hid : x.id = s
  · exact ⟨x, by simp [hid], hx hid⟩
  · exact ⟨st, by simp [hid, hst], hhall⟩

theorem workerById_run (hs : n.Serves w s h) : ∃ wk, workerById w n = .ok (.ok wk) n := by
  obtain ⟨wk, hwk⟩ := hs.worker
  refine ⟨wk, ?_⟩
  rw [workerById, read_run, lookup_served (hs.healthy _ (by simp)), hwk]

theorem streamById_run (hs : n.Serves w s h) : ∃ st,
    streamById s n = .ok (.ok st) n ∧ n.directory.stream s = .ok st ∧ st.hallId = some h := by
  obtain ⟨st, hst, hhall⟩ := hs.stream
  refine ⟨st, ?_, hst, hhall⟩
  rw [streamById, read_run, lookup_served (hs.healthy _ (by simp)), hst]

theorem hallById_run (hs : n.Serves w s h) :
    ∃ hl, hallById h n = .ok (.ok hl) n ∧ hl.id = h := by
  obtain ⟨hl, hhl⟩ := hs.hall
  refine ⟨hl, ?_, Directory.id_of_hall hhl⟩
  rw [hallById, read_run, lookup_served (hs.healthy _ (by simp)), hhl]

theorem saveStream_run (hs : n.Serves w s h) (x : Stream) :
    saveStream x n = .ok (.ok ()) { n with directory := n.directory.putStream x } := by
  rw [saveStream, write_run, hs.healthy _ (by simp)]
  rfl

end Serves

/-- Switching a hall's light, if the stream has a hall that exists, never halts. -/
theorem switchHallOf_ok (st : Stream) (on : Bool) (n : Node) :
    ∃ n', switchHallOf st on n = .ok () n' := by
  unfold switchHallOf
  cases st.hallId with
  | none => exact ⟨n, rfl⟩
  | some k =>
    have hread : hallById k n = .ok (n.lookup .hallById (·.hall k)) n := read_run _ _ n
    dsimp only
    rw [bind_run_ok hread]
    cases n.lookup .hallById (·.hall k) with
    | ok hl => exact ⟨_, switchLight_run hl on⟩
    | error e => exact ⟨n, rfl⟩

theorem lift_run_ok {β : Type} {y : Op β} {n n' : Node} {b : β} (h : y n = .ok b n') :
    (ExceptT.lift y : Answer β).run n = .ok (.ok b) n' := by
  rw [run_lift, bind_run_ok h]
  rfl

/-- Switching a hall's light, as part of a call, never fails the call. -/
theorem lift_switchHallOf_ok (st : Stream) (on : Bool) (n : Node) :
    ∃ n', (ExceptT.lift (switchHallOf st on) : Answer Unit).run n = .ok (.ok ()) n' := by
  obtain ⟨n', hn'⟩ := switchHallOf_ok st on n
  exact ⟨n', lift_run_ok hn'⟩

/-- A write answers, whether it fails or not. -/
theorem write_answers (m : Method) (f : Directory → Except Failure Directory) (n : Node) :
    ∃ r n', write m f n = .ok r n' := by
  rw [write_run]
  split
  · exact ⟨_, _, rfl⟩
  · split <;> exact ⟨_, _, rfl⟩

/-- A directory call whose failure the call survives always answers. -/
theorem discard_attempt_ok (x : Op (Except Failure Unit)) (hx : ∀ n, ∃ r n', x n = .ok r n')
    (n : Node) : ∃ n', (discard (attempt x)).run n = .ok (.ok ()) n' := by
  obtain ⟨r, n', hxn⟩ := hx n
  refine ⟨n', ?_⟩
  rw [discard_eq_bind, run_bind, attempt, run_lift, bind_run_ok hxn]
  rfl

end Node

/-! ## The two calls as tasks -/

namespace Task

/-- Switches a hall's light, holding the light guard. -/
def switching (hl : Hall) (on : Bool) : Task :=
  guarded .light (op (Node.switchLight hl on) fun _ => .done)

/-- Looks up the hall of a stream and goes on with it, if the stream has a hall that exists. -/
def withHallOf (st : Stream) (k : Hall → Task) : Task :=
  match st.hallId with
  | none => .done
  | some h => op (Node.hallById h) fun
    | .ok hl => k hl
    | .error _ => .done

/-- A worker reports that it started streaming a feed. Under the state guard the stream is saved
live, the switch-on of its hall's light is handed to a task of its own, and the event is
published; the call does not wait for the light. -/
def streamStarted (w : String) (s : Nat) (url source : String) : Task :=
  must (Node.workerById w) fun _ => guarded .state <|
    must (Node.streamById s) fun st =>
      let st := { st with live := true, playlists := st.playlists.set (Feed.ofLabel source) url }
      must (Node.saveStream st) fun _ =>
        (withHallOf st fun hl => .spawn (switching hl true) .done).andThen
          (op (Node.publish st.id true) fun _ => .done)

/-- A worker reports that a stream finished. Its hall's light goes off and the call waits for it,
the live flag is cleared under the state guard, and the event is published; past the worker
lookup each part is best effort. -/
def streamFinished (w : String) (s : Nat) : Task :=
  let rest := (guarded .state (op (Node.setStreamNotLive s) fun _ => .done)).andThen
    (op (Node.publish s false) fun _ => .done)
  must (Node.workerById w) fun _ =>
    op (Node.streamById s) fun
      | .ok st => (withHallOf st (switching · false)).andThen rest
      | .error _ => rest

/-! ## Run alone, the tasks do what the calls do -/

theorem discard_bind {α β : Type} (x : Node.Answer β) (f : Unit → Node.Answer α) :
    (discard x >>= f) = x >>= fun _ => f () := by
  rw [Node.discard_eq_bind, bind_assoc]
  simp only [pure_bind]

theorem follows_switching (hl : Hall) (on : Bool) :
    Follows (switching hl on) (ExceptT.lift (Node.switchLight hl on)) :=
  (follows_op_last _).guarded .light

theorem follows_withHallOf (st : Stream) (on : Bool) {k : Hall → Task}
    (hk : ∀ hl, Follows (k hl) (ExceptT.lift (Node.switchLight hl on))) :
    Follows (withHallOf st k) (ExceptT.lift (Node.switchHallOf st on)) := by
  intro n
  rw [nodeAfter_lift]
  unfold withHallOf Node.switchHallOf
  cases st.hallId with
  | none => rfl
  | some j =>
    have hread : Node.hallById j n = .ok (n.lookup .hallById (·.hall j)) n :=
      Node.read_run _ _ n
    dsimp only
    rw [alone_op_ok hread, Node.bind_run_ok hread]
    cases n.lookup .hallById (·.hall j) with
    | ok hl => rw [hk hl n, nodeAfter_lift]
    | error e => rfl

theorem follows_streamStarted (w : String) (s : Nat) (url source : String) :
    Follows (streamStarted w s url source) (Node.streamStarted w s url source) := by
  unfold streamStarted Node.streamStarted
  rw [discard_bind]
  refine Follows.must fun _ => (Follows.must fun _ => Follows.must fun _ => ?_).guarded .state
  -- run alone, the handed-off switch-on runs at once, where the call switches the light
  exact Follows.andThen (Node.lift_switchHallOf_ok _ true)
    (follows_withHallOf _ true fun hl n => follows_switching hl true n) (follows_op_last _)

theorem follows_streamFinished (w : String) (s : Nat) :
    Follows (streamFinished w s) (Node.streamFinished w s) := by
  unfold streamFinished Node.streamFinished
  rw [discard_bind]
  -- what both do once the light is dealt with
  have hrest : Follows ((guarded .state (op (Node.setStreamNotLive s) fun _ => .done)).andThen
      (op (Node.publish s false) fun _ => .done))
      (discard (Node.attempt (Node.setStreamNotLive s)) >>= fun _ =>
        (liftM (Node.publish s false) : Node.Answer Unit)) := by
    refine Follows.andThen (Node.discard_attempt_ok _ (Node.write_answers _ _)) ?_
      (follows_op_last _)
    rw [Node.discard_eq_bind]
    exact (Follows.op fun _ => follows_done ()).guarded .state
  refine Follows.must fun _ => Follows.op fun r => ?_
  cases r with
  | ok st =>
    exact Follows.andThen (Node.lift_switchHallOf_ok st false)
      (follows_withHallOf _ false fun hl => follows_switching hl false) hrest
  | error e => exact hrest

/-! ## The light commands each task sends -/

variable {w : String} {s h : Nat}

/-- A switch of hall `h`'s light records its one command and keeps the node serving. -/
theorem emits_switching {hl : Hall} (hid : hl.id = h) (on : Bool) :
    (switching hl on).Emits (Node.Serves w s h) (·.hallLights h) [on] := by
  refine Emits.guarded (Emits.op fun n hn => ?_) .light
  exact ⟨(), _, [on], [], Node.switchLight_run hl on, hn.trace _, rfl,
    Node.hallLights_switchLight hid on _, rfl⟩

theorem emits_withHallOf {st : Stream} (hst : st.hallId = some h) {k : Hall → Task}
    {L : List Bool}
    (hk : ∀ hl : Hall, hl.id = h → (k hl).Emits (Node.Serves w s h) (·.hallLights h) L) :
    (withHallOf st k).Emits (Node.Serves w s h) (·.hallLights h) L := by
  unfold withHallOf
  rw [hst]
  refine Emits.silent fun n hn => ?_
  obtain ⟨hl, hread, hid⟩ := hn.hallById_run
  exact ⟨.ok hl, n, hread, hn, rfl, hk hl hid⟩

/-- The worker lookup records nothing and finds the worker. -/
theorem emits_workerById {k : Except Failure Worker → Task} {L : List Bool}
    (hk : ∀ wk, (k (.ok wk)).Emits (Node.Serves w s h) (·.hallLights h) L) :
    (op (Node.workerById w) k).Emits (Node.Serves w s h) (·.hallLights h) L := by
  refine Emits.silent fun n hn => ?_
  obtain ⟨wk, hwk⟩ := hn.workerById_run
  exact ⟨.ok wk, n, hwk, hn, rfl, hk wk⟩

/-- The stream lookup records nothing and finds the stream, in hall `h`. -/
theorem emits_streamById {k : Except Failure Stream → Task} {L : List Bool}
    (hk : ∀ st : Stream, st.hallId = some h →
      (k (.ok st)).Emits (Node.Serves w s h) (·.hallLights h) L) :
    (op (Node.streamById s) k).Emits (Node.Serves w s h) (·.hallLights h) L := by
  refine Emits.silent fun n hn => ?_
  obtain ⟨st, hread, -, hhall⟩ := hn.streamById_run
  exact ⟨.ok st, n, hread, hn, rfl, hk st hhall⟩

theorem emits_publish (k : Nat) (live : Bool) :
    (op (Node.publish k live) fun _ => .done).Emits (Node.Serves w s h) (·.hallLights h) [] :=
  Emits.silent fun _ hn => ⟨(), _, Node.publish_run k live, hn.trace _, rfl, rfl⟩

/-- The started call sends hall `h` one switch-on, through the task it hands it to. -/
theorem emits_streamStarted (url source : String) :
    (streamStarted w s url source).Emits (Node.Serves w s h) (·.hallLights h) [true] := by
  refine emits_workerById fun _ => Emits.guarded (emits_streamById fun st hhall => ?_) .state
  -- the saved record stays in hall `h`
  refine Emits.silent fun n hn => ⟨.ok (), _, hn.saveStream_run _, hn.putStream _ fun _ => hhall,
    rfl, ?_⟩
  exact (emits_withHallOf (k := fun hl => .spawn (switching hl true) .done) hhall
    fun hl hid => ⟨[true], [], List.Perm.refl _, emits_switching hid true, rfl⟩).andThen
    (emits_publish _ true)

/-- The finished call sends hall `h` one switch-off. -/
theorem emits_streamFinished :
    (streamFinished w s).Emits (Node.Serves w s h) (·.hallLights h) [false] := by
  -- clearing the live flag leaves the stream in hall `h`
  have hclear : (guarded .state (op (Node.setStreamNotLive s) fun _ => .done)).Emits
      (Node.Serves w s h) (·.hallLights h) [] := by
    refine Emits.guarded (Emits.silent fun n hn => ?_) .state
    obtain ⟨st, -, hst, hhall⟩ := hn.streamById_run
    exact ⟨.ok (), _, Node.setStreamNotLive_run (hn.healthy _ (by simp)) hst,
      hn.putStream _ fun _ => hhall, rfl, rfl⟩
  exact emits_workerById fun _ => emits_streamById fun _ hhall =>
    (emits_withHallOf hhall fun _ hid => emits_switching hid false).andThen
      (hclear.andThen (emits_publish s false))

end Task

/-! ## The order of the two commands -/

/-- Two commands in some order are one of the two orders. -/
theorem eq_or_eq_swap_of_perm_pair {D : List Bool} {a b : Bool} (h : D.Perm [a, b]) :
    D = [a, b] ∨ D = [b, a] := by
  obtain ⟨x, y, rfl⟩ := List.length_eq_two.1 h.length_eq
  revert h
  cases a <;> cases b <;> cases x <;> cases y <;> decide

/-- The started call among calls that never switch `h`: the pool owes `h` one switch-on. -/
theorem tracks_streamStarted {n : Node} {w : String} {s h : Nat} (url source : String)
    {others : List Task} (hserves : n.Serves w s h)
    (hothers : ∀ t ∈ others, t.Emits (Node.Serves w s h) (·.hallLights h) []) :
    (Pool.start (Task.streamStarted w s url source :: others) n).Tracks
      (Node.Serves w s h) (·.hallLights h) (n.hallLights h) [true] := by
  let os := (Task.streamStarted w s url source, [true]) :: others.map fun t => (t, [])
  have htasks : Task.streamStarted w s url source :: others = os.map Prod.fst := by
    simp [os, List.map_map, Function.comp_def]
  have howed : [true] = (os.map Prod.snd).flatten := by
    simp [os, List.map_map, Function.comp_def]
  rw [htasks, howed]
  refine Pool.tracks_start os hserves fun o ho => ?_
  rcases List.mem_cons.1 ho with rfl | ho
  · exact Task.emits_streamStarted url source
  · obtain ⟨t, ht, rfl⟩ := List.mem_map.1 ho
    exact hothers t ht

/-- A started and a finished call for a stream in hall `h`, the finished call invoked at any
point of the run, with any other calls that keep the node serving and never switch `h`: once
every task has finished, the two calls have sent `h` exactly one switch-on and one switch-off,
in an order the schedule picks. When the finished call is invoked after the handed-off switch-on
has gone out, the switch-off is the last command `h` receives. -/
theorem light_ends_off_after_switch_on_sent (n : Node) (w : String) (s h : Nat)
    (url source : String) (others : List Task) (hserves : n.Serves w s h)
    (hothers : ∀ t ∈ others, t.Emits (Node.Serves w s h) (·.hallLights h) [])
    (σ₁ σ₂ : List Nat) (c₁ c₂ : Pool)
    (hrun₁ : (Pool.start (Task.streamStarted w s url source :: others) n).run σ₁ = some c₁)
    (hrun₂ : (c₁.invoke (Task.streamFinished w s)).run σ₂ = some c₂) (hdone : c₂.Finished) :
    (c₂.node.hallLights h = n.hallLights h ++ [true, false] ∨
      c₂.node.hallLights h = n.hallLights h ++ [false, true]) ∧
    (c₁.node.hallLights h = n.hallLights h ++ [true] → c₂.node.lastLight h = some false) := by
  have h₁ := (tracks_streamStarted url source hserves hothers).run hrun₁
  refine ⟨?_, fun hon => ?_⟩
  · -- the finished call adds its switch-off to what is owed
    obtain ⟨D, hD, hperm⟩ := ((h₁.invoke Task.emits_streamFinished).run hrun₂).finished hdone
    rcases eq_or_eq_swap_of_perm_pair hperm with rfl | rfl
    · exact .inl hD
    · exact .inr hD
  · -- once the switch-on has gone out nothing is owed, and the switch-off is all that follows
    obtain ⟨D, hD, hperm⟩ :=
      (((h₁.settled hon).invoke Task.emits_streamFinished).run hrun₂).finished hdone
    have hD' : D = [false] := List.perm_singleton.1 (by simpa using hperm)
    rw [Node.lastLight, hD, hD']
    simp

/-- A node whose directory holds worker `w1` and stream 7, captured in lecture hall 1, with
nothing failing. -/
def Node.hallOneStreaming : Node where
  directory :=
    { halls := [{ id := 1, name := "HS1" }]
      streams := [(Stream.new 7 1 (Instant.ofParts 0 0 0) (Instant.ofParts 0 0 0)).inHall 1]
      workers := [Worker.new "w1" "h1" 0 (Instant.ofParts 0 0 0)] }
  workerIdOf := fun _ => ""
  jobIdOf := fun _ => ""

/-- A hall whose started stream's switch-on runs before the finished call is invoked ends dark. -/
theorem light_ends_off_when_switch_on_runs_first :
    ∃ c₁ c₂,
      (Pool.start [Task.streamStarted "w1" 7 "u1" "COMB"] Node.hallOneStreaming).run
        (List.replicate 8 0 ++ List.replicate 3 1) = some c₁ ∧
      (c₁.invoke (Task.streamFinished "w1" 7)).run (List.replicate 10 2) = some c₂ ∧
      c₂.Finished ∧ c₁.node.hallLights 1 = [true] ∧ c₂.node.lastLight 1 = some false :=
  ⟨_, _, rfl, rfl, by decide, rfl,
    (light_ends_off_after_switch_on_sent Node.hallOneStreaming "w1" 7 1 "u1" "COMB" []
      ⟨by decide, ⟨_, rfl⟩, ⟨_, rfl, rfl⟩, ⟨_, rfl⟩⟩ (by simp)
      (List.replicate 8 0 ++ List.replicate 3 1) (List.replicate 10 2) _ _ rfl rfl
      (by decide)).2 rfl⟩

/-- A stream of hall 1 starts, and the started call answers before the finished call is invoked;
the started call's switch-on waits while the finished call runs through, switch-off included, and
then turns the light on: every task has finished, and the last command hall 1 received is on. -/
theorem light_stays_on_after_stream_finished :
    ∃ c₁ c₂,
      (Pool.start [Task.streamStarted "w1" 7 "u1" "COMB"] Node.hallOneStreaming).run
        (List.replicate 8 0) = some c₁ ∧
      c₁.tasks[0]? = some .done ∧
      (c₁.invoke (Task.streamFinished "w1" 7)).run (List.replicate 10 2 ++ List.replicate 3 1) =
        some c₂ ∧
      c₂.Finished ∧ c₂.node.lastLight 1 = some true :=
  ⟨_, _, rfl, rfl, rfl, by decide, rfl⟩

end StreamDispatch
