import StreamDispatch.Node.Store

/-!
# What each directory method does to a node

One equation for each way the node reaches its directory, so that later proofs never unfold
`guarded`: a failing method answers its storage failure and changes nothing; a read answers
from the directory and changes nothing; a write changes the directory alone, and only when it
succeeds; a due query answers its streams, or halts when a bound leaves the clock.
-/

namespace StreamDispatch

open Time

/-- The failure a failing directory method answers with. -/
def Method.unavailable (m : Method) : Failure := .storage (m.name ++ " unavailable")

namespace Node

variable {α β : Type}

/-- The node after a failure is reported. -/
def reporting (n : Node) (e : Failure) : Node :=
  { n with trace := { n.trace with reported := n.trace.reported ++ [e] } }

theorem report_run (e : Failure) (n : Node) : report e n = .ok () (n.reporting e) := rfl

theorem bind_run_ok {x : Op α} {f : α → Op β} {n n' : Node} {a : α} (h : x n = .ok a n') :
    (x >>= f) n = f a n' := by
  simp only [bind, EStateM.bind, h]

theorem bind_run_error {x : Op α} {f : α → Op β} {n n' : Node} {p : Panic}
    (h : x n = .error p n') : (x >>= f) n = .error p n' := by
  simp only [bind, EStateM.bind, h]

/-- An operation whose run gives a value returned it. -/
theorem exists_ok_of_run_eq_some {x : Op α} {n : Node} {a : α}
    (h : x.run' n = some a) : ∃ n', x n = .ok a n' := by
  -- `x.run' n` reads the result `x n`, so it can be read off a constant operation instead
  have h' : EStateM.run' (fun _ : Node => x n : Op α) n = some a := h
  cases hx : x n with
  | ok b n' =>
    rw [hx] at h'
    have hb : some b = some a := h'
    cases hb
    exact ⟨n', rfl⟩
  | error p n' =>
    rw [hx] at h'
    have hnone : (none : Option α) = some a := h'
    cases hnone

theorem guarded_run (m : Method) (act : Op (Except Failure α)) (n : Node) :
    guarded m act n = if n.faults.contains m then .ok (.error m.unavailable) n else act n := by
  show (if n.faults.contains m then pure (.error m.unavailable) else act) n = _
  split <;> rfl

/-- What a read through the method `m` answers on node `n`. -/
def lookup (n : Node) (m : Method) (f : Directory → Except Failure α) : Except Failure α :=
  if n.faults.contains m then .error m.unavailable else f n.directory

theorem lookup_served {n : Node} {m : Method} (h : n.faults.contains m = false)
    (f : Directory → Except Failure α) : n.lookup m f = f n.directory := by
  simp [lookup, h]

theorem read_run (m : Method) (f : Directory → Except Failure α) (n : Node) :
    read m f n = .ok (n.lookup m f) n := by
  rw [read, guarded_run, lookup]
  split <;> rfl

theorem write_run (m : Method) (f : Directory → Except Failure Directory) (n : Node) :
    write m f n =
      if n.faults.contains m then .ok (.error m.unavailable) n
      else match f n.directory with
        | .ok d => .ok (.ok ()) { n with directory := d }
        | .error e => .ok (.error e) n := by
  rw [write, guarded_run]
  split
  · rfl
  · show (match f n.directory with
      | .ok d => (set { n with directory := d } >>= fun _ => pure (.ok ()) :
          Op (Except Failure Unit))
      | .error e => pure (.error e)) n = _
    cases f n.directory <;> rfl

theorem dueQuery_run (m : Method) (q : Directory → Except Overflow (List Stream)) (n : Node) :
    dueQuery m q n =
      if n.faults.contains m then .ok (.error m.unavailable) n
      else match q n.directory with
        | .ok l => .ok (.ok l) n
        | .error o => .error ⟨o.message⟩ n := by
  rw [dueQuery, guarded_run]
  split
  · rfl
  · show (match q n.directory with
      | .ok l => (pure (.ok l) : Op (Except Failure (List Stream)))
      | .error o => halt o.message) n = _
    cases q n.directory <;> rfl

/-- A read leaves the node as it was. -/
theorem read_state (m : Method) (f : Directory → Except Failure α) (n : Node) :
    ∃ r, read m f n = .ok r n :=
  ⟨_, read_run m f n⟩

/-- A due query leaves the node as it was, whether it answers or halts. -/
theorem dueQuery_state (m : Method) (q : Directory → Except Overflow (List Stream)) (n : Node) :
    (∃ r, dueQuery m q n = .ok r n) ∨ ∃ p, dueQuery m q n = .error p n := by
  rw [dueQuery_run]
  split
  · exact .inl ⟨_, rfl⟩
  · split
    · exact .inl ⟨_, rfl⟩
    · exact .inr ⟨_, rfl⟩

end Node

end StreamDispatch
