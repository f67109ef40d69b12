import StreamDispatch.Proofs.FailedCalls

/-!
# Calls as processes

A worker call served alongside others is a process: a sequence of atomic steps on the node
(one directory call, one light switch or one event each) and of the two steps that take and
give back the state guard. Which step comes next may depend on what the earlier ones read.

`Proc.alone` runs a process with nobody else around, where the guard is always free. The
process of a call is faithful to it when running it alone is running the call (`Proc.Runs`).

`Calls` holds several processes over one node, with the holder of the guard. A schedule names,
step after step, the process that moves, and `Calls.run` follows it. A process takes the guard
only while it is free, so sections that hold it never overlap. A process that runs by itself
for a while moves as it would alone (`Calls.run_solo_bind`, `Calls.run_releasing`).
-/

namespace StreamDispatch

open Time

/-- A call as a process: its answer, a halt, one atomic step whose outcome picks what follows,
or taking or giving back the state guard. -/
inductive Proc (α : Type) where
  | answered (r : Except Failure α)
  | halted (p : Panic)
  | atomic (next : Node → Proc α) (effect : Node → Node)
  | acquire (next : Proc α)
  | release (next : Proc α)

namespace Proc

variable {α β : Type}

/-- Runs `k` on the value a process answers with; a failure or a halt ends both. -/
def bind : Proc α → (α → Proc β) → Proc β
  | .answered (.ok a), k => k a
  | .answered (.error e), _ => .answered (.error e)
  | .halted p, _ => .halted p
  | .atomic next effect, k => .atomic (fun n => (next n).bind k) effect
  | .acquire p, k => .acquire (p.bind k)
  | .release p, k => .release (p.bind k)

instance : Monad Proc where
  pure a := .answered (.ok a)
  bind := Proc.bind

/-- Fails the call. -/
def fail (e : Failure) : Proc α := .answered (.error e)

/-- The node an operation leaves, whether it returns or halts. -/
def nodeAfter {γ : Type} : EStateM.Result Panic Node γ → Node
  | .ok _ n => n
  | .error _ n => n

/-- An operation done as one atomic step. -/
def op (x : Op β) : Proc β :=
  .atomic (fun n => match x n with
      | .ok b _ => .answered (.ok b)
      | .error p _ => .halted p)
    (fun n => nodeAfter (x n))

/-- A directory call done as one atomic step; its failure fails the call. -/
def must (x : Op (Except Failure β)) : Proc β :=
  .atomic (fun n => match x n with
      | .ok r _ => .answered r
      | .error p _ => .halted p)
    (fun n => nodeAfter (x n))

/-- Runs a process and forgets its value. -/
def ignore (p : Proc β) : Proc Unit := p >>= fun _ => pure ()

/-- The process with the guard given back right before it answers or halts. -/
def releasing : Proc α → Proc α
  | .answered r => .release (.answered r)
  | .halted p => .release (.halted p)
  | .atomic next effect => .atomic (fun n => (next n).releasing) effect
  | .acquire p => .acquire p.releasing
  | .release p => .release p.releasing

/-- Runs a process holding the state guard, giving it back however the process ends. -/
def guarded (body : Proc α) : Proc α := .acquire body.releasing

/-- Runs a process with nobody else around. -/
def alone : Proc α → Node → EStateM.Result Panic Node (Except Failure α)
  | .answered r, n => .ok r n
  | .halted p, n => .error p n
  | .atomic next effect, n => (next n).alone (effect n)
  | .acquire p, n => p.alone n
  | .release p, n => p.alone n

/-- A process that neither takes nor gives back the guard. -/
def Unguarded : Proc α → Prop
  | .answered _ => True
  | .halted _ => True
  | .atomic next _ => ∀ n, (next n).Unguarded
  | .acquire _ => False
  | .release _ => False

/-- The process runs as the call does, on every node. -/
def Runs (p : Proc α) (x : Node.Answer α) : Prop := ∀ n, p.alone n = x.run n

/-! ## Running alone -/

theorem bind_answered_ok (a : α) (k : α → Proc β) : (Proc.answered (.ok a) >>= k) = k a := rfl

theorem bind_atomic (next : Node → Proc α) (effect : Node → Node) (k : α → Proc β) :
    (Proc.atomic next effect >>= k) = .atomic (fun n => next n >>= k) effect := rfl

theorem bind_pure (p : Proc α) : (p >>= pure) = p := by
  induction p with
  | answered r => cases r <;> rfl
  | halted q => rfl
  | atomic next effect ih => exact congrArg (Proc.atomic · effect) (funext ih)
  | acquire p ih => exact congrArg Proc.acquire ih
  | release p ih => exact congrArg Proc.release ih

theorem alone_bind (p : Proc α) (k : α → Proc β) (n : Node) :
    (p >>= k).alone n = match p.alone n with
      | .ok (.ok a) n' => (k a).alone n'
      | .ok (.error e) n' => .ok (.error e) n'
      | .error q n' => .error q n' := by
  induction p generalizing n with
  | answered r => cases r <;> rfl
  | halted q => rfl
  | atomic next effect ih => exact ih n (effect n)
  | acquire p ih => exact ih n
  | release p ih => exact ih n

theorem alone_releasing (p : Proc α) (n : Node) : p.releasing.alone n = p.alone n := by
  induction p generalizing n with
  | answered r => rfl
  | halted q => rfl
  | atomic next effect ih => exact ih n (effect n)
  | acquire p ih => exact ih n
  | release p ih => exact ih n

theorem alone_must (x : Op (Except Failure β)) (n : Node) : (must x).alone n = x n := by
  simp only [must, alone]
  cases x n <;> rfl

theorem alone_op (x : Op β) (n : Node) :
    (op x).alone n = (x >>= fun b => pure (.ok b)) n := by
  rcases hx : x n with ⟨b, n'⟩ | ⟨q, n'⟩
  · rw [Node.bind_run_ok hx]
    simp only [op, alone, hx, nodeAfter]
    rfl
  · rw [Node.bind_run_error hx]
    simp only [op, alone, hx, nodeAfter]

theorem Unguarded.bind {p : Proc α} {k : α → Proc β} (hp : p.Unguarded)
    (hk : ∀ a, (k a).Unguarded) : (p >>= k).Unguarded := by
  induction p with
  | answered r =>
    cases r with
    | ok a => exact hk a
    | error e => trivial
  | halted q => trivial
  | atomic next effect ih => exact fun n => ih n (hp n)
  | acquire p ih => exact hp.elim
  | release p ih => exact hp.elim

theorem unguarded_must (x : Op (Except Failure β)) : (must x).Unguarded := by
  intro n
  dsimp only
  cases x n <;> exact True.intro

/-! ## Faithful processes -/

theorem Runs.bind {p : Proc α} {x : Node.Answer α} {k : α → Proc β}
    {f : α → Node.Answer β} (hp : Runs p x) (hk : ∀ a, Runs (k a) (f a)) :
    Runs (p >>= k) (x >>= f) := by
  intro n
  rw [alone_bind, Node.run_bind, hp n]
  rcases x.run n with ⟨e | a, n'⟩ | ⟨q, n'⟩
  · rfl
  · exact hk a n'
  · rfl

theorem runs_pure (a : α) : Runs (pure a) (pure a : Node.Answer α) := fun _ => rfl

theorem runs_must (x : Op (Except Failure β)) : Runs (must x) (Node.must x) := by
  intro n
  rw [alone_must, Node.run_must]

theorem runs_op (x : Op β) : Runs (op x) (ExceptT.lift x) := by
  intro n
  rw [alone_op, Node.run_lift]

theorem Runs.ignore {p : Proc β} {x : Node.Answer β} (h : Runs p x) :
    Runs p.ignore (discard x) := by
  rw [Node.discard_eq_bind]
  exact h.bind fun _ => runs_pure ()

theorem Runs.guarded {p : Proc α} {x : Node.Answer α} (h : Runs p x) : Runs p.guarded x := by
  intro n
  rw [Proc.guarded, alone, alone_releasing]
  exact h n

end Proc

/-! ## Calls served side by side -/

/-- Processes running side by side on one node, and the process holding the guard. -/
structure Calls (α : Type) where
  procs : List (Proc α)
  guard : Option Nat
  node : Node

namespace Calls

variable {α β : Type}

/-- Calls that all start on the node `n`, with the guard free. -/
def start (ps : List (Proc α)) (n : Node) : Calls α := ⟨ps, none, n⟩

/-- Process `i` takes its next step, if it can: it has not answered, and it does not wait for
the guard another process holds. -/
def step (c : Calls α) (i : Nat) : Option (Calls α) :=
  match c.procs[i]? with
  | some (.atomic next effect) =>
    some { c with procs := c.procs.set i (next c.node), node := effect c.node }
  | some (.acquire p) =>
    if c.guard = none then some { c with procs := c.procs.set i p, guard := some i } else none
  | some (.release p) => some { c with procs := c.procs.set i p, guard := none }
  | _ => none

/-- Follows a schedule: each entry names the process that takes the next step. -/
def run (c : Calls α) : List Nat → Option (Calls α)
  | [] => some c
  | i :: is => (c.step i).bind fun c' => c'.run is

theorem run_nil (c : Calls α) : c.run [] = some c := rfl

theorem run_cons (c : Calls α) (i : Nat) (is : List Nat) :
    c.run (i :: is) = (c.step i).bind fun c' => c'.run is := rfl

theorem run_append (c : Calls α) (s t : List Nat) :
    c.run (s ++ t) = (c.run s).bind fun c' => c'.run t := by
  induction s generalizing c with
  | nil => rfl
  | cons i s ih =>
    rw [List.cons_append, run_cons, run_cons]
    cases c.step i with
    | none => rfl
    | some c' => exact ih c'

theorem step_atomic {c : Calls α} {i : Nat} {next : Node → Proc α} {effect : Node → Node}
    (hi : c.procs[i]? = some (.atomic next effect)) :
    c.step i = some { c with procs := c.procs.set i (next c.node), node := effect c.node } := by
  rw [step, hi]

theorem step_acquire {c : Calls α} {i : Nat} {p : Proc α} (hi : c.procs[i]? = some (.acquire p))
    (hg : c.guard = none) :
    c.step i = some { c with procs := c.procs.set i p, guard := some i } := by
  rw [step, hi]
  simp only [hg, if_true]

theorem step_release {c : Calls α} {i : Nat} {p : Proc α} (hi : c.procs[i]? = some (.release p)) :
    c.step i = some { c with procs := c.procs.set i p, guard := none } := by
  rw [step, hi]

theorem getElem?_set_of_getElem? {ps : List (Proc α)} {i : Nat} {p q : Proc α}
    (hi : ps[i]? = some p) : (ps.set i q)[i]? = some q := by
  have hlt : i < ps.length := (List.getElem?_eq_some_iff.1 hi).1
  simp [hlt]

theorem set_of_getElem? {ps : List (Proc α)} {i : Nat} {p : Proc α} (hi : ps[i]? = some p) :
    ps.set i p = ps := by
  obtain ⟨hlt, hp⟩ := List.getElem?_eq_some_iff.1 hi
  rw [← hp, List.set_getElem_self]

/-- A process that runs by itself through an unguarded part moves as it would alone, inside any
context `F` that lets atomic steps through (none, or a guarded section); what follows the part
is left to run. -/
theorem run_solo_bind {γ : Type} (F : Proc β → Proc γ)
    (hF : ∀ next effect, F (.atomic next effect) = .atomic (fun n => F (next n)) effect)
    (p : Proc α) (hp : p.Unguarded) (k : α → Proc β) :
    ∀ (c : Calls γ) (i : Nat), c.procs[i]? = some (F (p >>= k)) →
      ∀ {a : α} {n' : Node}, p.alone c.node = .ok (.ok a) n' →
      ∃ m, c.run (List.replicate m i) =
        some { c with procs := c.procs.set i (F (k a)), node := n' } := by
  induction p with
  | answered r =>
    intro c i hi a n' h
    cases r with
    | error e => cases h
    | ok a₀ =>
      cases h
      refine ⟨0, ?_⟩
      -- nothing is left of the part: the process already is its continuation
      rw [Proc.bind_answered_ok] at hi
      rw [set_of_getElem? hi]
      rfl
  | halted q =>
    intro c i hi a n' h
    cases h
  | atomic next effect ih =>
    intro c i hi a n' h
    rw [Proc.bind_atomic, hF] at hi
    obtain ⟨m, hm⟩ := ih c.node (hp c.node)
      { c with procs := c.procs.set i (F (next c.node >>= k)), node := effect c.node } i
      (getElem?_set_of_getElem? hi) h
    refine ⟨m + 1, ?_⟩
    rw [List.replicate_succ, run_cons, step_atomic hi, Option.bind_some, hm]
    simp only [List.set_set]
  | acquire p ih => exact hp.elim
  | release p ih => exact hp.elim

/-- A process inside its guarded section runs by itself to its answer, and gives the guard
back. -/
theorem run_releasing (p : Proc α) (hp : p.Unguarded) :
    ∀ (c : Calls α) (i : Nat), c.procs[i]? = some p.releasing →
      ∀ {r : Except Failure α} {n' : Node}, p.alone c.node = .ok r n' →
      ∃ m, c.run (List.replicate m i) =
        some { c with procs := c.procs.set i (.answered r), node := n', guard := none } := by
  induction p with
  | answered r₀ =>
    intro c i hi r n' h
    cases h
    refine ⟨1, ?_⟩
    rw [List.replicate_one, run_cons, step_release hi, Option.bind_some, run_nil]
  | halted q =>
    intro c i hi r n' h
    cases h
  | atomic next effect ih =>
    intro c i hi r n' h
    obtain ⟨m, hm⟩ := ih c.node (hp c.node)
      { c with procs := c.procs.set i (next c.node).releasing, node := effect c.node } i
      (getElem?_set_of_getElem? hi) h
    refine ⟨m + 1, ?_⟩
    rw [List.replicate_succ, run_cons, step_atomic hi, Option.bind_some, hm]
    simp only [List.set_set]
  | acquire p ih => exact hp.elim
  | release p ih => exact hp.elim

end Calls

/-- Runs calls one after the other, each alone, and collects their answers. -/
def serial {α : Type} :
    List (Proc α) → Node → EStateM.Result Panic Node (List (Except Failure α))
  | [], n => .ok [] n
  | p :: ps, n =>
    match p.alone n with
    | .ok r n' =>
      match serial ps n' with
      | .ok rs n'' => .ok (r :: rs) n''
      | .error q n'' => .error q n''
    | .error q n' => .error q n'

/-- Some schedule of the calls `ps`, started together on `n`, ends with the answers `rs` on a
node satisfying `P`, in a directory that no serial order of the same calls ends with. -/
def Calls.Unserializable {α : Type} (ps : List (Proc α)) (n : Node)
    (rs : List (Except Failure α)) (P : Node → Prop) : Prop :=
  ∃ sched c, (Calls.start ps n).run sched = some c ∧ c.procs = rs.map .answered ∧ P c.node ∧
    ∀ order, order.Perm ps → ∀ rs' m, serial order n = .ok rs' m →
      m.directory ≠ c.node.directory

end StreamDispatch
