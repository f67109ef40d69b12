import StreamDispatch.Proofs.Process

/-!
# Tasks that hand work to tasks of their own

A call may hand part of its work to a task of its own and return without waiting for it. A
`Task` is a sequence of atomic steps on the node, of steps that take and give back one of the
two guards (the state guard around read-modify-save sections, the light guard around each switch
of a hall's light), and of steps that spawn a child task and go on at once; which step comes next
may depend on what the earlier ones read. A task leaves no answer: what it did is what it left on
the node.

`Task.alone` runs a task with nobody else around, each child as soon as it is spawned. A `Pool`
holds the tasks running on one node and the holder of each guard. A schedule names the task that
moves at each step; a spawned child, like a call invoked while the pool runs, joins the end of
the pool.

`Task.Emits P obs t L` says that every run of `t` from nodes satisfying `P` keeps `P` at each of
its steps and extends the record `obs` by the entries `L`, in an order its children may change.
`Pool.Tracks` adds this up over a pool: what has been recorded so far, and what each task still
owes. Every step keeps the account (`Pool.Tracks.step`), so once every task has finished, the run
recorded what its tasks owed, in some order (`Pool.Tracks.finished`).
-/

namespace StreamDispatch

/-- The guards a task can hold. -/
inductive Guard where
  | state
  | light
  deriving DecidableEq

/-- A task: finished, one atomic step whose outcome picks what follows, taking or giving back a
guard, or spawning a child task and going on without waiting for it. -/
inductive Task where
  | done
  | atomic (next : Node → Task) (effect : Node → Node)
  | acquire (g : Guard) (next : Task)
  | release (g : Guard) (next : Task)
  | spawn (child : Task) (next : Task)

namespace Task

variable {α β : Type}

/-- An operation as one atomic step, its value handed on; a halt ends the task. -/
def op (x : Op β) (k : β → Task) : Task :=
  .atomic (fun n => match x n with
      | .ok b _ => k b
      | .error _ _ => .done)
    (fun n => Proc.nodeAfter (x n))

/-- A directory call as one atomic step; its failure ends the task. -/
def must (x : Op (Except Failure β)) (k : β → Task) : Task :=
  op x fun
    | .ok b => k b
    | .error _ => .done

/-- Runs `t`, then `u` wherever `t` ends. -/
def andThen : Task → Task → Task
  | .done, u => u
  | .atomic next effect, u => .atomic (fun n => (next n).andThen u) effect
  | .acquire g t, u => .acquire g (t.andThen u)
  | .release g t, u => .release g (t.andThen u)
  | .spawn c t, u => .spawn c (t.andThen u)

/-- Runs `t` holding the guard `g`, giving it back wherever `t` ends. -/
def guarded (g : Guard) (t : Task) : Task := .acquire g (t.andThen (.release g .done))

/-- Whether the task has finished. -/
def isDone : Task → Bool
  | .done => true
  | _ => false

/-- Runs a task with nobody else around, each child as soon as it is spawned. -/
def alone : Task → Node → Node
  | .done, n => n
  | .atomic next effect, n => (next n).alone (effect n)
  | .acquire _ t, n => t.alone n
  | .release _ t, n => t.alone n
  | .spawn c t, n => t.alone (c.alone n)

/-- The task leaves every node as the call `x` does, whether the call answers, fails or halts. -/
def Follows (t : Task) (x : Node.Answer α) : Prop :=
  ∀ n, t.alone n = Proc.nodeAfter (x.run n)

/-! ## Running alone -/

theorem alone_op_ok {x : Op β} {k : β → Task} {n n' : Node} {b : β} (h : x n = .ok b n') :
    (op x k).alone n = (k b).alone n' := by
  simp only [op, alone, h, Proc.nodeAfter]

theorem alone_op_error {x : Op β} {k : β → Task} {n n' : Node} {p : Panic}
    (h : x n = .error p n') : (op x k).alone n = n' := by
  simp only [op, alone, h, Proc.nodeAfter]

theorem alone_andThen (t u : Task) (n : Node) : (t.andThen u).alone n = u.alone (t.alone n) := by
  induction t generalizing n with
  | done => rfl
  | atomic next effect ih => exact ih n (effect n)
  | acquire g t ih => exact ih n
  | release g t ih => exact ih n
  | spawn c t _ ih => exact ih (c.alone n)

theorem alone_guarded (g : Guard) (t : Task) (n : Node) : (guarded g t).alone n = t.alone n :=
  alone_andThen t _ n

/-! ## Tasks that follow calls -/

theorem follows_done (a : α) : Follows .done (pure a : Node.Answer α) := fun _ => rfl

theorem Follows.op {x : Op β} {k : β → Task} {f : β → Node.Answer α}
    (hk : ∀ b, Follows (k b) (f b)) : Follows (op x k) (ExceptT.lift x >>= f) := by
  intro n
  rw [Node.run_bind, Node.run_lift]
  rcases hx : x n with ⟨b, n'⟩ | ⟨p, n'⟩
  · rw [alone_op_ok hx, Node.bind_run_ok hx]
    exact hk b n'
  · rw [alone_op_error hx, Node.bind_run_error hx]
    rfl

theorem nodeAfter_lift (y : Op β) (n : Node) :
    Proc.nodeAfter ((ExceptT.lift y : Node.Answer β).run n) = Proc.nodeAfter (y n) := by
  rw [Node.run_lift]
  rcases hy : y n with ⟨b, n'⟩ | ⟨p, n'⟩
  · rw [Node.bind_run_ok hy]
    rfl
  · rw [Node.bind_run_error hy]
    rfl

/-- An operation that ends a call, as its last atomic step. -/
theorem follows_op_last (x : Op β) : Follows (op x fun _ => .done) (ExceptT.lift x) := by
  intro n
  rw [nodeAfter_lift]
  rcases hx : x n with ⟨b, n'⟩ | ⟨p, n'⟩
  · rw [alone_op_ok hx]
    rfl
  · rw [alone_op_error hx]
    rfl

theorem Follows.must {x : Op (Except Failure β)} {k : β → Task} {f : β → Node.Answer α}
    (hk : ∀ b, Follows (k b) (f b)) : Follows (must x k) (Node.must x >>= f) := by
  intro n
  rw [Node.run_bind, Node.run_must]
  rcases hx : x n with ⟨e | b, n'⟩ | ⟨p, n'⟩
  · rw [Task.must, alone_op_ok hx]
    rfl
  · rw [Task.must, alone_op_ok hx]
    exact hk b n'
  · rw [Task.must, alone_op_error hx]
    rfl

theorem Follows.guarded {t : Task} {x : Node.Answer α} (h : Follows t x) (g : Guard) :
    Follows (guarded g t) x := by
  intro n
  rw [alone_guarded]
  exact h n

/-- A part of a call that always answers, followed by the rest: the task goes on wherever the
part ends, and so does the call. -/
theorem Follows.andThen {t u : Task} {x : Node.Answer Unit} {z : Node.Answer α}
    (hsure : ∀ n, ∃ n', x.run n = .ok (.ok ()) n') (ht : Follows t x) (hu : Follows u z) :
    Follows (t.andThen u) (x >>= fun _ => z) := by
  intro n
  obtain ⟨n', hx⟩ := hsure n
  rw [alone_andThen, ht n, hx, Node.run_bind_ok hx]
  exact hu n'

/-! ## What a task records -/

section Emits

variable {γ : Type} (P : Node → Prop) (obs : Node → List γ)

/-- Every run of the task from nodes satisfying `P` keeps `P` at each of its steps and extends
the record `obs` by the entries `L`, whose order its spawned children may change. -/
def Emits : Task → List γ → Prop
  | .done, L => L = []
  | .atomic next effect, L => ∀ n, P n → P (effect n) ∧
      ∃ A B, L = A ++ B ∧ obs (effect n) = obs n ++ A ∧ (next n).Emits B
  | .acquire _ t, L => t.Emits L
  | .release _ t, L => t.Emits L
  | .spawn c t, L => ∃ A B, L.Perm (A ++ B) ∧ c.Emits A ∧ t.Emits B

variable {P obs}

theorem Emits.eq_nil {L : List γ} (h : Task.done.Emits P obs L) : L = [] := h

/-- A step that does what `x` does at every node satisfying `P`. -/
theorem Emits.op {x : Op β} {k : β → Task} {L : List γ}
    (hx : ∀ n, P n → ∃ b n' A B, x n = .ok b n' ∧ P n' ∧ L = A ++ B ∧ obs n' = obs n ++ A ∧
      (k b).Emits P obs B) :
    (Task.op x k).Emits P obs L := by
  intro n hn
  obtain ⟨b, n', A, B, hxn, hn', hL, hA, hk⟩ := hx n hn
  simp only [hxn, Proc.nodeAfter]
  exact ⟨hn', A, B, hL, hA, hk⟩

/-- A step that records nothing: it answers at every node satisfying `P`, and keeps `P`. -/
theorem Emits.silent {x : Op β} {k : β → Task} {L : List γ}
    (hx : ∀ n, P n → ∃ b n', x n = .ok b n' ∧ P n' ∧ obs n' = obs n ∧ (k b).Emits P obs L) :
    (Task.op x k).Emits P obs L :=
  Emits.op fun n hn =>
    let ⟨b, n', hxn, hn', hobs, hk⟩ := hx n hn
    ⟨b, n', [], L, hxn, hn', rfl, by rw [hobs, List.append_nil], hk⟩

theorem Emits.andThen {t u : Task} {L M : List γ} (ht : t.Emits P obs L) (hu : u.Emits P obs M) :
    (t.andThen u).Emits P obs (L ++ M) := by
  induction t generalizing L with
  | done =>
    rw [Emits.eq_nil ht]
    exact hu
  | atomic next effect ih =>
    intro n hn
    obtain ⟨hn', A, B, rfl, hA, hB⟩ := ht n hn
    exact ⟨hn', A, B ++ M, List.append_assoc A B M, hA, ih n hB⟩
  | acquire g t ih => exact ih ht
  | release g t ih => exact ih ht
  | spawn c t _ ih =>
    obtain ⟨A, B, hL, hA, hB⟩ := ht
    refine ⟨A, B ++ M, ?_, hA, ih hB⟩
    rw [← List.append_assoc]
    exact hL.append_right M

theorem Emits.guarded {t : Task} {L : List γ} (ht : t.Emits P obs L) (g : Guard) :
    (guarded g t).Emits P obs L := by
  have h : (t.andThen (.release g .done)).Emits P obs (L ++ []) := ht.andThen rfl
  rw [List.append_nil] at h
  exact h

end Emits

end Task

/-! ## Tasks side by side -/

/-- Tasks running side by side on one node, and the task holding each guard. -/
structure Pool where
  tasks : List Task
  holder : Guard → Option Nat
  node : Node

namespace Pool

/-- The tasks `ts` started together on node `n`, every guard free. -/
def start (ts : List Task) (n : Node) : Pool := ⟨ts, fun _ => none, n⟩

/-- The holders after guard `g` passes to `i`, or to nobody. -/
def hand (c : Pool) (g : Guard) (i : Option Nat) : Guard → Option Nat :=
  fun g' => if g' = g then i else c.holder g'

/-- Task `i` takes its next step, if it can: it has not finished, and it does not wait for a
guard another task holds. A spawned child joins the end of the pool. -/
def step (c : Pool) (i : Nat) : Option Pool :=
  match c.tasks[i]? with
  | some (.atomic next effect) =>
    some { c with tasks := c.tasks.set i (next c.node), node := effect c.node }
  | some (.acquire g t) =>
    if c.holder g = none then
      some { c with tasks := c.tasks.set i t, holder := c.hand g (some i) }
    else none
  | some (.release g t) => some { c with tasks := c.tasks.set i t, holder := c.hand g none }
  | some (.spawn child t) => some { c with tasks := c.tasks.set i t ++ [child] }
  | _ => none

/-- Follows a schedule: each entry names the task that takes the next step. -/
def run (c : Pool) : List Nat → Option Pool
  | [] => some c
  | i :: is => (c.step i).bind fun c' => c'.run is

/-- A call invoked while the pool runs: its task joins the end of the pool. -/
def invoke (c : Pool) (t : Task) : Pool := { c with tasks := c.tasks ++ [t] }

/-- Every task has finished. -/
def Finished (c : Pool) : Prop := ∀ t ∈ c.tasks, t.isDone = true

instance (c : Pool) : Decidable c.Finished :=
  inferInstanceAs (Decidable (∀ t ∈ c.tasks, t.isDone = true))

/-! ## Accounting for what the tasks record -/

section Tracks

variable {γ : Type} (P : Node → Prop) (obs : Node → List γ)

/-- The pool keeps `P`; since a node where `obs` was `base` the run has recorded `D`, each task
still owes its own entries (`os` pairs the tasks with them), and `D` with what is owed makes up
`M`. -/
structure Tracks (base M : List γ) (c : Pool) : Prop where
  holds : P c.node
  accounts : ∃ (D : List γ) (os : List (Task × List γ)), obs c.node = base ++ D ∧
    os.map Prod.fst = c.tasks ∧
    (∀ o ∈ os, o.1.Emits P obs o.2) ∧ (D ++ (os.map Prod.snd).flatten).Perm M

variable {P obs}

theorem exists_owed {os : List (Task × List γ)} {ts : List Task} (hmap : os.map Prod.fst = ts)
    {i : Nat} {t : Task} (hi : ts[i]? = some t) : ∃ L, os[i]? = some (t, L) := by
  subst hmap
  rw [List.getElem?_map] at hi
  cases ho : os[i]? with
  | none => simp [ho] at hi
  | some o =>
    simp only [ho, Option.map_some, Option.some.injEq] at hi
    exact ⟨o.2, by rw [← hi]⟩

/-- Replacing one part of a split list: the whole changes by the part put in for the part taken
out. -/
theorem perm_flatten_set [DecidableEq γ] {xs : List (List γ)} {i : Nat} {X : List γ}
    (hi : xs[i]? = some X) (Y : List γ) : ((xs.set i Y).flatten ++ X).Perm (xs.flatten ++ Y) := by
  induction xs generalizing i with
  | nil => simp at hi
  | cons x xs ih =>
    cases i with
    | zero =>
      simp only [List.getElem?_cons_zero, Option.some.injEq] at hi
      subst hi
      rw [List.perm_iff_count]
      intro a
      simp only [List.set_cons_zero, List.flatten_cons, List.count_append]
      omega
    | succ i =>
      simp only [List.getElem?_cons_succ] at hi
      simpa only [List.set_cons_succ, List.flatten_cons, List.append_assoc] using
        (ih hi).append_left x

/-- Task `i` owed `X`; it records `A`, is left owing `Y`, and the children it spawned owe `Z`.
When these make up `X`, the account still adds up. -/
theorem perm_account [DecidableEq γ] {D M X A Y Z : List γ} {xs : List (List γ)} {i : Nat}
    (hi : xs[i]? = some X) (hX : X.Perm (A ++ Y ++ Z)) (hperm : (D ++ xs.flatten).Perm M) :
    (D ++ A ++ ((xs.set i Y).flatten ++ Z)).Perm M := by
  have hs := perm_flatten_set hi Y
  rw [List.perm_iff_count] at hs hX hperm ⊢
  intro a
  have h₁ := hs a
  have h₂ := hX a
  have h₃ := hperm a
  simp only [List.count_append] at h₁ h₂ h₃ ⊢
  omega

/-- One step of the pool keeps the account: the stepping task records part of what it owes and
owes the rest, and a child it spawns owes its share. -/
theorem Tracks.step [DecidableEq γ] {base M : List γ} {c c' : Pool} {i : Nat}
    (hc : c.Tracks P obs base M) (h : c.step i = some c') : c'.Tracks P obs base M := by
  obtain ⟨hP, D, os, hobs, hmap, hemits, hperm⟩ := hc
  cases hi : c.tasks[i]? with
  | none => simp [Pool.step, hi] at h
  | some t =>
    obtain ⟨L, hos⟩ := exists_owed hmap hi
    have ht : t.Emits P obs L := hemits _ (List.mem_of_getElem? hos)
    have hL : (os.map Prod.snd)[i]? = some L := by simp [hos]
    -- each case replaces task `i`'s pair; the new pair keeps its promise
    have hset : ∀ {t' : Task} {B : List γ}, t'.Emits P obs B →
        ∀ o ∈ os.set i (t', B), o.1.Emits P obs o.2 := by
      intro t' B hB o ho
      rcases List.mem_or_eq_of_mem_set ho with ho | rfl
      · exact hemits o ho
      · exact hB
    cases t with
    | done => simp [Pool.step, hi] at h
    | atomic next effect =>
      obtain ⟨hP', A, B, rfl, hA, hB⟩ := ht c.node hP
      simp only [Pool.step, hi, Option.some.injEq] at h
      subst h
      refine ⟨hP', D ++ A, os.set i (next c.node, B), ?_, ?_, hset hB, ?_⟩
      · rw [hA, hobs, List.append_assoc]
      · simp [List.map_set, hmap]
      · simpa [List.map_set] using perm_account hL (A := A) (Y := B) (Z := []) (by simp) hperm
    | acquire g t =>
      simp only [Pool.step, hi] at h
      split at h
      · simp only [Option.some.injEq] at h
        subst h
        refine ⟨hP, D, os.set i (t, L), hobs, by simp [List.map_set, hmap], hset ht, ?_⟩
        simpa [List.map_set] using perm_account hL (A := []) (Y := L) (Z := []) (by simp) hperm
      · cases h
    | release g t =>
      simp only [Pool.step, hi, Option.some.injEq] at h
      subst h
      refine ⟨hP, D, os.set i (t, L), hobs, by simp [List.map_set, hmap], hset ht, ?_⟩
      simpa [List.map_set] using perm_account hL (A := []) (Y := L) (Z := []) (by simp) hperm
    | spawn child t =>
      obtain ⟨A, B, hAB, hA, hB⟩ := ht
      simp only [Pool.step, hi, Option.some.injEq] at h
      subst h
      refine ⟨hP, D, os.set i (t, B) ++ [(child, A)], hobs, by simp [List.map_set, hmap], ?_, ?_⟩
      · intro o ho
        rcases List.mem_append.1 ho with ho | ho
        · exact hset hB o ho
        · rw [List.mem_singleton.1 ho]
          exact hA
      · have hL' : L.Perm ([] ++ B ++ A) := by simpa using hAB.trans List.perm_append_comm
        simpa [List.map_set] using perm_account hL hL' hperm

/-- A whole run keeps the account. -/
theorem Tracks.run [DecidableEq γ] {base M : List γ} {c c' : Pool} {σ : List Nat}
    (hc : c.Tracks P obs base M) (h : c.run σ = some c') : c'.Tracks P obs base M := by
  induction σ generalizing c with
  | nil =>
    cases h
    exact hc
  | cons i σ ih =>
    rw [Pool.run] at h
    cases hs : c.step i with
    | none => simp [hs] at h
    | some c₁ =>
      rw [hs, Option.bind_some] at h
      exact ih (hc.step hs) h

/-- A call invoked into the pool adds what its task owes. -/
theorem Tracks.invoke {base M L : List γ} {c : Pool} {t : Task} (hc : c.Tracks P obs base M)
    (ht : t.Emits P obs L) : (c.invoke t).Tracks P obs base (M ++ L) := by
  obtain ⟨hP, D, os, hobs, hmap, hemits, hperm⟩ := hc
  refine ⟨hP, D, os ++ [(t, L)], hobs, by simp [Pool.invoke, hmap], ?_, ?_⟩
  · intro o ho
    rcases List.mem_append.1 ho with ho | ho
    · exact hemits o ho
    · rw [List.mem_singleton.1 ho]
      exact ht
  · simpa [List.append_assoc] using hperm.append_right L

theorem tracks_start (os : List (Task × List γ)) {n : Node} (hn : P n)
    (hos : ∀ o ∈ os, o.1.Emits P obs o.2) :
    (Pool.start (os.map Prod.fst) n).Tracks P obs (obs n) (os.map Prod.snd).flatten :=
  ⟨hn, [], os, by simp [Pool.start], rfl, hos, by simp⟩

/-- The account restarted from where the pool stands: what has been recorded since the old
start, and what is still owed. -/
theorem Tracks.rebase {base M : List γ} {c : Pool} (hc : c.Tracks P obs base M) :
    ∃ D F, obs c.node = base ++ D ∧ (D ++ F).Perm M ∧ c.Tracks P obs (obs c.node) F := by
  obtain ⟨hP, D, os, hobs, hmap, hemits, hperm⟩ := hc
  exact ⟨D, _, hobs, hperm, hP, [], os, by simp, hmap, hemits, List.Perm.refl _⟩

/-- Once the pool has recorded all it owed, an account restarted where it stands owes nothing. -/
theorem Tracks.settled {base M : List γ} {c : Pool} (hc : c.Tracks P obs base M)
    (hsent : obs c.node = base ++ M) : c.Tracks P obs (obs c.node) [] := by
  obtain ⟨D, F, hD, hperm, hre⟩ := hc.rebase
  have hDM : D = M := List.append_cancel_left (hD.symm.trans hsent)
  subst hDM
  have hF : F = [] := List.eq_nil_of_length_eq_zero (by simpa using hperm.length_eq)
  rwa [hF] at hre

/-- Once every task has finished nothing is owed: the run recorded exactly `M`, in some order. -/
theorem Tracks.finished {base M : List γ} {c : Pool} (hc : c.Tracks P obs base M)
    (hf : c.Finished) : ∃ D, obs c.node = base ++ D ∧ D.Perm M := by
  obtain ⟨-, D, os, hobs, hmap, hemits, hperm⟩ := hc
  have hnil : ∀ o ∈ os, o.2 = [] := by
    intro o ho
    have hdone := hf o.1 (hmap ▸ List.mem_map_of_mem ho)
    have he := hemits o ho
    cases ht : o.1 with
    | done =>
      rw [ht] at he
      exact Task.Emits.eq_nil he
    | _ => simp [ht, Task.isDone] at hdone
  have hflat : (os.map Prod.snd).flatten = [] := by
    simp only [List.flatten_eq_nil_iff, List.mem_map]
    rintro L ⟨o, ho, rfl⟩
    exact hnil o ho
  exact ⟨D, hobs, by simpa [hflat] using hperm⟩

end Tracks

end Pool

end StreamDispatch
