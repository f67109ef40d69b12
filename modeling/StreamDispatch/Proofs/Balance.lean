import StreamDispatch.Proofs.Ledger

/-!
# Workload balance within a batch

A batch hands each job to the first least load of its copy of the alive workers, raising that
load by 3 before the call and lowering it by 1 after a failed one. Over the integers this keeps
the batch balanced: the least load never falls, and the loads never spread further apart than
they did when the batch began, or than 3. The copy's loads are signed 64-bit numbers that wrap,
so the balance holds exactly while no raised load passes `Int64` max. This module adds:

* `loadsAfter ws L` — the copy's loads after the dispatches `L`, read as integers, and
  `Dispatch.rise` — what a dispatch adds to its slot: 3, or 2 after a failure;
* `Dispatch.Next.balance` — one dispatch sets its slot, which holds a least load, to that load
  plus its rise reduced into 64 bits: exactly the sum while it fits, and below every load
  before it once it passes `Int64` max;
* `Room ws J` — some alive worker can take `J` jobs without its load passing `Int64` max; with
  it no load of a batch of `J` jobs wraps (`Ledger.Valid.fits_of_room`), each dispatch keeps
  every lower bound on the loads (`Ledger.Valid.lower_bound_succ`) and the batch every spread
  bound of at least 3 (`Ledger.Valid.spread_of_room`);
* `exactBatch` — the same batch over unbounded integers, and `Ledger.Exact`, which says that the
  64-bit batch computes it;
* `batch_balance_holds_until_a_load_wraps` and `batch_loads_exact_with_room`.
-/

namespace StreamDispatch

open Node

@[simp] theorem toInt_speculativeLoad : speculativeLoad.toInt = 3 := by decide

@[simp] theorem toInt_failureBackoff : failureBackoff.toInt = 1 := by decide

/-! ## The copy's loads as integers -/

/-- What a dispatch adds to the load of its slot: the speculative load, less the back-off when
the job failed. -/
def Dispatch.rise (d : Dispatch) : Int :=
  speculativeLoad.toInt - if d.accepted then 0 else failureBackoff.toInt

theorem Dispatch.rise_bounds (d : Dispatch) : 2 ≤ d.rise ∧ d.rise ≤ 3 := by
  unfold Dispatch.rise
  split <;> simp

/-- The loads of the batch's copy after the dispatches `L`, read as integers. -/
def loadsAfter (ws : List Worker) (L : List Dispatch) : List Int :=
  (afterLedger ws L).map (·.workload.toInt)

@[simp] theorem length_loadsAfter (ws : List Worker) (L : List Dispatch) :
    (loadsAfter ws L).length = ws.length := by
  simp [loadsAfter]

theorem getElem?_loadsAfter (ws : List Worker) (L : List Dispatch) (i : Nat) :
    (loadsAfter ws L)[i]? = (afterLedger ws L)[i]?.map (·.workload.toInt) := by
  simp [loadsAfter]

theorem getElem?_loadsAfter_of_getElem? {ws : List Worker} {L : List Dispatch} {i : Nat}
    {w : Worker} (hw : (afterLedger ws L)[i]? = some w) :
    (loadsAfter ws L)[i]? = some w.workload.toInt := by
  simp [getElem?_loadsAfter, hw]

@[simp] theorem loadsAfter_nil (ws : List Worker) :
    loadsAfter ws [] = ws.map (·.workload.toInt) := by
  simp [loadsAfter, afterLedger_nil]

/-- One more dispatch sets its slot to the load it had plus the dispatch's rise, reduced into
64 bits; every other slot keeps its load. -/
theorem loadsAfter_snoc (ws : List Worker) (L : List Dispatch) (d : Dispatch) {w : Worker}
    (hw : (afterLedger ws L)[d.slot]? = some w) :
    loadsAfter ws (L ++ [d]) =
      (loadsAfter ws L).set d.slot ((w.workload.toInt + d.rise).bmod Int64.size) := by
  have hlt : d.slot < (loadsAfter ws L).length := by
    simpa using (List.getElem?_eq_some_iff.1 hw).1
  apply List.ext_getElem?
  intro i
  rw [getElem?_loadsAfter, afterLedger_snoc, List.getElem?_set, if_pos hlt]
  by_cases hs : d.slot = i
  · -- the dispatch's slot: raised by 3, and lowered by 1 after a failure
    subst hs
    cases ha : d.accepted <;>
      simp [getElem?_shiftLoad, hw, ha, Dispatch.rise, Int64.toInt_add, Int.bmod_add_bmod,
        Int64.toInt_neg, Int.add_assoc]
  · cases d.accepted <;> simp [getElem?_shiftLoad, getElem?_loadsAfter, hs]

/-! ## One dispatch -/

section Step

variable {n : Node} {ws : List Worker} {L : List Dispatch} {d : Dispatch}

/-- The slot a dispatch goes to holds a least load of the copy, and every load before it in
the copy is larger. -/
theorem Dispatch.Next.least (hd : Dispatch.Next n ws L d) :
    ∃ w, (afterLedger ws L)[d.slot]? = some w ∧
      (∀ x ∈ loadsAfter ws L, w.workload.toInt ≤ x) ∧
      ∀ j, j < d.slot → ∀ x, (loadsAfter ws L)[j]? = some x → w.workload.toInt < x := by
  obtain ⟨w, hw, -⟩ := hd.worker
  have hfirst := hd.slot
  have hlm := hfirst.lt_length
  have hlt : d.slot < (afterLedger ws L).length := by simpa using hlm
  -- the first least load, read off the list of loads
  have hv : ((afterLedger ws L).map (·.workload))[d.slot] = w.workload := by
    simp [(List.getElem?_eq_some_iff.1 hw).2]
  refine ⟨w, hw, fun x hx => ?_, fun j hj x hx => ?_⟩
  · obtain ⟨j, hj, rfl⟩ := List.getElem_of_mem hx
    have hle := hfirst.le j (by simpa using hj)
    rw [hv, Int64.le_iff_toInt_le] at hle
    simpa [loadsAfter] using hle
  · have hjl : j < (afterLedger ws L).length := by omega
    have hlt' := hfirst.lt_of_lt j hj
    rw [hv, Int64.lt_iff_toInt_lt] at hlt'
    simp only [getElem?_loadsAfter, List.getElem?_eq_getElem hjl, Option.map_some,
      Option.some.injEq] at hx
    simpa [← hx] using hlt'

/-- A least load raised by at most 3 keeps every bound of at least 3 on how far the loads
spread: the raised load lies within 3 of the least one, and every other load is where it
was. -/
theorem spread_set_least {xs : List Int} {i : Nat} {v r s : Int} (hi : xs[i]? = some v)
    (hleast : ∀ x ∈ xs, v ≤ x) (hr : 0 ≤ r ∧ r ≤ 3) (hs : 3 ≤ s)
    (h : ∀ x ∈ xs, ∀ y ∈ xs, y - x ≤ s) : ∀ x ∈ xs.set i (v + r), ∀ y ∈ xs.set i (v + r), y - x ≤ s := by
  have hv : v ∈ xs := List.mem_of_getElem? hi
  intro x hx y hy
  rcases List.mem_or_eq_of_mem_set hx with hx | rfl <;>
    rcases List.mem_or_eq_of_mem_set hy with hy | rfl
  · exact h x hx y hy
  · have := hleast x hx
    omega
  · have := h v hv y hy
    omega
  · omega

/-- **One dispatch.** The dispatch's slot holds a least load `v` of the copy. If `v` plus the
dispatch's rise fits in 64 bits, the slot takes exactly that sum, so no load falls below `v`;
if it passes `Int64` max, the slot wraps below every load the copy had. -/
theorem Dispatch.Next.balance (hd : Dispatch.Next n ws L d) :
    ∃ w, (afterLedger ws L)[d.slot]? = some w ∧
      (∀ x ∈ loadsAfter ws L, w.workload.toInt ≤ x) ∧
      (w.workload.toInt + d.rise ≤ Int64.maxValue.toInt →
        loadsAfter ws (L ++ [d]) = (loadsAfter ws L).set d.slot (w.workload.toInt + d.rise)) ∧
      (Int64.maxValue.toInt < w.workload.toInt + d.rise →
        ∃ y ∈ loadsAfter ws (L ++ [d]), ∀ x ∈ loadsAfter ws L, y < x) := by
  obtain ⟨w, hw, hleast, -⟩ := hd.least
  have hrise := d.rise_bounds
  have hlo := Int64.le_toInt w.workload
  have hhi := Int64.toInt_le w.workload
  have hmax := Int64.toInt_maxValue
  refine ⟨w, hw, hleast, fun hfit => ?_, fun hwrap => ?_⟩
  · -- the sum fits: reducing it into 64 bits changes nothing
    rw [loadsAfter_snoc ws L d hw, show Int64.size = 18446744073709551616 from rfl,
      Int.bmod_eq_of_le (by omega) (by omega)]
  · -- the sum passes the top: it comes back one period lower, below the least load
    have hwrapped : (w.workload.toInt + d.rise).bmod Int64.size =
        w.workload.toInt + d.rise - 18446744073709551616 := by
      rw [show Int64.size = 18446744073709551616 from rfl, Int.bmod_eq_iff (by decide)]
      refine ⟨by omega, by omega, ⟨-1, by omega⟩⟩
    have hlt : d.slot < (loadsAfter ws L).length := by
      simpa using (List.getElem?_eq_some_iff.1 hw).1
    refine ⟨w.workload.toInt + d.rise - 18446744073709551616, ?_, fun x hx => ?_⟩
    · rw [loadsAfter_snoc ws L d hw, hwrapped]
      exact List.mem_set hlt _
    · have := hleast x hx
      omega

end Step

/-! ## Batches with room -/

/-- Some alive worker can take `J` jobs of 3 without its load passing `Int64` max; the least
load then can too. -/
def Room (ws : List Worker) (J : Nat) : Prop :=
  ∃ w ∈ ws, w.workload.toInt + 3 * J ≤ Int64.maxValue.toInt

section Room

variable {n : Node} {ws : List Worker} {L : List Dispatch}

/-- **No load of a batch with room wraps.** Every job goes to a least load, which is at most the
load of a worker with room plus 3 for each job before; so with room for all the jobs, each
dispatch goes to a load `v` with `v + 3` within `Int64` max. -/
theorem Ledger.Valid.fits_of_room (hv : Ledger.Valid n ws L) (hroom : Room ws L.length) :
    ∀ k (hk : k < L.length), ∃ w, (afterLedger ws (L.take k))[L[k].slot]? = some w ∧
      (∀ x ∈ loadsAfter ws (L.take k), w.workload.toInt ≤ x) ∧
      w.workload.toInt + 3 ≤ Int64.maxValue.toInt := by
  obtain ⟨w₀, hw₀, hroom⟩ := hroom
  obtain ⟨i₀, hi₀, hw₀i⟩ := List.getElem_of_mem hw₀
  have hi₀' : ws[i₀]? = some w₀ := by rw [List.getElem?_eq_getElem hi₀, hw₀i]
  have hslot : ∀ k, ∃ y, (loadsAfter ws (L.take k))[i₀]? = some y := fun k => by simp [hi₀]
  -- the worker with room never carries more than its load plus 3 for each job so far
  have hinv : ∀ k ≤ L.length, ∀ x, (loadsAfter ws (L.take k))[i₀]? = some x →
      x ≤ w₀.workload.toInt + 3 * k := by
    intro k
    induction k with
    | zero =>
      intro _ x hx
      simp [hi₀'] at hx
      omega
    | succ k ih =>
      intro hk x hx
      have hkl : k < L.length := by omega
      obtain ⟨w, hw, hleast, hfit, -⟩ := (hv k hkl).balance
      obtain ⟨y, hy⟩ := hslot k
      have hvy : w.workload.toInt ≤ y := hleast y (List.mem_of_getElem? hy)
      have hy' := ih (by omega) y hy
      have hrise := L[k].rise_bounds
      rw [List.take_succ_eq_append_getElem hkl, hfit (by omega), List.getElem?_set] at hx
      split at hx
      · simp at hx
        omega
      · rw [hy] at hx
        cases hx
        omega
  intro k hk
  obtain ⟨w, hw, hleast, -⟩ := (hv k hk).balance
  refine ⟨w, hw, hleast, ?_⟩
  obtain ⟨y, hy⟩ := hslot k
  have := hleast y (List.mem_of_getElem? hy)
  have := hinv k (by omega) y hy
  omega

/-- In a batch with room each dispatch raises its slot by exactly its rise. -/
theorem Ledger.Valid.loadsAfter_take_succ (hv : Ledger.Valid n ws L) (hroom : Room ws L.length)
    {k : Nat} (hk : k < L.length) :
    ∃ w, (afterLedger ws (L.take k))[L[k].slot]? = some w ∧
      (∀ x ∈ loadsAfter ws (L.take k), w.workload.toInt ≤ x) ∧
      (∀ j, j < L[k].slot → ∀ x, (loadsAfter ws (L.take k))[j]? = some x → w.workload.toInt < x) ∧
      w.workload.toInt + 3 ≤ Int64.maxValue.toInt ∧
      loadsAfter ws (L.take (k + 1)) =
        (loadsAfter ws (L.take k)).set L[k].slot (w.workload.toInt + L[k].rise) := by
  obtain ⟨w, hw, hleast, hfit3⟩ := hv.fits_of_room hroom k hk
  obtain ⟨w', hw', -, hfirst⟩ := (hv k hk).least
  obtain ⟨w'', hw'', -, hfit, -⟩ := (hv k hk).balance
  rw [hw] at hw' hw''
  cases hw'
  cases hw''
  have hrise := L[k].rise_bounds
  refine ⟨w, hw, hleast, hfirst, hfit3, ?_⟩
  rw [List.take_succ_eq_append_getElem hk]
  exact hfit (by omega)

/-- In a batch with room no dispatch takes the loads below a bound they all kept: the raised
slot stays above the least load, and every other slot is where it was. -/
theorem Ledger.Valid.lower_bound_succ (hv : Ledger.Valid n ws L) (hroom : Room ws L.length)
    {k : Nat} (hk : k < L.length) {c : Int} (hc : ∀ x ∈ loadsAfter ws (L.take k), c ≤ x) :
    ∀ y ∈ loadsAfter ws (L.take (k + 1)), c ≤ y := by
  obtain ⟨w, hw, -, -, -, hnext⟩ := hv.loadsAfter_take_succ hroom hk
  have hrise := L[k].rise_bounds
  have hleast := hc _ (List.mem_of_getElem? (getElem?_loadsAfter_of_getElem? hw))
  intro y hy
  rw [hnext] at hy
  rcases List.mem_or_eq_of_mem_set hy with hy | rfl
  · exact hc y hy
  · omega

/-- In a batch with room every bound of at least 3 on how far the starting loads spread bounds
the loads after each dispatch: by induction on the dispatches, each raising a least load by at
most 3 (`spread_set_least`). -/
theorem Ledger.Valid.spread_of_room (hv : Ledger.Valid n ws L) (hroom : Room ws L.length)
    {s : Int} (hs : 3 ≤ s) (h0 : ∀ x ∈ loadsAfter ws [], ∀ y ∈ loadsAfter ws [], y - x ≤ s) :
    ∀ k ≤ L.length, ∀ x ∈ loadsAfter ws (L.take k), ∀ y ∈ loadsAfter ws (L.take k), y - x ≤ s := by
  intro k
  induction k with
  | zero => intro _; simpa using h0
  | succ k ih =>
    intro hk
    obtain ⟨w, hw, hleast, -, -, hnext⟩ := hv.loadsAfter_take_succ hroom (by omega : k < L.length)
    have hrise := L[k].rise_bounds
    rw [hnext]
    exact spread_set_least (getElem?_loadsAfter_of_getElem? hw) hleast (by omega) hs (ih (by omega))

end Room

/-- A dispatch whose least load plus its rise passes `Int64` max leaves its slot below every
load the copy had before it. -/
theorem Ledger.Valid.wraps_below {n : Node} {ws : List Worker} {L : List Dispatch}
    (hv : Ledger.Valid n ws L) {k : Nat} (hk : k < L.length) {w : Worker}
    (hw : (afterLedger ws (L.take k))[L[k].slot]? = some w)
    (hwrap : Int64.maxValue.toInt < w.workload.toInt + L[k].rise) :
    ∃ y ∈ loadsAfter ws (L.take (k + 1)), ∀ x ∈ loadsAfter ws (L.take k), y < x := by
  obtain ⟨w', hw', -, -, hwrapped⟩ := (hv k hk).balance
  rw [hw] at hw'
  cases hw'
  rw [List.take_succ_eq_append_getElem hk]
  exact hwrapped hwrap

/-! ## The batch over unbounded integers -/

/-- The batch over unbounded integer loads, for jobs answered as `oks` says: each job goes to
the first least load, which rises by the speculative load, less the back-off when the job
failed. Gives the slots the jobs went to and the final loads. -/
def exactBatch : List Int → List Bool → List Nat × List Int
  | loads, [] => ([], loads)
  | loads, ok :: oks =>
    let least := loads.min?.getD 0
    let i := loads.idxOf least
    let rest := exactBatch
      (loads.set i (least + speculativeLoad.toInt - if ok then 0 else failureBackoff.toInt)) oks
    (i :: rest.1, rest.2)

example : exactBatch [5, 2, 2] [true, false, true] = ([1, 2, 2], [5, 5, 7]) := by decide

/-- The first index of the least value of a list is where a least value sits that every earlier
value exceeds. -/
theorem idxOf_min?_eq {xs : List Int} {i : Nat} {v : Int} (hi : xs[i]? = some v)
    (hleast : ∀ x ∈ xs, v ≤ x) (hfirst : ∀ j, j < i → ∀ x, xs[j]? = some x → v < x) :
    xs.min?.getD 0 = v ∧ xs.idxOf v = i := by
  have hlt : i < xs.length := (List.getElem?_eq_some_iff.1 hi).1
  refine ⟨by rw [List.min?_eq_some_iff.2 ⟨List.mem_of_getElem? hi, hleast⟩]; rfl, ?_⟩
  show xs.findIdx (· == v) = i
  rw [List.findIdx_eq hlt]
  refine ⟨by simp [(List.getElem?_eq_some_iff.1 hi).2], fun j hj => ?_⟩
  have := hfirst j hj xs[j] (List.getElem?_eq_getElem (by omega))
  simp only [beq_eq_false_iff_ne, ne_eq]
  omega

/-- The batch of the dispatches `L` over `ws`, computed in 64 bits, is the batch over unbounded
integers: no raise by the speculative load and no lowering by the back-off wraps, and the slots
and the final loads are those of `exactBatch`. -/
def Ledger.Exact (ws : List Worker) (L : List Dispatch) : Prop :=
  (∀ k (hk : k < L.length), ∃ w, (afterLedger ws (L.take k))[L[k].slot]? = some w ∧
      (w.workload + speculativeLoad).toInt = w.workload.toInt + speculativeLoad.toInt ∧
      (w.workload + speculativeLoad - failureBackoff).toInt =
        w.workload.toInt + speculativeLoad.toInt - failureBackoff.toInt) ∧
    exactBatch (loadsAfter ws []) (L.map (·.accepted)) = (L.map (·.slot), loadsAfter ws L)

section Exact

variable {n : Node} {ws : List Worker} {L : List Dispatch}

/-- From every point of a batch with room on, the rest of the batch is the batch over unbounded
integers: by induction on the jobs left, each going to the first least load. -/
theorem Ledger.Valid.exactBatch_drop (hv : Ledger.Valid n ws L) (hroom : Room ws L.length) :
    ∀ m k, k + m = L.length →
      exactBatch (loadsAfter ws (L.take k)) ((L.drop k).map (·.accepted)) =
        ((L.drop k).map (·.slot), loadsAfter ws L)
  | 0, k, h => by
    have hk : L.length ≤ k := by omega
    simp [List.drop_eq_nil_of_le hk, List.take_of_length_le hk, exactBatch]
  | m + 1, k, h => by
    have hk : k < L.length := by omega
    obtain ⟨w, hw, hleast, hfirst, -, hnext⟩ := hv.loadsAfter_take_succ hroom hk
    obtain ⟨hmin, hidx⟩ := idxOf_min?_eq (getElem?_loadsAfter_of_getElem? hw) hleast hfirst
    have hrest := hv.exactBatch_drop hroom m (k + 1) (by omega)
    rw [List.drop_eq_getElem_cons hk, List.map_cons, List.map_cons]
    simp only [exactBatch, hmin, hidx]
    -- the unbounded step is the dispatch's rise on the least load
    have hstep : w.workload.toInt + speculativeLoad.toInt -
        (if L[k].accepted then 0 else failureBackoff.toInt) = w.workload.toInt + L[k].rise := by
      simp only [Dispatch.rise]
      omega
    rw [hstep, ← hnext, hrest]

/-- **A batch with room is exact.** -/
theorem Ledger.Valid.exact_of_room (hv : Ledger.Valid n ws L) (hroom : Room ws L.length) :
    Ledger.Exact ws L := by
  refine ⟨fun k hk => ?_, by simpa using hv.exactBatch_drop hroom L.length 0 (by omega)⟩
  obtain ⟨w, hw, -, hfit⟩ := hv.fits_of_room hroom k hk
  have hlo := Int64.le_toInt w.workload
  have hmax := Int64.toInt_maxValue
  refine ⟨w, hw, ?_, ?_⟩
  · rw [Int64.toInt_add, toInt_speculativeLoad, Int.bmod_eq_of_le (by omega) (by omega)]
  · rw [Int64.toInt_sub, Int64.toInt_add, toInt_speculativeLoad, toInt_failureBackoff,
      Int.bmod_sub_bmod, Int.bmod_eq_of_le (by omega) (by omega)]

end Exact

/-- The first job of a batch goes to the first least-loaded worker, raised by the speculative
load, under the node's next job id: a ledger of one dispatch. -/
theorem Ledger.Valid.first (n : Node) {ws : List Worker} {i : Nat} {w : Worker}
    (hi : leastLoaded (ws.map (·.workload)) = some i) (hw : ws[i]? = some w) (j : Job) :
    Ledger.Valid n ws [⟨i, n.jobIdOf (n.jobs + 1),
      { w with workload := w.workload + speculativeLoad }, j,
      n.answer { w with workload := w.workload + speculativeLoad }
        (j.addressed (n.jobIdOf (n.jobs + 1)) w.id)⟩] := by
  have hnext : Dispatch.Next n ws [] ⟨i, n.jobIdOf (n.jobs + 1),
      { w with workload := w.workload + speculativeLoad }, j,
      n.answer { w with workload := w.workload + speculativeLoad }
        (j.addressed (n.jobIdOf (n.jobs + 1)) w.id)⟩ :=
    ⟨by rw [afterLedger_nil]; exact leastLoaded_isFirstLeast hi,
      ⟨w, by rw [afterLedger_nil]; exact hw, rfl⟩, rfl, rfl⟩
  simpa using (Ledger.Valid.nil n ws).snoc hnext

/-! ## The balance -/

/-- **The batch stays balanced until a load wraps.** For every list of alive workers and every
batch handed out over them, whatever the workers answered: when some worker has room for all
the batch's jobs, no dispatch lowers the least in-run load, and every bound of at least 3 on
how far the loads spread when the batch began still bounds them after each dispatch, so the
spread never exceeds the larger of its starting value and 3. But a dispatch whose least load
plus its rise passes `Int64` max wraps that load below every load the copy had: the least load
falls. -/
theorem batch_balance_holds_until_a_load_wraps {n : Node} {ws : List Worker} {L : List Dispatch}
    (hv : Ledger.Valid n ws L) :
    (Room ws L.length → ∀ k < L.length,
      (∀ c, (∀ x ∈ loadsAfter ws (L.take k), c ≤ x) →
        ∀ y ∈ loadsAfter ws (L.take (k + 1)), c ≤ y) ∧
      ∀ s, 3 ≤ s → (∀ x ∈ loadsAfter ws [], ∀ y ∈ loadsAfter ws [], y - x ≤ s) →
        ∀ x ∈ loadsAfter ws (L.take (k + 1)), ∀ y ∈ loadsAfter ws (L.take (k + 1)), y - x ≤ s) ∧
    ∀ k (hk : k < L.length) (w : Worker), (afterLedger ws (L.take k))[L[k].slot]? = some w →
      Int64.maxValue.toInt < w.workload.toInt + L[k].rise →
      ∃ y ∈ loadsAfter ws (L.take (k + 1)), ∀ x ∈ loadsAfter ws (L.take k), y < x := by
  refine ⟨fun hroom k hk => ⟨fun c hc => ?_, fun s hs h0 => ?_⟩,
    fun k hk w hw hwrap => hv.wraps_below hk hw hwrap⟩
  · -- with room: a step of the batch keeps every lower bound
    exact hv.lower_bound_succ hroom hk hc
  · -- with room: the whole batch so far keeps every spread bound of at least 3
    exact hv.spread_of_room hroom hs h0 (k + 1) (by omega)

/-- Two workers near the top of `Int64`, as a seed may list them: the first job goes to the
least load, `2^63 - 3`, whose raise by 3 passes `Int64` max and wraps to the bottom, so the
batch's least load falls below both loads it started from. -/
theorem least_load_falls_when_its_raise_wraps :
    ∃ y ∈ loadsAfter
        [Worker.new "A" "127.0.0.1" 9223372036854775805 (Time.Instant.ofParts 0 0 0),
          Worker.new "B" "127.0.0.1" 9223372036854775806 (Time.Instant.ofParts 0 0 0)]
        [⟨0, "", { Worker.new "A" "127.0.0.1" 9223372036854775805 (Time.Instant.ofParts 0 0 0) with
            workload := 9223372036854775805 + speculativeLoad },
          .premiere { streamId := 1, filePath := "/srv/vod/1.mp4" }, .ok true⟩],
      ∀ x ∈ loadsAfter
        [Worker.new "A" "127.0.0.1" 9223372036854775805 (Time.Instant.ofParts 0 0 0),
          Worker.new "B" "127.0.0.1" 9223372036854775806 (Time.Instant.ofParts 0 0 0)] [],
        y < x :=
  (batch_balance_holds_until_a_load_wraps
    (Ledger.Valid.first { directory := {}, workerIdOf := fun _ => "", jobIdOf := fun _ => "" }
      (by decide) (by decide) (.premiere { streamId := 1, filePath := "/srv/vod/1.mp4" }))).2
    0 (by decide) (Worker.new "A" "127.0.0.1" 9223372036854775805 (Time.Instant.ofParts 0 0 0))
    (by decide) (by decide)

/-! ## Exactness -/

/-- **A batch with room computes in 64 bits what it would over unbounded integers.** For every
list of alive workers and every batch handed out over them, whatever the workers answered:
when some alive load `m` (so the least one) leaves `m + 3 J` within `Int64` max for the batch's
`J` jobs, no raise by 3 and no lowering by 1 wraps, and the slots the jobs went to and the
final in-run loads are those of the batch over unbounded integers. So it is whenever every
alive load came from a join or a heartbeat, between 0 and `2^32 - 1`, and the batch has at
most `2^61` jobs. A load seeded near `Int64` max can wrap, and the 64-bit batch then differs
from the unbounded one. -/
theorem batch_loads_exact_with_room :
    (∀ (n : Node) (ws : List Worker) (L : List Dispatch), Ledger.Valid n ws L →
      Room ws L.length → Ledger.Exact ws L) ∧
    (∀ (ws : List Worker) (J : Nat), ws ≠ [] →
      (∀ w ∈ ws, 0 ≤ w.workload.toInt ∧ w.workload.toInt ≤ 4294967295) →
      J ≤ 2305843009213693952 → Room ws J) ∧
    ∃ (n : Node) (ws : List Worker) (L : List Dispatch), Ledger.Valid n ws L ∧ ¬ Ledger.Exact ws L := by
  refine ⟨fun n ws L hv hroom => hv.exact_of_room hroom, fun ws J hws hloads hJ => ?_, ?_⟩
  · -- any heartbeat load leaves room for `2^61` jobs
    obtain ⟨w, hw⟩ := List.exists_mem_of_ne_nil ws hws
    have hmax := Int64.toInt_maxValue
    have := (hloads w hw).2
    exact ⟨w, hw, by omega⟩
  · -- one worker at `2^63 - 3` taking one job: its load wraps where the unbounded one does not
    refine ⟨{ directory := {}, workerIdOf := fun _ => "", jobIdOf := fun _ => "" },
      [Worker.new "A" "127.0.0.1" 9223372036854775805 (Time.Instant.ofParts 0 0 0)], _,
      Ledger.Valid.first _ (i := 0)
        (w := Worker.new "A" "127.0.0.1" 9223372036854775805 (Time.Instant.ofParts 0 0 0))
        (by decide) (by decide) (.premiere { streamId := 1, filePath := "/srv/vod/1.mp4" }),
      fun h => ?_⟩
    have hloads := h.2
    revert hloads
    decide

/-- Two workers with loads a heartbeat can report, 0 and `2^32 - 1`, and one job: the batch has
room, so its 64-bit loads are the unbounded ones. -/
theorem heartbeat_loads_batch_exactly :
    Ledger.Exact
      [Worker.new "A" "127.0.0.1" 0 (Time.Instant.ofParts 0 0 0),
        Worker.new "B" "127.0.0.1" 4294967295 (Time.Instant.ofParts 0 0 0)]
      [⟨0, "", { Worker.new "A" "127.0.0.1" 0 (Time.Instant.ofParts 0 0 0) with
          workload := 0 + speculativeLoad },
        .premiere { streamId := 1, filePath := "/srv/vod/1.mp4" }, .ok true⟩] :=
  batch_loads_exact_with_room.1 { directory := {}, workerIdOf := fun _ => "", jobIdOf := fun _ => "" }
    _ _ (Ledger.Valid.first _ (by decide) (by decide)
      (.premiere { streamId := 1, filePath := "/srv/vod/1.mp4" }))
    (batch_loads_exact_with_room.2.1 _ 1 (by simp) (by decide) (by decide))

end StreamDispatch
