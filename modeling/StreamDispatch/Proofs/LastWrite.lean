import StreamDispatch.Directory.Table
import StreamDispatch.Catalog.Feed

/-!
# The last write wins

A store read after a run of writes answers with the last write that reaches what is read, or,
when no write of the run reaches it, with what it answered before. That holds of every store
whose reads see a write exactly when it reaches them (`read_foldl_write`), and this module
reads two of the dispatcher's stores through it:

* a table built from a list of records finds, under each key, the last record with that key
  (`findBy_tableOf`), however the records with other keys were ordered around it;
* a stream's playlists, written by reports that name their feed by a label, give for every
  label the URL of the last report whose label names the same feed, or nothing
  (`playlist_reads_last_report_for_its_feed`). Only `PRES` and `CAM` name the presentation and
  the camera feed; every other label, the empty one and other cases of these included, names
  the combined feed.
-/

namespace StreamDispatch

/-! ## Reads after a run of writes -/

section Store

variable {σ ω κ β : Type}

/-- **The last write wins.** When a read of `k` sees a write exactly when the write hits `k`,
reading after a run of writes gives the value of the last write of the run that hits `k`, and
what the store held before when none does. -/
theorem read_foldl_write (write : σ → ω → σ) (read : σ → κ → Option β) (hits : ω → κ → Bool)
    (value : ω → β)
    (hread : ∀ t w k, read (write t w) k = if hits w k then some (value w) else read t k) :
    ∀ (ws : List ω) (t : σ) (k : κ),
      read (ws.foldl write t) k = ((ws.reverse.find? (hits · k)).map value).or (read t k) := by
  intro ws
  induction ws with
  | nil => intro t k; simp
  | cons w ws ih =>
    intro t k
    -- the first write of the run is seen only when no later one hits `k`
    rw [List.foldl_cons, ih, hread, List.reverse_cons, List.find?_append]
    cases hws : ws.reverse.find? (hits · k) with
    | some w' => simp
    | none => by_cases hw : hits w k <;> simp [hw]

end Store

/-! ## Tables -/

section Table

variable {α κ : Type} [LT κ] [DecidableRel (α := κ) (· < ·)] [DecidableEq κ]

/-- A table built from a list of records finds under each key the last record with that key. -/
theorem findBy_tableOf (key : α → κ) (k : κ) (xs : List α) :
    findBy key k (tableOf key xs) = findBy key k xs.reverse := by
  have hread : ∀ (t : List α) (x : α) (k : κ),
      findBy key k (putBy key x t) = if decide (key x = k) then some x else findBy key k t := by
    intro t x k
    simpa using findBy_putBy key x k t
  have h := read_foldl_write (fun t x => putBy key x t) (fun t k => findBy key k t)
    (fun x k => decide (key x = k)) id hread xs [] k
  simpa [tableOf, findBy] using h

end Table

/-! ## Playlists -/

namespace Feed

/-- Only the label `PRES` names the presentation feed. -/
theorem ofLabel_eq_presentation_iff (l : String) : ofLabel l = .presentation ↔ l = "PRES" := by
  unfold ofLabel
  by_cases hp : l = "PRES"
  · simp [hp]
  · by_cases hc : l = "CAM" <;> simp [hp, hc]

/-- Only the label `CAM` names the camera feed. -/
theorem ofLabel_eq_camera_iff (l : String) : ofLabel l = .camera ↔ l = "CAM" := by
  unfold ofLabel
  by_cases hp : l = "PRES"
  · subst hp
    simp
  · by_cases hc : l = "CAM" <;> simp [hp, hc]

/-- Every label but `PRES` and `CAM` names the combined feed. -/
theorem ofLabel_eq_combined_iff (l : String) :
    ofLabel l = .combined ↔ l ≠ "PRES" ∧ l ≠ "CAM" := by
  unfold ofLabel
  by_cases hp : l = "PRES"
  · simp [hp]
  · by_cases hc : l = "CAM" <;> simp [hp, hc]

end Feed

namespace PerFeed

variable {α : Type}

@[simp] theorem get_set (p : PerFeed α) (f g : Feed) (v : α) :
    (p.set f v).get g = if f = g then some v else p.get g := by
  simp [set]

/-- Reports stored by label: each label reads the value of the last report whose label names
the same feed, or the slot's earlier value when there is none. -/
theorem get_foldl_set (p : PerFeed α) (reports : List (String × α)) (l : String) :
    (reports.foldl (fun p r => p.set (Feed.ofLabel r.1) r.2) p).get (Feed.ofLabel l) =
      ((reports.reverse.find? fun r => Feed.ofLabel r.1 = Feed.ofLabel l).map (·.2)).or
        (p.get (Feed.ofLabel l)) := by
  have hread : ∀ (q : PerFeed α) (r : String × α) (l : String),
      (q.set (Feed.ofLabel r.1) r.2).get (Feed.ofLabel l) =
        if decide (Feed.ofLabel r.1 = Feed.ofLabel l) then some r.2 else q.get (Feed.ofLabel l) := by
    intro q r l
    simp
  exact read_foldl_write (fun q r => q.set (Feed.ofLabel r.1) r.2) (fun q l => q.get (Feed.ofLabel l))
    (fun r l => decide (Feed.ofLabel r.1 = Feed.ofLabel l)) (·.2) hread reports p l

end PerFeed

/-- **Playlists keep the last report of each feed.** After any run of reports `(label, url)` on
a stream's empty playlists, reading a label gives the URL of the last report whose label names
the same feed, or nothing when there is none; reports for the other feeds never change it.
`PRES` and `CAM` alone name the presentation and the camera feed, and every other label names
the combined one. -/
theorem playlist_reads_last_report_for_its_feed :
    (∀ (reports : List (String × String)) (l : String),
      (reports.foldl (fun p r => p.set (Feed.ofLabel r.1) r.2) ({} : PerFeed String)).get
          (Feed.ofLabel l) =
        (reports.reverse.find? fun r => Feed.ofLabel r.1 = Feed.ofLabel l).map (·.2)) ∧
    (∀ l, Feed.ofLabel l = .presentation ↔ l = "PRES") ∧
    (∀ l, Feed.ofLabel l = .camera ↔ l = "CAM") ∧
    (∀ l, Feed.ofLabel l = .combined ↔ l ≠ "PRES" ∧ l ≠ "CAM") := by
  refine ⟨fun reports l => ?_, Feed.ofLabel_eq_presentation_iff, Feed.ofLabel_eq_camera_iff,
    Feed.ofLabel_eq_combined_iff⟩
  -- the empty playlists hold nothing in any slot
  have hempty : ({} : PerFeed String).get (Feed.ofLabel l) = none := by
    cases Feed.ofLabel l <;> rfl
  rw [PerFeed.get_foldl_set, hempty, Option.or_none]

end StreamDispatch
