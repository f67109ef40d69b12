import StreamDispatch.Config
import StreamDispatch.Proofs.Clock

/-!
# Capped windows

A configured window is used as a span of whole milliseconds, capped at 366 days. The cap keeps
every span between zero and 31 622 400 000 milliseconds, far inside what a signed 64-bit count
of milliseconds holds, so turning a window into a span never overflows, and a longer window
never gives a shorter span. Settings are accepted exactly when the dispatch interval and the
dial timeout are positive and no window exceeds 366 days, and otherwise rejected with the first
check that fails, in that order; the windows of accepted settings are therefore never cut by
the cap.

* `windowSpan_of_le_maxWindow` — a window within the cap keeps its length in whole
  milliseconds;
* `Settings.validate_of_interval_zero`, `_of_dial_zero`, `_of_oversized`, `_of_within` — what
  validation answers on each of its branches, and from them `Settings.validate_eq_ok_iff` /
  `Settings.validate_eq_error_iff`: which settings it accepts, and which check it reports for
  the others;
* `window_cap_never_binds_accepted_settings` — all of it together.
-/

namespace StreamDispatch

open Time

/-! ## Spans of windows

`StreamDispatch.Proofs.Clock` gives a window's span in closed form (`windowSpan_nanos`) and its
growth with the window (`windowSpan_mono`); within the cap the span is the window itself. -/

namespace Time

/-- A window within the cap keeps its length, truncated to whole milliseconds. -/
theorem windowSpan_of_le_maxWindow {d : Duration} (h : d ≤ maxWindow) :
    (windowSpan d).nanos = (d.toNanos / 1000000 : Nat) * 1000000 := by
  have hle : d.toNanos ≤ 31622400000000000 := h
  rw [windowSpan_nanos, Nat.min_eq_left (by omega)]

end Time

/-! ## Validating settings -/

namespace Settings

theorem maxWindow_secs_text : toString maxWindow.secs = "31622400" := by decide

/-- The message of an oversized window names the limit in seconds. -/
theorem oversized_message (name : String) (w : Duration) :
    s!"{name} of {w.secs}s exceeds the {maxWindow.secs}s limit" =
      s!"{name} of {w.secs}s exceeds the 31622400s limit" := by
  rw [maxWindow_secs_text]
  simp only [String.append_assoc]
  rfl

variable {s : Settings}

/-- A zero dispatch interval is reported before anything else. -/
theorem validate_of_interval_zero (hi : s.dispatchInterval.isZero = true) :
    s.validate = .error (.invalidArgument "dispatch interval must be positive") := by
  unfold validate
  rw [hi]
  rfl

/-- With a positive dispatch interval, a zero dial timeout is reported next. -/
theorem validate_of_dial_zero (hi : s.dispatchInterval.isZero = false)
    (ht : s.dialTimeout.isZero = true) :
    s.validate = .error (.invalidArgument "dial timeout must be positive") := by
  unfold validate
  rw [hi, ht]
  rfl

/-- With both positive, the first window over the cap is reported, with its whole seconds. -/
theorem validate_of_oversized (hi : s.dispatchInterval.isZero = false)
    (ht : s.dialTimeout.isZero = false) {pre post : List (String × Duration)} {name : String}
    {w : Duration} (hsplit : s.windows = pre ++ (name, w) :: post)
    (hpre : ∀ v ∈ pre, v.2 ≤ maxWindow) (hover : maxWindow < w) :
    s.validate = .error (.invalidArgument s!"{name} of {w.secs}s exceeds the 31622400s limit") := by
  unfold validate
  rw [hi, ht, if_neg Bool.false_ne_true, if_neg Bool.false_ne_true]
  split
  · rename_i name' w' hfind
    -- the search stops at the first window over the cap, which is `(name, w)`
    have hsame : some (name, w) = some (name', w') := by
      rw [← hfind]
      refine (List.find?_eq_some_iff_append.2 ⟨by simpa using hover, pre, post, hsplit,
        fun v hv => ?_⟩).symm
      have hnot : ¬ maxWindow < v.2 := Nat.not_lt_of_le (hpre v hv)
      simpa using hnot
    cases hsame
    rw [oversized_message]
  · rename_i hfind
    have hnot := List.find?_eq_none.1 hfind (name, w) (by rw [hsplit]; simp)
    exact absurd hover (by simpa using hnot)

/-- With both positive and every window within the cap, the settings are accepted. -/
theorem validate_of_within (hi : s.dispatchInterval.isZero = false)
    (ht : s.dialTimeout.isZero = false) (hall : ∀ v ∈ s.windows, v.2 ≤ maxWindow) :
    s.validate = .ok () := by
  unfold validate
  rw [hi, ht, if_neg Bool.false_ne_true, if_neg Bool.false_ne_true]
  split
  · rename_i name w hfind
    have hover : maxWindow < w := by simpa using (List.find?_eq_some_iff_append.1 hfind).1
    exact absurd (hall (name, w) (List.mem_of_find?_eq_some hfind)) (Nat.not_le_of_gt hover)
  · rfl

/-- Some window over the cap means a first one: every window before it is within the cap. -/
theorem exists_first_oversized (hover : ∃ v ∈ s.windows, maxWindow < v.2) :
    ∃ pre name w post, s.windows = pre ++ (name, w) :: post ∧
      (∀ v ∈ pre, v.2 ≤ maxWindow) ∧ maxWindow < w := by
  cases hf : s.windows.find? (fun v => decide (maxWindow < v.2)) with
  | none =>
    obtain ⟨v, hv, hlt⟩ := hover
    exact absurd (List.find?_eq_none.1 hf v hv) (by simpa using hlt)
  | some v =>
    obtain ⟨hlt, pre, post, hsplit, hpre⟩ := List.find?_eq_some_iff_append.1 hf
    refine ⟨pre, v.1, v.2, post, hsplit, fun u hu => ?_, by simpa using hlt⟩
    have hnot : ¬ maxWindow < u.2 := by simpa using hpre u hu
    exact Nat.le_of_not_gt hnot

/-- Validation accepts exactly the settings whose dispatch interval and dial timeout are
positive and whose windows are each at most 366 days. -/
theorem validate_eq_ok_iff (s : Settings) :
    s.validate = .ok () ↔
      s.dispatchInterval.isZero = false ∧ s.dialTimeout.isZero = false ∧
        ∀ w ∈ s.windows, w.2 ≤ maxWindow := by
  refine ⟨fun h => ?_, fun ⟨hi, ht, hall⟩ => validate_of_within hi ht hall⟩
  -- every check must pass, or validation would have reported it
  cases hi : s.dispatchInterval.isZero
  · cases ht : s.dialTimeout.isZero
    · refine ⟨rfl, rfl, fun v hv => Nat.le_of_not_gt fun hlt => ?_⟩
      obtain ⟨pre, name, w, post, hsplit, hpre, hover⟩ := exists_first_oversized ⟨v, hv, hlt⟩
      rw [validate_of_oversized hi ht hsplit hpre hover] at h
      cases h
    · rw [validate_of_dial_zero hi ht] at h
      cases h
  · rw [validate_of_interval_zero hi] at h
    cases h

/-- Validation rejects settings with the first check that fails: a zero dispatch interval, then
a zero dial timeout, then the first window, in the order of `windows`, longer than 366 days,
whose length the message gives in whole seconds. -/
theorem validate_eq_error_iff (s : Settings) (e : Failure) :
    s.validate = .error e ↔
      (s.dispatchInterval.isZero = true ∧
        e = .invalidArgument "dispatch interval must be positive") ∨
      (s.dispatchInterval.isZero = false ∧ s.dialTimeout.isZero = true ∧
        e = .invalidArgument "dial timeout must be positive") ∨
      (s.dispatchInterval.isZero = false ∧ s.dialTimeout.isZero = false ∧
        ∃ pre name w post, s.windows = pre ++ (name, w) :: post ∧
          (∀ v ∈ pre, v.2 ≤ maxWindow) ∧ maxWindow < w ∧
          e = .invalidArgument s!"{name} of {w.secs}s exceeds the 31622400s limit") := by
  constructor
  · intro h
    -- the failing check is the first one, in checking order
    cases hi : s.dispatchInterval.isZero
    · cases ht : s.dialTimeout.isZero
      · rcases Classical.em (∃ v ∈ s.windows, maxWindow < v.2) with hover | hover
        · obtain ⟨pre, name, w, post, hsplit, hpre, hlt⟩ := exists_first_oversized hover
          rw [validate_of_oversized hi ht hsplit hpre hlt] at h
          cases h
          exact .inr (.inr ⟨rfl, rfl, pre, name, w, post, hsplit, hpre, hlt, rfl⟩)
        · have hall : ∀ v ∈ s.windows, v.2 ≤ maxWindow :=
            fun v hv => Nat.le_of_not_gt fun hlt => hover ⟨v, hv, hlt⟩
          rw [validate_of_within hi ht hall] at h
          cases h
      · rw [validate_of_dial_zero hi ht] at h
        cases h
        exact .inr (.inl ⟨rfl, rfl, rfl⟩)
    · rw [validate_of_interval_zero hi] at h
      cases h
      exact .inl ⟨rfl, rfl⟩
  · rintro (⟨hi, rfl⟩ | ⟨hi, ht, rfl⟩ | ⟨hi, ht, pre, name, w, post, hsplit, hpre, hover, rfl⟩)
    · exact validate_of_interval_zero hi
    · exact validate_of_dial_zero hi ht
    · exact validate_of_oversized hi ht hsplit hpre hover

end Settings

/-- **The cap never cuts an accepted window.** A window's span is its length capped at 366 days
in whole milliseconds, so its count of milliseconds lies between 0 and 31 622 400 000, far
inside a signed 64-bit count, and a longer window never gives a shorter span. Settings are
accepted exactly when the dispatch interval and the dial timeout are positive and each of the
five windows is at most 366 days; otherwise the first failing check, in that order, is
reported. The span of every window of accepted settings is its length in whole milliseconds. -/
theorem window_cap_never_binds_accepted_settings :
    (∀ d : Duration,
      (windowSpan d).nanos = (min (d.toNanos / 1000000) 31622400000 : Nat) * 1000000) ∧
    (∀ d e : Duration, d ≤ e → windowSpan d ≤ windowSpan e) ∧
    (∀ s : Settings, s.validate = .ok () ↔
      s.dispatchInterval.isZero = false ∧ s.dialTimeout.isZero = false ∧
        ∀ w ∈ s.windows, w.2 ≤ maxWindow) ∧
    (∀ (s : Settings) (e : Failure), s.validate = .error e ↔
      (s.dispatchInterval.isZero = true ∧
        e = .invalidArgument "dispatch interval must be positive") ∨
      (s.dispatchInterval.isZero = false ∧ s.dialTimeout.isZero = true ∧
        e = .invalidArgument "dial timeout must be positive") ∨
      (s.dispatchInterval.isZero = false ∧ s.dialTimeout.isZero = false ∧
        ∃ pre name w post, s.windows = pre ++ (name, w) :: post ∧
          (∀ v ∈ pre, v.2 ≤ maxWindow) ∧ maxWindow < w ∧
          e = .invalidArgument s!"{name} of {w.secs}s exceeds the 31622400s limit")) ∧
    ∀ s : Settings, s.validate = .ok () →
      ∀ w ∈ s.windows, (windowSpan w.2).nanos = (w.2.toNanos / 1000000 : Nat) * 1000000 := by
  refine ⟨windowSpan_nanos, fun _ _ => windowSpan_mono,
    Settings.validate_eq_ok_iff, Settings.validate_eq_error_iff, fun s hok w hw => ?_⟩
  -- accepted settings have every window within the cap
  obtain ⟨-, -, hall⟩ := (Settings.validate_eq_ok_iff s).1 hok
  exact windowSpan_of_le_maxWindow (hall w hw)

/-- The default settings are accepted, and their stream lead of ten minutes keeps its 600 000
milliseconds; the longest duration gives no shorter span than a minute. -/
theorem default_stream_lead_keeps_its_length :
    Settings.validate {} = .ok () ∧
      (windowSpan (Duration.ofSecs 600)).nanos = 600000 * 1000000 ∧
      windowSpan (Duration.ofSecs 60) ≤ windowSpan Duration.max := by
  have hok : Settings.validate {} = .ok () := rfl
  refine ⟨hok, ?_, window_cap_never_binds_accepted_settings.2.1 _ _ (by decide)⟩
  rw [window_cap_never_binds_accepted_settings.2.2.2.2 {} hok ("stream lead", Duration.ofSecs 600)
    (by simp [Settings.windows])]
  rfl

end StreamDispatch
