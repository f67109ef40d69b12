import StreamDispatch.Time.Duration

/-!
# Moving an instant across the clock's ends

The clock runs from -262143-01-01T00:00:00Z to +262142-12-31T23:59:59.999999999Z. On the line
of nanoseconds counted from 1970-01-01T00:00:00Z an instant has one place, except a leap
second, which the line has no room for: a move back from `23:59:60.x` starts from the second
after it (`lateNanos`), a move forward from the second before it (`earlyNanos`). Off a leap
second the two readings agree.

Read this way, a move is exact arithmetic on the line (`Instant.shift?_eq`): it lands on the
instant at the reading moved by the span, unless it stays inside a leap second, and it fails
exactly when that place is off the clock. For a span that is not negative:

* `minus_error_iff`, `plus_error_iff` — moving back fails exactly when it `LeavesBefore` the
  clock, moving forward exactly when it `LeavesAfter` it;
* `lateNanos_of_minus`, `earlyNanos_of_plus` — the result's reading is the start's moved by the
  span;
* `minus_antitone`, `plus_monotone` — a longer span moves at least as far.

Windows are such spans: `windowSpan` is never negative, never longer than 366 days, and grows
with the duration.
-/

namespace StreamDispatch.Time

/-! ## Readings on the nanosecond line -/

/-- Nanoseconds from 1970-01-01T00:00:00Z to the instant, a leap second counted into the
second after it: where a move back from the instant starts. -/
def Instant.lateNanos (t : Instant) : Int := (t.day * 86400 + t.sec) * nanosPerSec + t.frac

/-- Nanoseconds from 1970-01-01T00:00:00Z to the instant, a leap second read as the second
before it: where a move forward from the instant starts. -/
def Instant.earlyNanos (t : Instant) : Int :=
  (t.day * 86400 + t.sec) * nanosPerSec + (t.frac % nanosPerSec : Nat)

/-- The clock's first instant on the nanosecond line. -/
def clockStart : Int := minDay * 86400 * nanosPerSec

/-- The first nanosecond past the clock's last instant. -/
def clockEnd : Int := (maxDay + 1) * 86400 * nanosPerSec

/-- A place on the nanosecond line that the clock covers. -/
def OnClock (p : Int) : Prop := clockStart ≤ p ∧ p < clockEnd

instance (p : Int) : Decidable (OnClock p) := inferInstanceAs (Decidable (_ ∧ _))

/-- Moving `t` back by `d` lands before the clock's first instant. -/
def Instant.LeavesBefore (t : Instant) (d : Span) : Prop := t.lateNanos - d.nanos < clockStart

/-- Moving `t` forward by `d` lands past the clock's last instant. -/
def Instant.LeavesAfter (t : Instant) (d : Span) : Prop := clockEnd ≤ t.earlyNanos + d.nanos

instance (t : Instant) (d : Span) : Decidable (t.LeavesBefore d) := inferInstanceAs (Decidable (_ < _))

instance (t : Instant) (d : Span) : Decidable (t.LeavesAfter d) := inferInstanceAs (Decidable (_ ≤ _))

/-- The instant lies at least 366 days inside the clock: moving it either way by the longest
window stays on the clock. -/
def Instant.WellInside (t : Instant) : Prop :=
  ¬ t.LeavesBefore (windowSpan maxWindow) ∧ ¬ t.LeavesAfter (windowSpan maxWindow)

instance (t : Instant) : Decidable t.WellInside := inferInstanceAs (Decidable (_ ∧ _))

/-- The instant at a place of the nanosecond line, if the clock covers it. -/
def Instant.atNanos? (p : Int) : Option Instant :=
  if OnClock p then some (Instant.ofUnixNanos p) else none

theorem minDay_eq : minDay = -96465292 := by decide

theorem maxDay_eq : maxDay = 95026236 := by decide

theorem clockStart_eq : clockStart = -8334601228800000000000 := by
  rw [clockStart, minDay_eq]
  rfl

theorem clockEnd_eq : clockEnd = 8210266876800000000000 := by
  rw [clockEnd, maxDay_eq]
  rfl

/-- The days the clock covers are the days of the instants on the nanosecond line it covers. -/
theorem Instant.inRange_iff (t : Instant) :
    t.inRange = true ↔ clockStart ≤ (t.day * 86400 + t.sec) * nanosPerSec ∧
      (t.day * 86400 + t.sec) * nanosPerSec < clockEnd := by
  have hs := t.sec_lt
  simp only [Instant.inRange, Bool.and_eq_true, decide_eq_true_eq, clockStart_eq, clockEnd_eq,
    minDay_eq, maxDay_eq, nanosPerSec]
  omega

/-! ## Instants at a place of the line -/

@[simp] theorem Instant.ofParts_day (day : Int) (sec frac : Nat) :
    (Instant.ofParts day sec frac).day = day := rfl

@[simp] theorem Instant.ofParts_sec (day : Int) (sec frac : Nat) :
    (Instant.ofParts day sec frac).sec = sec % 86400 := rfl

@[simp] theorem Instant.ofParts_frac (day : Int) (sec frac : Nat) :
    (Instant.ofParts day sec frac).frac = frac % (2 * nanosPerSec) := rfl

theorem Instant.ofUnixNanos_parts (p : Int) :
    (Instant.ofUnixNanos p).day = p / 1000000000 / 86400 ∧
      ((Instant.ofUnixNanos p).sec : Int) = p / 1000000000 % 86400 ∧
      ((Instant.ofUnixNanos p).frac : Int) = p % 1000000000 := by
  simp only [Instant.ofUnixNanos, Instant.ofParts_day, Instant.ofParts_sec, Instant.ofParts_frac,
    nanosPerSec]
  omega

@[simp] theorem Instant.lateNanos_ofUnixNanos (p : Int) : (Instant.ofUnixNanos p).lateNanos = p := by
  obtain ⟨hd, hs, hf⟩ := Instant.ofUnixNanos_parts p
  unfold Instant.lateNanos nanosPerSec
  omega

@[simp] theorem Instant.earlyNanos_ofUnixNanos (p : Int) : (Instant.ofUnixNanos p).earlyNanos = p := by
  obtain ⟨hd, hs, hf⟩ := Instant.ofUnixNanos_parts p
  unfold Instant.earlyNanos nanosPerSec
  omega

/-- An instant's order is its late reading, doubled, less its nanoseconds: a leap second comes
after every other instant of its second and before the next second. -/
theorem Instant.ord_eq (t : Instant) : t.ord = 2 * t.lateNanos - t.frac := by
  unfold Instant.ord Instant.lateNanos nanosPerSec
  omega

/-- Off a leap second the order of instants is the order of their places on the line. -/
theorem Instant.ofUnixNanos_le_ofUnixNanos {p p' : Int} (h : p ≤ p') :
    Instant.ofUnixNanos p ≤ Instant.ofUnixNanos p' := by
  obtain ⟨-, -, hf⟩ := Instant.ofUnixNanos_parts p
  obtain ⟨-, -, hf'⟩ := Instant.ofUnixNanos_parts p'
  show (Instant.ofUnixNanos p).ord ≤ (Instant.ofUnixNanos p').ord
  rw [Instant.ord_eq, Instant.ord_eq, Instant.lateNanos_ofUnixNanos,
    Instant.lateNanos_ofUnixNanos]
  omega

theorem Instant.inRange_ofUnixNanos {p : Int} (h : OnClock p) :
    (Instant.ofUnixNanos p).inRange = true := by
  obtain ⟨hd, hs, hf⟩ := Instant.ofUnixNanos_parts p
  rw [Instant.inRange_iff]
  unfold OnClock at h
  rw [clockStart_eq, clockEnd_eq] at h ⊢
  unfold nanosPerSec
  omega

/-! ## Moving an instant -/

/-- Carrying the nanoseconds into the seconds lands on the instant at that place, if the clock
covers it. -/
theorem Instant.settle_eq (day secs frac : Int) (hlo : -nanosPerSec ≤ frac)
    (hhi : frac < 2 * nanosPerSec) :
    Instant.settle day secs frac = Instant.atNanos? ((day * 86400 + secs) * nanosPerSec + frac) := by
  -- bring the nanoseconds below a second, carrying into the seconds
  obtain ⟨secs', frac', hpos, hf0, hf1, hnorm⟩ : ∃ secs' frac' : Int,
      secs * nanosPerSec + frac = secs' * nanosPerSec + frac' ∧ 0 ≤ frac' ∧ frac' < nanosPerSec ∧
      (if frac < 0 then (secs - 1, frac + nanosPerSec)
        else if frac ≥ nanosPerSec then (secs + 1, frac - nanosPerSec) else (secs, frac)) =
        (secs', frac') := by
    unfold nanosPerSec at *
    by_cases hneg : frac < 0
    · exact ⟨_, _, by omega, by omega, by omega, if_pos hneg⟩
    · rw [if_neg hneg]
      by_cases hover : frac ≥ 1000000000
      · exact ⟨_, _, by omega, by omega, by omega, if_pos hover⟩
      · exact ⟨_, _, by omega, by omega, by omega, if_neg hover⟩
  have hP : (day * 86400 + secs) * nanosPerSec + frac =
      (day * 86400 + secs') * nanosPerSec + frac' := by
    unfold nanosPerSec at *
    omega
  -- the day of the carried seconds is in range exactly when the place is on the clock
  have hday : (minDay ≤ day + secs' / 86400 && day + secs' / 86400 ≤ maxDay) = true ↔
      OnClock ((day * 86400 + secs') * nanosPerSec + frac') := by
    unfold OnClock
    rw [clockStart_eq, clockEnd_eq, minDay_eq, maxDay_eq]
    simp only [Bool.and_eq_true, decide_eq_true_eq]
    unfold nanosPerSec at *
    omega
  unfold Instant.settle Instant.atNanos? Instant.ofUnixNanos
  rw [hnorm, hP]
  dsimp only
  by_cases hon : OnClock ((day * 86400 + secs') * nanosPerSec + frac')
  · rw [if_pos hon, if_pos (hday.2 hon)]
    unfold nanosPerSec at *
    congr 2 <;> omega
  · rw [if_neg hon, if_neg (mt hday.1 hon)]

/-- A span splits into whole seconds and a rest of the same sign, shorter than a second. -/
theorem Span.split (d : Span) :
    d.nanos.tmod nanosPerSec + nanosPerSec * d.nanos.tdiv nanosPerSec = d.nanos ∧
      -nanosPerSec < d.nanos.tmod nanosPerSec ∧ d.nanos.tmod nanosPerSec < nanosPerSec ∧
      (0 ≤ d.nanos → 0 ≤ d.nanos.tmod nanosPerSec) ∧
      (d.nanos ≤ 0 → d.nanos.tmod nanosPerSec ≤ 0) := by
  have hneg := Int.neg_tmod d.nanos nanosPerSec
  have hlt := Int.tmod_lt_of_pos d.nanos (b := nanosPerSec) (by decide)
  have hlt' := Int.tmod_lt_of_pos (-d.nanos) (b := nanosPerSec) (by decide)
  refine ⟨Int.tmod_add_mul_tdiv _ _, by omega, hlt, Int.tmod_nonneg _, fun h => ?_⟩
  have := Int.tmod_nonneg nanosPerSec (a := -d.nanos) (by omega)
  omega

/-- **A move is arithmetic on the line.** Off a leap second it lands at the late reading moved
by the span. From inside a leap second, a move that leaves it forward starts from the second
before it, one that leaves it backward by a second or more from the second after it, and any
other move stays on the leap second's day and second. -/
theorem Instant.shift?_eq (t : Instant) (d : Span) :
    t.shift? d =
      if nanosPerSec ≤ t.frac then
        if 2 * nanosPerSec ≤ t.frac + d.nanos then Instant.atNanos? (t.earlyNanos + d.nanos)
        else if d.nanos ≤ -nanosPerSec then Instant.atNanos? (t.lateNanos + d.nanos)
        else some (Instant.ofParts t.day t.sec (t.frac + d.nanos).toNat)
      else Instant.atNanos? (t.lateNanos + d.nanos) := by
  obtain ⟨hsplit, hr0, hr1, hpos, hneg⟩ := Span.split d
  have hn : (nanosPerSec : Int) = 1000000000 := rfl
  have hf : (t.frac : Int) < 2000000000 := by
    have := t.frac_lt
    unfold nanosPerSec at this
    omega
  unfold Instant.shift?
  generalize d.nanos.tdiv nanosPerSec = q at *
  generalize d.nanos.tmod nanosPerSec = r at *
  simp only [Bool.or_eq_true, Bool.and_eq_true, decide_eq_true_eq]
  by_cases hleap : nanosPerSec ≤ t.frac
  · rw [if_pos hleap, if_pos (show (t.frac : Int) ≥ nanosPerSec by omega)]
    have hearly : ((t.frac % nanosPerSec : Nat) : Int) = t.frac - 1000000000 := by
      unfold nanosPerSec at hleap ⊢
      omega
    by_cases hfwd : 2 * (nanosPerSec : Int) ≤ t.frac + d.nanos
    · -- the move leaves the leap second forward: it starts from the second before it
      rw [if_pos hfwd, if_pos (show q > 0 ∨ (r > 0 ∧ (t.frac : Int) ≥ 2 * nanosPerSec - r) by
        unfold nanosPerSec at *; omega), Instant.settle_eq _ _ _ (by omega) (by omega)]
      unfold Instant.earlyNanos
      rw [hearly]
      congr 1
      unfold nanosPerSec at *
      omega
    · rw [if_neg hfwd, if_neg (show ¬ (q > 0 ∨ (r > 0 ∧ (t.frac : Int) ≥ 2 * nanosPerSec - r)) by
        unfold nanosPerSec at *; omega)]
      by_cases hback : d.nanos ≤ -nanosPerSec
      · -- the move leaves the leap second backward: it starts from the second after it
        rw [if_pos hback, if_pos (show q < 0 by unfold nanosPerSec at *; omega),
          Instant.settle_eq _ _ _ (by omega) (by omega)]
        unfold Instant.lateNanos
        congr 1
        unfold nanosPerSec at *
        omega
      · rw [if_neg hback, if_neg (show ¬ q < 0 by unfold nanosPerSec at *; omega)]
        congr 3
        unfold nanosPerSec at *
        omega
  · rw [if_neg hleap, if_neg (show ¬ (t.frac : Int) ≥ nanosPerSec by omega),
      Instant.settle_eq _ _ _ (by omega) (by omega)]
    unfold Instant.lateNanos
    congr 1
    unfold nanosPerSec at *
    omega

/-! ## Moving back and forward -/

section Moves

variable {t r r' : Instant} {d d' : Span}

/-- Off a leap second the two readings agree. -/
theorem Instant.earlyNanos_eq_lateNanos (h : t.frac < nanosPerSec) : t.earlyNanos = t.lateNanos := by
  unfold Instant.earlyNanos Instant.lateNanos
  rw [Nat.mod_eq_of_lt h]

/-- Inside a leap second the forward reading is a second before the backward one. -/
theorem Instant.earlyNanos_of_leap (h : nanosPerSec ≤ t.frac) :
    t.earlyNanos = t.lateNanos - nanosPerSec := by
  have hf := t.frac_lt
  unfold Instant.earlyNanos Instant.lateNanos nanosPerSec at *
  omega

/-- Moving back by a span that is not negative: from inside a leap second by less than a second
the move stays on the leap second's day and second; otherwise it lands at the late reading less
the span, and fails off the clock. -/
theorem Instant.minus_eq (t : Instant) (hd : 0 ≤ d.nanos) :
    t.minus d =
      if nanosPerSec ≤ t.frac ∧ d.nanos < nanosPerSec then
        .ok (Instant.ofParts t.day t.sec (t.frac - d.nanos).toNat)
      else if OnClock (t.lateNanos - d.nanos) then .ok (Instant.ofUnixNanos (t.lateNanos - d.nanos))
      else .error .backward := by
  have hn : (nanosPerSec : Int) = 1000000000 := rfl
  have hf := t.frac_lt
  unfold Instant.minus
  rw [Instant.shift?_eq]
  unfold Instant.atNanos?
  simp only [Span.neg, ← Int.sub_eq_add_neg]
  by_cases hleap : nanosPerSec ≤ t.frac
  · have hfwd : ¬ 2 * (nanosPerSec : Int) ≤ t.frac - d.nanos := by omega
    by_cases hshort : d.nanos < nanosPerSec
    · have hback : ¬ -d.nanos ≤ -(nanosPerSec : Int) := by omega
      simp only [hleap, hshort, hfwd, hback, and_self, if_true, if_false]
    · have hback : -d.nanos ≤ -(nanosPerSec : Int) := by omega
      simp only [hleap, hshort, hfwd, hback, and_false, if_true, if_false]
      by_cases hon : OnClock (t.lateNanos - d.nanos) <;> simp only [hon, if_true, if_false]
  · simp only [hleap, false_and, if_false]
    by_cases hon : OnClock (t.lateNanos - d.nanos) <;> simp only [hon, if_true, if_false]

/-- Moving forward by a span that is not negative: from inside a leap second, a move that stays
inside it keeps the day and second; otherwise it lands at the early reading plus the span, and
fails off the clock. -/
theorem Instant.plus_eq (t : Instant) (hd : 0 ≤ d.nanos) :
    t.plus d =
      if nanosPerSec ≤ t.frac ∧ t.frac + d.nanos < 2 * nanosPerSec then
        .ok (Instant.ofParts t.day t.sec (t.frac + d.nanos).toNat)
      else if OnClock (t.earlyNanos + d.nanos) then
        .ok (Instant.ofUnixNanos (t.earlyNanos + d.nanos))
      else .error .forward := by
  have hn : (nanosPerSec : Int) = 1000000000 := rfl
  unfold Instant.plus
  rw [Instant.shift?_eq]
  unfold Instant.atNanos?
  by_cases hleap : nanosPerSec ≤ t.frac
  · by_cases hstay : (t.frac : Int) + d.nanos < 2 * nanosPerSec
    · have hfwd : ¬ 2 * (nanosPerSec : Int) ≤ t.frac + d.nanos := by omega
      have hback : ¬ d.nanos ≤ -(nanosPerSec : Int) := by omega
      simp only [hleap, hstay, hfwd, hback, and_self, if_true, if_false]
    · have hfwd : 2 * (nanosPerSec : Int) ≤ t.frac + d.nanos := by omega
      simp only [hleap, hstay, hfwd, and_false, if_true, if_false]
      by_cases hon : OnClock (t.earlyNanos + d.nanos) <;> simp only [hon, if_true, if_false]
  · simp only [hleap, false_and, if_false, Instant.earlyNanos_eq_lateNanos (Nat.lt_of_not_le hleap)]
    by_cases hon : OnClock (t.lateNanos + d.nanos) <;> simp only [hon, if_true, if_false]

/-- What a move back can give: a place inside the leap second it starts in, or the instant at
the late reading less the span. -/
theorem Instant.minus_ok (hd : 0 ≤ d.nanos) (h : t.minus d = .ok r) :
    (nanosPerSec ≤ t.frac ∧ d.nanos < nanosPerSec ∧
        r = Instant.ofParts t.day t.sec (t.frac - d.nanos).toNat) ∨
      (¬ (nanosPerSec ≤ t.frac ∧ d.nanos < nanosPerSec) ∧ OnClock (t.lateNanos - d.nanos) ∧
        r = Instant.ofUnixNanos (t.lateNanos - d.nanos)) := by
  rw [Instant.minus_eq t hd] at h
  split at h
  · next hstay =>
    injection h with h
    exact .inl ⟨hstay.1, hstay.2, h.symm⟩
  · split at h
    · next hstay hon =>
      injection h with h
      exact .inr ⟨hstay, hon, h.symm⟩
    · cases h

/-- What a move forward can give: a place inside the leap second it starts in, or the instant
at the early reading plus the span. -/
theorem Instant.plus_ok (hd : 0 ≤ d.nanos) (h : t.plus d = .ok r) :
    (nanosPerSec ≤ t.frac ∧ t.frac + d.nanos < 2 * nanosPerSec ∧
        r = Instant.ofParts t.day t.sec (t.frac + d.nanos).toNat) ∨
      (¬ (nanosPerSec ≤ t.frac ∧ t.frac + d.nanos < 2 * nanosPerSec) ∧
        OnClock (t.earlyNanos + d.nanos) ∧ r = Instant.ofUnixNanos (t.earlyNanos + d.nanos)) := by
  rw [Instant.plus_eq t hd] at h
  split at h
  · next hstay =>
    injection h with h
    exact .inl ⟨hstay.1, hstay.2, h.symm⟩
  · split at h
    · next hstay hon =>
      injection h with h
      exact .inr ⟨hstay, hon, h.symm⟩
    · cases h

/-- The late reading of an instant rebuilt from its own day and second and nanoseconds within
two seconds. -/
theorem Instant.lateNanos_ofParts (t : Instant) {frac : Int} (h0 : 0 ≤ frac)
    (h1 : frac < 2 * nanosPerSec) :
    (Instant.ofParts t.day t.sec frac.toNat).lateNanos =
      (t.day * 86400 + t.sec) * nanosPerSec + frac := by
  have hs := t.sec_lt
  simp only [Instant.lateNanos, Instant.ofParts_day, Instant.ofParts_sec, Instant.ofParts_frac]
  unfold nanosPerSec at *
  omega

/-- **Moving back is exact**: the result's late reading is the start's less the span. -/
theorem Instant.lateNanos_of_minus (hd : 0 ≤ d.nanos) (h : t.minus d = .ok r) :
    r.lateNanos = t.lateNanos - d.nanos := by
  have hf := t.frac_lt
  rcases Instant.minus_ok hd h with ⟨hleap, hshort, rfl⟩ | ⟨-, -, rfl⟩
  · rw [Instant.lateNanos_ofParts t (by omega) (by omega)]
    unfold Instant.lateNanos
    omega
  · exact Instant.lateNanos_ofUnixNanos _

/-- **Moving forward is exact**: the result's early reading is the start's plus the span. -/
theorem Instant.earlyNanos_of_plus (hd : 0 ≤ d.nanos) (h : t.plus d = .ok r) :
    r.earlyNanos = t.earlyNanos + d.nanos := by
  have hs := t.sec_lt
  rcases Instant.plus_ok hd h with ⟨hleap, hstay, rfl⟩ | ⟨-, -, rfl⟩
  · simp only [Instant.earlyNanos, Instant.ofParts_day, Instant.ofParts_sec, Instant.ofParts_frac]
    unfold nanosPerSec at *
    omega
  · exact Instant.earlyNanos_ofUnixNanos _

theorem Instant.inRange_of_minus (ht : t.inRange = true) (hd : 0 ≤ d.nanos)
    (h : t.minus d = .ok r) : r.inRange = true := by
  rcases Instant.minus_ok hd h with ⟨-, -, rfl⟩ | ⟨-, hon, rfl⟩
  · exact ht
  · exact Instant.inRange_ofUnixNanos hon

theorem Instant.inRange_of_plus (ht : t.inRange = true) (hd : 0 ≤ d.nanos)
    (h : t.plus d = .ok r) : r.inRange = true := by
  rcases Instant.plus_ok hd h with ⟨-, -, rfl⟩ | ⟨-, hon, rfl⟩
  · exact ht
  · exact Instant.inRange_ofUnixNanos hon

/-- **Moving back fails exactly off the clock**: for an instant on the clock and a span that is
not negative, the move fails exactly when it leaves before the clock's first instant. -/
theorem Instant.minus_error_iff (ht : t.inRange = true) (hd : 0 ≤ d.nanos) :
    (∃ o, t.minus d = .error o) ↔ t.LeavesBefore d := by
  have hr := (Instant.inRange_iff t).1 ht
  have hf := t.frac_lt
  unfold Instant.LeavesBefore
  rw [Instant.minus_eq t hd]
  rw [clockStart_eq, clockEnd_eq] at hr
  split
  · next hstay =>
    -- the move stays inside the leap second, whose second is on the clock
    refine ⟨fun ⟨_, h⟩ => (nomatch h), fun h => ?_⟩
    unfold Instant.lateNanos at h
    rw [clockStart_eq] at h
    unfold nanosPerSec at *
    omega
  · split
    · next hon => exact ⟨fun ⟨_, h⟩ => (nomatch h), fun h => absurd hon.1 (Int.not_le.2 h)⟩
    · next hstay hon =>
      refine ⟨fun _ => ?_, fun _ => ⟨_, rfl⟩⟩
      -- a move back lands before the end of the second it starts in, so only the start is left
      unfold OnClock at hon
      unfold Instant.lateNanos at hon ⊢
      rw [clockStart_eq, clockEnd_eq] at *
      unfold nanosPerSec at *
      omega

/-- **Moving forward fails exactly off the clock**: for an instant on the clock and a span that
is not negative, the move fails exactly when it leaves past the clock's last instant. -/
theorem Instant.plus_error_iff (ht : t.inRange = true) (hd : 0 ≤ d.nanos) :
    (∃ o, t.plus d = .error o) ↔ t.LeavesAfter d := by
  have hr := (Instant.inRange_iff t).1 ht
  have hf := t.frac_lt
  unfold Instant.LeavesAfter
  rw [Instant.plus_eq t hd]
  rw [clockStart_eq, clockEnd_eq] at hr
  split
  · next hstay =>
    -- the move stays inside the leap second, whose second is on the clock
    refine ⟨fun ⟨_, h⟩ => (nomatch h), fun h => ?_⟩
    unfold Instant.earlyNanos at h
    rw [clockEnd_eq] at h
    unfold nanosPerSec at *
    omega
  · split
    · next hon => exact ⟨fun ⟨_, h⟩ => (nomatch h), fun h => absurd hon.2 (Int.not_lt.2 h)⟩
    · next hstay hon =>
      refine ⟨fun _ => ?_, fun _ => ⟨_, rfl⟩⟩
      -- a move forward lands at or after the second it starts in, so only the end is left
      unfold OnClock at hon
      unfold Instant.earlyNanos at hon ⊢
      rw [clockStart_eq, clockEnd_eq] at *
      unfold nanosPerSec at *
      omega

/-- Moving back never lands past the second that a move forward from the same instant starts
in. -/
theorem Instant.earlySecond_of_minus (hd : 0 ≤ d.nanos) (h : t.minus d = .ok r) :
    r.earlyNanos / nanosPerSec ≤ t.earlyNanos / nanosPerSec := by
  have hs := t.sec_lt
  have hf := t.frac_lt
  rcases Instant.minus_ok hd h with ⟨hleap, hshort, rfl⟩ | ⟨hstay, -, rfl⟩
  · simp only [Instant.earlyNanos, Instant.ofParts_day, Instant.ofParts_sec, Instant.ofParts_frac]
    unfold nanosPerSec at *
    omega
  · rw [Instant.earlyNanos_ofUnixNanos]
    unfold Instant.earlyNanos Instant.lateNanos
    unfold nanosPerSec at *
    omega

/-- **A longer move back lands no later.** -/
theorem Instant.minus_antitone (hd : 0 ≤ d.nanos) (hle : d.nanos ≤ d'.nanos)
    (h : t.minus d = .ok r) (h' : t.minus d' = .ok r') : r' ≤ r := by
  have hs := t.sec_lt
  have hf := t.frac_lt
  show r'.ord ≤ r.ord
  rw [Instant.ord_eq, Instant.ord_eq, Instant.lateNanos_of_minus hd h,
    Instant.lateNanos_of_minus (Int.le_trans hd hle) h']
  rcases Instant.minus_ok hd h with ⟨hleap, hshort, rfl⟩ | ⟨hstay, -, rfl⟩ <;>
    rcases Instant.minus_ok (Int.le_trans hd hle) h' with ⟨hleap', hshort', rfl⟩ | ⟨hstay', -, rfl⟩
  · -- both stay inside the leap second
    simp only [Instant.ofParts_frac]
    unfold nanosPerSec at *
    omega
  · -- only the shorter move stays inside the leap second
    have := (Instant.ofUnixNanos_parts (t.lateNanos - d'.nanos)).2.2
    simp only [Instant.ofParts_frac]
    unfold Instant.lateNanos at *
    unfold nanosPerSec at *
    omega
  · -- the longer move cannot stay where the shorter one left
    unfold nanosPerSec at *
    omega
  · have := (Instant.ofUnixNanos_parts (t.lateNanos - d.nanos)).2.2
    have := (Instant.ofUnixNanos_parts (t.lateNanos - d'.nanos)).2.2
    omega

/-- **A longer move forward lands no earlier.** -/
theorem Instant.plus_monotone (hd : 0 ≤ d.nanos) (hle : d.nanos ≤ d'.nanos)
    (h : t.plus d = .ok r) (h' : t.plus d' = .ok r') : r ≤ r' := by
  have hs := t.sec_lt
  have hf := t.frac_lt
  show r.ord ≤ r'.ord
  rw [Instant.ord_eq, Instant.ord_eq]
  rcases Instant.plus_ok hd h with ⟨hleap, hstay, rfl⟩ | ⟨hstay, -, rfl⟩ <;>
    rcases Instant.plus_ok (Int.le_trans hd hle) h' with ⟨hleap', hstay', rfl⟩ | ⟨hstay', -, rfl⟩
  · -- both stay inside the leap second
    rw [Instant.lateNanos_ofParts t (by omega) hstay, Instant.lateNanos_ofParts t (by omega) hstay']
    simp only [Instant.ofParts_frac]
    unfold nanosPerSec at *
    omega
  · -- only the shorter move stays inside the leap second
    have := (Instant.ofUnixNanos_parts (t.earlyNanos + d'.nanos)).2.2
    rw [Instant.lateNanos_ofParts t (by omega) hstay, Instant.lateNanos_ofUnixNanos]
    simp only [Instant.ofParts_frac]
    unfold Instant.earlyNanos at *
    unfold nanosPerSec at *
    omega
  · -- the longer move cannot stay where the shorter one left
    unfold nanosPerSec at *
    omega
  · have := (Instant.ofUnixNanos_parts (t.earlyNanos + d.nanos)).2.2
    have := (Instant.ofUnixNanos_parts (t.earlyNanos + d'.nanos)).2.2
    rw [Instant.lateNanos_ofUnixNanos, Instant.lateNanos_ofUnixNanos]
    omega

end Moves

/-! ## Windows -/

theorem windowSpan_maxWindow : (windowSpan maxWindow).nanos = 366 * 86400 * nanosPerSec := by
  decide

/-- A window is whole milliseconds of the duration, capped at 366 days. -/
theorem windowSpan_nanos (d : Duration) :
    (windowSpan d).nanos = (min (d.toNanos / 1000000) 31622400000 : Nat) * 1000000 := by
  have hd := d.nanos_lt
  have hsecs : maxWindow.secs = 31622400 := rfl
  have hnanos : maxWindow.nanos = 0 := rfl
  have hle : d ≤ maxWindow ↔ d.secs * 1000000000 + d.nanos ≤ 31622400000000000 := by
    show d.toNanos ≤ maxWindow.toNanos ↔ _
    unfold Duration.toNanos nanosPerSec
    rw [hsecs, hnanos]
  unfold windowSpan Span.ofMillis Duration.min Duration.millis
  dsimp only
  unfold Duration.toNanos nanosPerSec at *
  by_cases h : d ≤ maxWindow
  · rw [if_pos h]
    have := hle.1 h
    omega
  · rw [if_neg h, hsecs, hnanos]
    have := mt hle.2 h
    omega

theorem windowSpan_nonneg (d : Duration) : 0 ≤ (windowSpan d).nanos := by
  rw [windowSpan_nanos]
  omega

/-- No window is longer than 366 days. -/
theorem windowSpan_le_max (d : Duration) : (windowSpan d).nanos ≤ (windowSpan maxWindow).nanos := by
  rw [windowSpan_nanos, windowSpan_maxWindow]
  unfold nanosPerSec
  omega

/-- **A longer duration gives a window at least as long.** -/
theorem windowSpan_mono {d d' : Duration} (h : d ≤ d') : (windowSpan d).nanos ≤ (windowSpan d').nanos := by
  have h' : d.toNanos ≤ d'.toNanos := h
  rw [windowSpan_nanos, windowSpan_nanos]
  omega

/-! ## Instants well inside the clock -/

section WellInside

variable {t opens : Instant}

/-- An instant 366 days inside the clock is on it. -/
theorem Instant.WellInside.inRange (h : t.WellInside) : t.inRange = true := by
  obtain ⟨hb, ha⟩ := h
  have hs := t.sec_lt
  have hf := t.frac_lt
  unfold Instant.LeavesBefore Instant.LeavesAfter Instant.lateNanos Instant.earlyNanos at *
  rw [Instant.inRange_iff, windowSpan_maxWindow, clockStart_eq, clockEnd_eq] at *
  unfold nanosPerSec at *
  omega

/-- No window moves an instant 366 days inside the clock back off it. -/
theorem Instant.WellInside.not_leavesBefore (h : t.WellInside) (w : Duration) :
    ¬ t.LeavesBefore (windowSpan w) := by
  have hw := windowSpan_le_max w
  have hb := h.1
  unfold Instant.LeavesBefore at *
  omega

/-- No window moves an instant 366 days inside the clock forward off it. -/
theorem Instant.WellInside.not_leavesAfter (h : t.WellInside) (w : Duration) :
    ¬ t.LeavesAfter (windowSpan w) := by
  have hw := windowSpan_le_max w
  have ha := h.2
  unfold Instant.LeavesAfter at *
  omega

/-- A window opened by a move back from an instant 366 days inside the clock closes on the
clock, whatever the windows: the opening lies no later than the second the instant's forward
reading is in, and the clock ends on a whole second. -/
theorem Instant.WellInside.minus_not_leavesAfter (h : t.WellInside) (lead w : Duration)
    (ho : t.minus (windowSpan lead) = .ok opens) : ¬ opens.LeavesAfter (windowSpan w) := by
  have hsec := Instant.earlySecond_of_minus (windowSpan_nonneg lead) ho
  have hw := windowSpan_le_max w
  have ha := h.2
  unfold Instant.LeavesAfter at *
  rw [windowSpan_maxWindow, clockEnd_eq] at *
  unfold nanosPerSec at *
  omega

end WellInside

end StreamDispatch.Time
