import StreamDispatch.Time.Civil

/-!
# Instants and spans

An `Instant` is a moment in UTC: a day (counted from 1970-01-01), the second of that day, and
the nanoseconds into that second. The nanoseconds may reach up to `2·10^9 - 1`: past `10^9` the
moment lies in a leap second, written `:60`. The clock covers the days from -262143-01-01 to
+262142-12-31; moving past either end fails.

A `Span` is a signed length of time in nanoseconds. Adding a span to an instant inside a leap
second first leaves the leap second (towards the second before it, when moving forward, or the
second after it, when moving back) unless the move stays inside it; the difference of two
instants counts a leap second only between seconds that straddle it.

Instants are ordered by day, then second, then nanoseconds, which is the order of
`Instant.ord`.
-/

namespace StreamDispatch.Time

/-- Nanoseconds in a second. -/
def nanosPerSec : Nat := 1000000000

/-- The first day the clock covers: -262143-01-01. -/
def minDay : Int := (Date.mk (-262143) 1 1).toDays

/-- The last day the clock covers: +262142-12-31. -/
def maxDay : Int := (Date.mk 262142 12 31).toDays

/-- A moment in UTC; `frac` at or past `10^9` is inside a leap second. -/
structure Instant where
  day : Int
  sec : Nat
  frac : Nat
  sec_lt : sec < 86400
  frac_lt : frac < 2 * nanosPerSec
  deriving DecidableEq

/-- An instant from a day, a second and nanoseconds, each reduced into its range. -/
def Instant.ofParts (day : Int) (sec frac : Nat) : Instant :=
  ⟨day, sec % 86400, frac % (2 * nanosPerSec), Nat.mod_lt _ (by decide),
    Nat.mod_lt _ (by decide)⟩

/-- The position of an instant on a line that keeps its order: two billion steps a second. -/
def Instant.ord (t : Instant) : Int :=
  ((t.day * 86400 + t.sec) * 2 * nanosPerSec : Int) + t.frac

instance : LT Instant := ⟨fun a b => a.ord < b.ord⟩
instance : LE Instant := ⟨fun a b => a.ord ≤ b.ord⟩
instance (a b : Instant) : Decidable (a < b) := inferInstanceAs (Decidable (a.ord < b.ord))
instance (a b : Instant) : Decidable (a ≤ b) := inferInstanceAs (Decidable (a.ord ≤ b.ord))

/-- The calendar date of an instant. -/
def Instant.date (t : Instant) : Date := Date.ofDays t.day

/-- Whether an instant lies on a day the clock covers. -/
def Instant.inRange (t : Instant) : Bool := minDay ≤ t.day && t.day ≤ maxDay

/-- Milliseconds since 1970-01-01T00:00:00Z, rounded down; a leap second counts as the second
before it stretched to two. -/
def Instant.unixMillis (t : Instant) : Int :=
  (t.day * 86400 + t.sec) * 1000 + (t.frac / 1000000 : Nat)

/-- The instant a number of nanoseconds after 1970-01-01T00:00:00Z. -/
def Instant.ofUnixNanos (n : Int) : Instant :=
  let secs := n / nanosPerSec
  let frac := n % nanosPerSec
  Instant.ofParts (secs / 86400) (secs % 86400).toNat frac.toNat

/-! ## Spans -/

/-- A signed length of time in nanoseconds. -/
structure Span where
  nanos : Int
  deriving Repr, BEq, DecidableEq

instance : LT Span := ⟨fun a b => a.nanos < b.nanos⟩
instance : LE Span := ⟨fun a b => a.nanos ≤ b.nanos⟩
instance (a b : Span) : Decidable (a < b) := inferInstanceAs (Decidable (a.nanos < b.nanos))
instance (a b : Span) : Decidable (a ≤ b) := inferInstanceAs (Decidable (a.nanos ≤ b.nanos))

/-- A span of whole milliseconds. -/
def Span.ofMillis (ms : Int) : Span := ⟨ms * 1000000⟩

/-- The opposite span. -/
def Span.neg (d : Span) : Span := ⟨-d.nanos⟩

/-! ## Moving an instant -/

/-- The instant after adding whole seconds and nanoseconds (each already normalised to a second
of the day and nanoseconds below `10^9`), or `none` past the clock's range. -/
def Instant.settle (day : Int) (secs frac : Int) : Option Instant :=
  let (secs, frac) :=
    if frac < 0 then (secs - 1, frac + nanosPerSec)
    else if frac ≥ nanosPerSec then (secs + 1, frac - nanosPerSec)
    else (secs, frac)
  let day := day + secs / 86400
  if minDay ≤ day && day ≤ maxDay then
    some (Instant.ofParts day (secs % 86400).toNat frac.toNat)
  else none

/-- The instant a span later (earlier, for a negative span), or `none` when that leaves the
clock's range. -/
def Instant.shift? (t : Instant) (d : Span) : Option Instant :=
  let secsToAdd : Int := d.nanos.tdiv nanosPerSec
  let fracToAdd : Int := d.nanos.tmod nanosPerSec
  let frac : Int := t.frac
  if frac ≥ nanosPerSec then
    if secsToAdd > 0 || (fracToAdd > 0 && frac ≥ 2 * nanosPerSec - fracToAdd) then
      Instant.settle t.day (t.sec + secsToAdd) (frac - nanosPerSec + fracToAdd)
    else if secsToAdd < 0 then
      Instant.settle t.day (t.sec + 1 + secsToAdd) (frac - nanosPerSec + fracToAdd)
    else
      -- the move stays inside the leap second
      some (Instant.ofParts t.day t.sec (frac + fracToAdd).toNat)
  else Instant.settle t.day (t.sec + secsToAdd) (frac + fracToAdd)

/-- Which way a move left the clock's range: back, by subtracting a span, or forward, by
adding one. -/
inductive Overflow where
  | backward
  | forward
  deriving Repr, DecidableEq

/-- The message of a move that left the clock's range. -/
def Overflow.message : Overflow → String
  | .backward => "`DateTime - TimeDelta` overflowed"
  | .forward => "`DateTime + TimeDelta` overflowed"

/-- The instant a span later. -/
def Instant.plus (t : Instant) (d : Span) : Except Overflow Instant :=
  match t.shift? d with
  | some u => .ok u
  | none => .error .forward

/-- The instant a span earlier. -/
def Instant.minus (t : Instant) (d : Span) : Except Overflow Instant :=
  match t.shift? d.neg with
  | some u => .ok u
  | none => .error .backward

/-- The span from `b` to `a`. -/
def Instant.since (a b : Instant) : Span :=
  let secs : Int := (a.day - b.day) * 86400 + ((a.sec : Int) - b.sec)
  let secs :=
    if a.sec > b.sec && b.frac ≥ nanosPerSec then secs + 1
    else if a.sec < b.sec && a.frac ≥ nanosPerSec then secs - 1
    else secs
  ⟨secs * nanosPerSec + ((a.frac : Int) - b.frac)⟩

end StreamDispatch.Time
