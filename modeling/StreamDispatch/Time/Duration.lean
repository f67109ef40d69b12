import StreamDispatch.Time.Instant

/-!
# Durations and windows

A `Duration` is an unsigned length of time: whole seconds below `2^64` and nanoseconds below
`10^9`. Durations configure the dispatcher's windows; a window is used as a `Span` of whole
milliseconds, capped at 366 days (`windowSpan`), so that no configured window can move an
instant far enough to leave the clock.
-/

namespace StreamDispatch.Time

/-- An unsigned length of time: seconds and nanoseconds below a second. -/
structure Duration where
  secs : Nat
  nanos : Nat
  nanos_lt : nanos < nanosPerSec := by decide
  deriving DecidableEq

/-- A duration of whole seconds. -/
def Duration.ofSecs (s : Nat) : Duration := ⟨s, 0, by decide⟩

/-- The longest duration: `2^64 - 1` seconds and `10^9 - 1` nanoseconds. -/
def Duration.max : Duration := ⟨Nat.pow 2 64 - 1, 999999999, by decide⟩

/-- Whether a duration is zero. -/
def Duration.isZero (d : Duration) : Bool := d.secs == 0 && d.nanos == 0

/-- The duration's position on a line that keeps its order: its nanoseconds. -/
def Duration.toNanos (d : Duration) : Nat := d.secs * nanosPerSec + d.nanos

instance : LT Duration := ⟨fun a b => a.toNanos < b.toNanos⟩
instance : LE Duration := ⟨fun a b => a.toNanos ≤ b.toNanos⟩
instance (a b : Duration) : Decidable (a < b) := inferInstanceAs (Decidable (a.toNanos < b.toNanos))
instance (a b : Duration) : Decidable (a ≤ b) := inferInstanceAs (Decidable (a.toNanos ≤ b.toNanos))

/-- The shorter of two durations. -/
def Duration.min (a b : Duration) : Duration := if a ≤ b then a else b

/-- Whole milliseconds, rounded down. -/
def Duration.millis (d : Duration) : Nat := d.secs * 1000 + d.nanos / 1000000

/-- The longest window or tolerance the dispatcher accepts: 366 days. -/
def maxWindow : Duration := Duration.ofSecs (366 * 24 * 60 * 60)

/-- A configured window as a span: the duration capped at `maxWindow`, in whole
milliseconds. -/
def windowSpan (d : Duration) : Span := Span.ofMillis (d.min maxWindow).millis

example : (windowSpan Duration.max).nanos = 366 * 86400 * 1000000000 := by decide

end StreamDispatch.Time
