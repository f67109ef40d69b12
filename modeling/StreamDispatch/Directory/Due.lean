import StreamDispatch.Directory.Basic

/-!
# Due streams and alive workers

A lecture stream is due from its start less the stream lead until the stream window has passed
after that, if it is no premiere, is not live and has a hall. A premiere is due from its start
less the premiere lead until its start, if it is not live. Windows are used as spans
(`windowSpan`). The bounds are computed for every stored stream, due or not, in number order,
so a stream whose bound leaves the clock stops the query. Due streams come in order of start,
then number.

A worker is alive while less than the alive threshold has passed since it was last seen.
-/

namespace StreamDispatch

open Time

namespace DueWindows

/-- Whether a lecture stream is due at `now`. -/
def streamDue (w : DueWindows) (s : Stream) (now : Instant) : Except Overflow Bool := do
  let opens ← s.start.minus (windowSpan w.streamLead)
  let closes ← opens.plus (windowSpan w.streamWindow)
  pure (!s.premiere && !s.live && s.hallId.isSome && decide (opens ≤ now) && decide (now < closes))

/-- Whether a premiere is due at `now`. -/
def premiereDue (w : DueWindows) (s : Stream) (now : Instant) : Except Overflow Bool := do
  let opens ← s.start.minus (windowSpan w.premiereLead)
  pure (s.premiere && !s.live && decide (opens ≤ now) && decide (now < s.start))

end DueWindows

namespace Directory

/-- Earlier start first, then the lower number. -/
def startsFirst (a b : Stream) : Bool :=
  decide (a.start < b.start) || (decide (a.start = b.start) && decide (a.id ≤ b.id))

/-- The streams for which `due` holds, by start and number. -/
def collectDue (d : Directory) (due : Stream → Except Overflow Bool) :
    Except Overflow (List Stream) :=
  (d.streams.filterM due).map fun kept => kept.mergeSort startsFirst

/-- The lecture streams due at `now`. -/
def dueStreams (d : Directory) (now : Instant) : Except Overflow (List Stream) :=
  d.collectDue fun s => d.windows.streamDue s now

/-- The premieres due at `now`. -/
def duePremieres (d : Directory) (now : Instant) : Except Overflow (List Stream) :=
  d.collectDue fun s => d.windows.premiereDue s now

/-- The workers alive at `now`, by id. -/
def aliveWorkers (d : Directory) (now : Instant) : List Worker :=
  d.workers.filter fun w => decide (now.since w.lastSeen < windowSpan d.windows.aliveThreshold)

end Directory

end StreamDispatch
