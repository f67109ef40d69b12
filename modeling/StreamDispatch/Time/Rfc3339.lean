import StreamDispatch.Time.Instant
import StreamDispatch.Text.Blank

/-!
# RFC 3339 date-and-time texts

Reading is relaxed: blanks may precede each number and follow the seconds, the date and time
may be divided by `T`, `t` or a space, the year may have a sign and then any number of digits,
fractions past nine digits are cut, the zone is `UTC` in any case, `Z`, `z`, or a signed offset
`±hh:mm` whose colon may be any run of colons and blanks, and the minus of an offset may be
U+2212. A leap second `:60` is kept as nanoseconds past `10^9`. Fields are checked as they are
read, so the first faulty one names the error; the date itself, the offset's size and the
moment in UTC are checked last.

Writing gives `yyyy-mm-ddThh:mm:ss`, then a fraction of 3, 6 or 9 digits (the fewest that are
exact, none for a whole second), then the zone mark. Years outside 0–9999 carry a sign and at
least four digits.
-/

namespace StreamDispatch.Time

open StreamDispatch.Text

/-- Why a date-and-time text was refused. -/
inductive ParseError where
  /-- a field, the date, the offset or the moment lies outside its range -/
  | outOfRange
  /-- the moment in UTC lies outside the clock's range -/
  | impossible
  /-- a character that the format does not allow there -/
  | invalid
  /-- the text ends before the format does -/
  | tooShort
  /-- something other than blanks follows the zone -/
  | tooLong
  deriving Repr, DecidableEq

/-- The message of a refusal. -/
def ParseError.message : ParseError → String
  | .outOfRange => "input is out of range"
  | .impossible => "no possible date and time matching input"
  | .invalid => "input contains invalid characters"
  | .tooShort => "premature end of input"
  | .tooLong => "trailing input"

/-- A reading step: a value and the rest of the text. -/
abbrev Step (α : Type) := List Char → Except ParseError (α × List Char)

/-- The value of a run of decimal digits. -/
def digitValue (ds : List Char) : Nat := ds.foldl (fun n d => 10 * n + (d.toNat - 48)) 0

/-- At least one and at most `width` digits, with how many were read. -/
def digitRun (width : Nat) : Step (Nat × Nat) := fun cs =>
  match cs with
  | [] => .error .tooShort
  | c :: _ =>
    if !c.isDigit then .error .invalid
    else
      let ds := (cs.take width).takeWhile Char.isDigit
      .ok ((digitValue ds, ds.length), cs.drop ds.length)

/-- A field of at most `width` digits after optional blanks, which must lie in `lo..hi`. -/
def fieldIn (width lo hi : Nat) : Step Nat := fun cs => do
  let ((v, _), r) ← digitRun width (dropBlank cs)
  if lo ≤ v && v ≤ hi then .ok (v, r) else .error .outOfRange

/-- The year after optional blanks: four digits at most, or a sign and any number; it must fit
in 32 signed bits. -/
def yearField : Step Int := fun cs =>
  match dropBlank cs with
  | '-' :: r => do
    let ((v, _), r) ← digitRun r.length r
    if v ≤ Nat.pow 2 31 then .ok (-(v : Int), r) else .error .outOfRange
  | '+' :: r => do
    let ((v, _), r) ← digitRun r.length r
    if v < Nat.pow 2 31 then .ok ((v : Int), r) else .error .outOfRange
  | r => do
    let ((v, _), r) ← digitRun 4 r
    .ok ((v : Int), r)

/-- One given character. -/
def literal (ch : Char) : Step Unit := fun cs =>
  match cs with
  | [] => .error .tooShort
  | c :: r => if c = ch then .ok ((), r) else .error .invalid

/-- The optional fraction of a second: after a point, one to nine digits scaled to
nanoseconds, and any further digits skipped. -/
def fraction : Step Nat := fun cs =>
  match cs with
  | '.' :: r => do
    let ((v, n), r) ← digitRun 9 r
    .ok (v * Nat.pow 10 (9 - n), r.dropWhile Char.isDigit)
  | _ => .ok (0, cs)

/-- The date and time as written, before the offset is taken off. -/
structure Reading where
  year : Int
  month : Nat
  day : Nat
  hour : Nat
  minute : Nat
  second : Nat
  nanos : Nat
  /-- seconds east of UTC -/
  offset : Int
  deriving Repr, DecidableEq

/-- Two characters that make up at least two bytes, or `none` for a shorter text. -/
def twoBytes? : List Char → Option (Char × Char)
  | a :: b :: _ => some (a, b)
  | [a] => if a.toNat < 128 then none else some (a, ' ')
  | [] => none

/-- The minutes of an offset: two digits below 60. -/
def offsetMinutes : Step Nat := fun cs =>
  match twoBytes? cs with
  | none => .error .tooShort
  | some (a, b) =>
    if a.isDigit && b.isDigit then
      if a.toNat ≤ 53 then .ok (digitValue [a, b], cs.drop 2) else .error .outOfRange
    else .error .invalid

/-- A zone offset in seconds: `Z`, `z`, or a sign (`+`, `-`, U+2212), two hour digits, any run of
colons and blanks, and two minute digits. -/
def zoneOffset : Step Int := fun cs =>
  match cs with
  | [] => .error .tooShort
  | c :: r =>
    if c = 'Z' || c = 'z' then .ok (0, r)
    else
      let sign? : Option Int :=
        if c = '+' then some 1 else if c = '-' || c = '−' then some (-1) else none
      match sign? with
      | none => .error .invalid
      | some sign =>
        match twoBytes? r with
        | none => .error .tooShort
        | some (h1, h2) =>
          if h1.isDigit && h2.isDigit then
            let rest := (r.drop 2).dropWhile (fun ch => ch = ':' || isBlank ch)
            match offsetMinutes rest with
            | .error e => .error e
            | .ok (m, rest) => .ok (sign * ((digitValue [h1, h2] * 3600 + m * 60 : Nat) : Int), rest)
          else .error .invalid

/-- The zone: `UTC` in any case, or an offset. -/
def zone : Step Int := fun cs =>
  match cs with
  | a :: b :: c :: r =>
    if a.toUpper = 'U' && b.toUpper = 'T' && c.toUpper = 'C' then .ok (0, r) else zoneOffset cs
  | _ => zoneOffset cs

/-- The divider between date and time: `T`, `t` or a space. -/
def divider : Step Unit := fun cs =>
  match cs with
  | [] => .error .tooShort
  | c :: r => if c = 'T' || c = 't' || c = ' ' then .ok ((), r) else .error .invalid

/-- Reads a date-and-time text up to the end of its zone. -/
def Reading.scan : Step Reading := fun cs => do
  let (year, cs) ← yearField cs
  let ((), cs) ← literal '-' (dropBlank cs)
  let (month, cs) ← fieldIn 2 1 12 cs
  let ((), cs) ← literal '-' (dropBlank cs)
  let (day, cs) ← fieldIn 2 1 31 cs
  let ((), cs) ← divider cs
  let (hour, cs) ← fieldIn 2 0 23 cs
  let ((), cs) ← literal ':' (dropBlank cs)
  let (minute, cs) ← fieldIn 2 0 59 cs
  let ((), cs) ← literal ':' (dropBlank cs)
  let (second, cs) ← fieldIn 2 0 60 cs
  let (nanos, cs) ← fraction cs
  let (offset, cs) ← zone (dropBlank cs)
  .ok (⟨year, month, day, hour, minute, second, nanos, offset⟩, cs)

/-- Whether a date lies in the years the clock covers and names a real day. -/
def Date.inClock (d : Date) : Bool := d.valid && -262143 ≤ d.year && d.year ≤ 262142

/-- The moment in UTC that a reading names. -/
def Reading.toInstant (r : Reading) : Except ParseError Instant :=
  let date : Date := ⟨r.year, r.month, r.day⟩
  if !date.inClock then .error .outOfRange
  else if r.offset ≤ -86400 || 86400 ≤ r.offset then .error .outOfRange
  else
    -- a leap second is the 59th second stretched past 10^9 nanoseconds
    let (second, nanos) := if r.second = 60 then (59, r.nanos + nanosPerSec) else (r.second, r.nanos)
    let secs : Int := (r.hour * 3600 + r.minute * 60 + second : Nat) - r.offset
    let day := date.toDays + secs / 86400
    if minDay ≤ day && day ≤ maxDay then .ok (Instant.ofParts day (secs % 86400).toNat nanos)
    else .error .impossible

/-- Reads a whole date-and-time text: the reading, then nothing but blanks. -/
def Instant.parse (s : String) : Except ParseError Instant := do
  let (r, rest) ← Reading.scan s.toList
  if (dropBlank rest).isEmpty then r.toInstant else .error .tooLong

/-! ## Writing -/

/-- A number in at least `width` digits, zeros in front. -/
def padded (width n : Nat) : String :=
  let ds := toString n
  String.ofList (List.replicate (width - ds.length) '0') ++ ds

/-- The year: four digits in 0–9999, else a sign and at least four digits. -/
def yearText (y : Int) : String :=
  if 0 ≤ y && y ≤ 9999 then padded 4 y.toNat
  else (if y < 0 then "-" else "+") ++ padded 4 y.natAbs

/-- The fraction of a second: none when whole, else the fewest of 3, 6 or 9 digits that are
exact. -/
def fractionText (nanos : Nat) : String :=
  if nanos = 0 then ""
  else if nanos % 1000000 = 0 then "." ++ padded 3 (nanos / 1000000)
  else if nanos % 1000 = 0 then "." ++ padded 6 (nanos / 1000)
  else "." ++ padded 9 nanos

/-- The text of an instant in UTC, ending with the zone mark `zoneMark`; a leap second is
written as second 60. -/
def Instant.format (zoneMark : String) (t : Instant) : String :=
  let d := t.date
  let leap := t.frac ≥ nanosPerSec
  let nanos := if leap then t.frac - nanosPerSec else t.frac
  yearText d.year ++ "-" ++ padded 2 d.month ++ "-" ++ padded 2 d.day ++ "T" ++
    padded 2 (t.sec / 3600) ++ ":" ++ padded 2 (t.sec / 60 % 60) ++ ":" ++
    padded 2 (t.sec % 60 + if leap then 1 else 0) ++ fractionText nanos ++ zoneMark

/-- The text of an instant with the zone written `Z`. -/
def Instant.toText (t : Instant) : String := t.format "Z"

/-- The text of an instant with the zone written `+00:00`. -/
def Instant.toOffsetText (t : Instant) : String := t.format "+00:00"

end StreamDispatch.Time
