import StreamDispatch.Json.Decode

/-!
# Courses

A course is what a stream belongs to: its slug, year and teaching term, and whether its
streams are published live and as recordings. Records are read with their id, slug, year and
term required and both flags off when absent.
-/

namespace StreamDispatch

open Json

/-- A course. -/
structure Course where
  id : Nat
  slug : String
  year : Nat
  /-- teaching term, such as `W` or `S` -/
  term : String
  liveEnabled : Bool := false
  vodEnabled : Bool := false
  deriving Repr, DecidableEq, BEq

namespace Course

/-- How a course is read: `id`, `slug`, `year` and `term` are required. -/
def spec : RecordSpec Course where
  name := "Course"
  fields := [
    .of "id" .required readU32 fun c v => { c with id := v },
    .of "slug" .required readString fun c v => { c with slug := v },
    .of "year" .required readU32 fun c v => { c with year := v },
    .of "term" .required readString fun c v => { c with term := v },
    .of "live_enabled" .defaulted readBool fun c v => { c with liveEnabled := v },
    .of "vod_enabled" .defaulted readBool fun c v => { c with vodEnabled := v }]
  init := ⟨0, "", 0, "", false, false⟩

/-- The record of a course. -/
def toJson (c : Course) : Json :=
  .record [("id", .nat c.id), ("slug", .str c.slug), ("year", .nat c.year),
    ("term", .str c.term), ("live_enabled", .bool c.liveEnabled),
    ("vod_enabled", .bool c.vodEnabled)]

end Course

end StreamDispatch
