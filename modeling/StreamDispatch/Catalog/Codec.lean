import StreamDispatch.Json.Decode
import StreamDispatch.Time.Rfc3339
import StreamDispatch.Catalog.Feed

/-!
# Shared field codecs

Readers for the field types that several records share: instants, written as RFC 3339 texts,
and feeds, written as their exact labels.
-/

namespace StreamDispatch

open Json Time

/-- An instant written as an RFC 3339 text; a text that does not read is refused with the
reading's message. -/
def readInstant : Reader Instant :=
  readStringWith "an RFC 3339 formatted date and time string" fun s =>
    match Instant.parse s with
    | .ok t => .ok t
    | .error e => .error e.message

/-- A feed written as its exact label. -/
def feedOfLabel (s : String) : Except String Feed :=
  match Feed.ofExactLabel? s with
  | some f => .ok f
  | none => .error (unknownVariant s (Feed.all.map Feed.label))

end StreamDispatch
