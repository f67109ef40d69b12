import StreamDispatch.Json.Decode
import StreamDispatch.Catalog.Feed

/-!
# Lecture halls

A lecture hall has a source address for each of its feeds, the address of the power strip
that drives its recording light, and the strip socket the light is plugged into. An empty
address means that the hall has no such feed or strip.
-/

namespace StreamDispatch

open Json

/-- A lecture hall. -/
structure Hall where
  id : Nat
  name : String
  combinedIp : String := ""
  presentationIp : String := ""
  cameraIp : String := ""
  /-- address of the power strip switching the recording light -/
  powerCtrlIp : String := ""
  liveLightIndex : Nat := 0
  deriving Repr, DecidableEq, BEq

namespace Hall

/-- The configured source address of a feed, `none` when it is empty. -/
def source (h : Hall) (f : Feed) : Option String :=
  let addr := match f with
    | .combined => h.combinedIp
    | .presentation => h.presentationIp
    | .camera => h.cameraIp
  if addr.isEmpty then none else some addr

/-- How a hall is read: `id` and `name` are required. -/
def spec : RecordSpec Hall where
  name := "LectureHall"
  fields := [
    .of "id" .required readU32 fun h v => { h with id := v },
    .of "name" .required readString fun h v => { h with name := v },
    .of "combined_ip" .defaulted readString fun h v => { h with combinedIp := v },
    .of "presentation_ip" .defaulted readString fun h v => { h with presentationIp := v },
    .of "camera_ip" .defaulted readString fun h v => { h with cameraIp := v },
    .of "power_ctrl_ip" .defaulted readString fun h v => { h with powerCtrlIp := v },
    .of "live_light_index" .defaulted readU32 fun h v => { h with liveLightIndex := v }]
  init := ⟨0, "", "", "", "", "", 0⟩

/-- The record of a hall. -/
def toJson (h : Hall) : Json :=
  .record [("id", .nat h.id), ("name", .str h.name), ("combined_ip", .str h.combinedIp),
    ("presentation_ip", .str h.presentationIp), ("camera_ip", .str h.cameraIp),
    ("power_ctrl_ip", .str h.powerCtrlIp), ("live_light_index", .nat h.liveLightIndex)]

end Hall

end StreamDispatch
