/-!
# Feeds

A lecture hall has up to three feeds: the combined picture, the presentation and the camera.
Their labels are `COMB`, `PRES` and `CAM`. Reading a label is total: every text that is not
exactly `PRES` or `CAM` names the combined feed, which is the fallback.
-/

namespace StreamDispatch

/-- One physical feed of a lecture hall. -/
inductive Feed where
  | combined
  | presentation
  | camera
  deriving Repr, DecidableEq, BEq, Inhabited

namespace Feed

/-- The feeds in slot order: combined, presentation, camera. -/
def all : List Feed := [.combined, .presentation, .camera]

/-- The label of a feed. -/
def label : Feed → String
  | .combined => "COMB"
  | .presentation => "PRES"
  | .camera => "CAM"

/-- The feed a label names; anything but `PRES` and `CAM` is the combined feed. -/
def ofLabel (s : String) : Feed :=
  if s = "PRES" then .presentation else if s = "CAM" then .camera else .combined

/-- The feed whose label is exactly the text, if any. -/
def ofExactLabel? (s : String) : Option Feed :=
  all.find? (·.label = s)

@[simp] theorem ofLabel_label (f : Feed) : ofLabel f.label = f := by
  cases f <;> decide

end Feed

/-- One optional value for each feed, each slot on its own. -/
structure PerFeed (α : Type) where
  combined : Option α := none
  presentation : Option α := none
  camera : Option α := none
  deriving Repr, DecidableEq, BEq

namespace PerFeed

variable {α : Type}

/-- The value in a feed's slot. -/
def get (p : PerFeed α) : Feed → Option α
  | .combined => p.combined
  | .presentation => p.presentation
  | .camera => p.camera

/-- Replaces the value in a feed's slot. -/
def put (p : PerFeed α) (f : Feed) (v : Option α) : PerFeed α :=
  match f with
  | .combined => { p with combined := v }
  | .presentation => { p with presentation := v }
  | .camera => { p with camera := v }

/-- Stores a value in a feed's slot. -/
def set (p : PerFeed α) (f : Feed) (v : α) : PerFeed α := p.put f (some v)

/-- Empties a feed's slot. -/
def erase (p : PerFeed α) (f : Feed) : PerFeed α := p.put f none

@[simp] theorem get_put (p : PerFeed α) (f g : Feed) (v : Option α) :
    (p.put f v).get g = if f = g then v else p.get g := by
  cases f <;> cases g <;> rfl

/-- The filled slots, with their feeds in label order: camera, combined, presentation. -/
def byLabel (p : PerFeed α) : List (Feed × α) :=
  [Feed.camera, .combined, .presentation].filterMap fun f => (p.get f).map (f, ·)

end PerFeed

end StreamDispatch
