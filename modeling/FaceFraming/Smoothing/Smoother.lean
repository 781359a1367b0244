import FaceFraming.Smoothing.Window
import FaceFraming.Config.Tracking

/-!
# Temporal smoothing

The smoother decides, frame by frame, whether the crop may be updated now. It only considers an
update every `leap` frames. An update is accepted at such a frame when the face count equals the
count last accepted, or when the new count has held for at least `decisionThreshold` frames in a
row; accepting resets the run. The leap is the low-rate one while the measured rate is at or below
the low-rate threshold, else the base one; with no measured rate it stays. The smoother also keeps
the window of crops whose average is aimed at.
-/

namespace FaceFraming

/-- The update decisions and crop window of one stream. -/
structure Smoother where
  /-- Crops averaged. -/
  window : CropWindow
  /-- Frames between decisions at normal rates. -/
  baseLeap : Nat
  /-- Frames between decisions at low rates. -/
  lowLeap : Nat
  /-- At or below this rate the low-rate leap is used. -/
  lowThreshold : Float
  /-- Frames between decisions now. -/
  leap : Nat
  /-- Frames a new face count must hold. -/
  decisionThreshold : Nat
  /-- Frames since the last decision. -/
  sinceDecision : Nat := 0
  /-- The face count last accepted. -/
  selectedCount : Nat := 0
  /-- The face count of the previous frame. -/
  previousCount : Nat := 0
  /-- Frames the current face count has held, saturating at the 32-bit limit. -/
  stableFrames : Nat := 0

namespace Smoother

/-- The smoother a configuration sets up; leaps of zero are raised to one. -/
def create (c : TrackingConfig) : Smoother where
  window := CropWindow.create c.smoothingCapacity
  baseLeap := max c.leap 1
  lowLeap := max c.lowFpsLeap 1
  lowThreshold := c.lowFpsThreshold
  leap := max c.leap 1
  decisionThreshold := c.decisionThreshold

/-- Picks the leap for a measured rate; without one the leap stays. -/
def adaptLeap (s : Smoother) : Option Float → Smoother
  | some fps => { s with leap := if fps ≤ s.lowThreshold then s.lowLeap else s.baseLeap }
  | none => s

/-- Decides whether a frame with the given face count may update the crop. -/
def needsUpdate (s : Smoother) (count : Nat) : Bool × Smoother :=
  let s :=
    if count = s.previousCount then { s with stableFrames := min (s.stableFrames + 1) Word.u32Max }
    else { s with stableFrames := 0, previousCount := count }
  let s := { s with sinceDecision := s.sinceDecision + 1 }
  if s.sinceDecision < s.leap then (false, s)
  else
    let s := { s with sinceDecision := 0 }
    if count = s.selectedCount then (true, { s with stableFrames := 0 })
    else if s.stableFrames ≥ s.decisionThreshold then
      (true, { s with selectedCount := count, stableFrames := 0 })
    else (false, s)

/-- Adds a crop to the window. -/
def push (s : Smoother) (c : Crop) : Smoother :=
  { s with window := s.window.push c }

/-- The average of the window. -/
def average (s : Smoother) : Crop :=
  s.window.average

/-- Empties the window. -/
def clearWindow (s : Smoother) : Smoother :=
  { s with window := s.window.clear }

end Smoother

end FaceFraming
