import FaceFraming.Framing.Planner
import FaceFraming.Framing.Remap
import FaceFraming.Frame.Overlay
import FaceFraming.Smoothing.Smoother
import FaceFraming.Detection
import FaceFraming.Config.Switches
import FaceFraming.Telemetry.Tally

/-!
# Tracking faces on a stream

The tracker takes, frame by frame, the detection document and size of the frame, and keeps the
crop that frames the faces. For a frame with both dimensions it

1. makes a planner for the frame size, or resets the one it has when the size changed (which
   forgets the target and marks the crop as changed);
2. records the frame's time, and lets the measured rate choose the smoothing leap;
3. reads the faces of the document;
4. asks the smoother whether the target may be revised now; if so it restarts the window when
   faces appear or vanish, adds the crop around the tracked face (the whole frame when there is
   none) and aims at the window's average, or at nothing when no face is seen;
5. lets the planner plan the next crop, marking the crop as changed when it was recomputed.

The tracked face is the only face, else the largest (the first of equal ones) when the
`widestFace` switch is on, else the box around all faces. A frame without dimensions is ignored.
`take` hands out the crop once after each change and remembers it as applied; faces are drawn
where they appear in the applied crop.

A frame's time is a whole number of milliseconds from an arbitrary start. The program takes an
instant of a monotonic clock with nanosecond resolution, read from the clock itself when no time
is given; here every frame comes with its time, and times between two milliseconds are not
modelled (see `RateEstimator`).
-/

namespace FaceFraming

/-- The tracking state of one stream. -/
structure Tracker where
  /-- The settings, checked. -/
  config : TrackingConfig
  /-- The debug switches. -/
  switches : Switches
  /-- Decides when the target may change and averages the crops. -/
  smoother : Smoother
  /-- The planner, once a frame with dimensions was seen. -/
  planner : Option Planner := none
  /-- The faces of the last frame. -/
  faces : List FaceBox := []
  /-- What the planner aims at. -/
  target : Option Target := none
  /-- Whether the crop changed since it was last taken. -/
  dirty : Bool := false
  /-- The crop last taken. -/
  applied : Crop := Crop.identity
  /-- What tracking counted. -/
  tally : Tally := {}

namespace Tracker

/-- A tracker with the given settings, refused when they do not validate. -/
def create (c : TrackingConfig) (switches : Switches) : Except EngineError Tracker := do
  c.validate
  return { config := c, switches, smoother := Smoother.create c }

/-- The planner for a frame size, made or reset as needed, with the tracker it belongs to; none
for a frame without dimensions. -/
def plannerFor (t : Tracker) (width height : Nat) : Option (Planner × Tracker) :=
  if width = 0 ∨ height = 0 then none
  else match t.planner with
    | some p =>
      if p.width = width ∧ p.height = height then some (p, t)
      else match p.resize width height with
        | .ok p => some (p, { t with target := none, dirty := true })
        | .error _ => none
    | none => match Planner.create t.config width height with
      | .ok p => some (p, t)
      | .error _ => none

/-- The face to track: the only one, the largest when asked, else the box around all. -/
def select (t : Tracker) : Option FaceBox :=
  match t.faces with
  | [] => none
  | [f] => some f
  | f :: rest =>
    if t.switches.widestFace then
      some (rest.foldl (fun widest g => if widest.area < g.area then g else widest) f)
    else FaceBox.union t.faces

/-- Revises the target from the current faces, when the smoother allows it. -/
def retarget (t : Tracker) (width height : Nat) : Tracker :=
  let previous := t.smoother.selectedCount
  let (accept, smoother) := t.smoother.needsUpdate t.faces.length
  if !accept then { t with smoother }
  else
    let smoother :=
      if (previous == 0) == t.faces.isEmpty then smoother else smoother.clearWindow
    let face := t.select.getD (FaceBox.wholeFrame width height)
    let smoother := smoother.push (Crop.around face width height)
    let target := if t.faces.isEmpty then none else Target.ofCrop? smoother.average width height
    { t with smoother, target, tally := { t.tally with targetUpdates := t.tally.targetUpdates + 1 } }

/-- Takes one frame: its detection document, its size and its time in milliseconds. -/
def update (t : Tracker) (document : List UInt8) (width height ms : Nat) : Tracker :=
  match t.plannerFor width height with
  | none => t
  | some (p, t) =>
    let p := p.recordFrame ms
    let fps := p.fps?
    let read := Detection.readFaces? document t.config.confidenceThreshold t.config.maxFaces
    let tally := { t.tally with
      fps := fps.orElse fun _ => t.tally.fps
      unreadable := t.tally.unreadable + (if read.isNone then 1 else 0) }
    let t := { t with smoother := t.smoother.adaptLeap fps, faces := read.getD [], tally }
    let t := t.retarget width height
    let (d, p') := p.plan t.target
    { t with planner := some p', dirty := t.dirty || d.changed,
             tally := t.tally.notePlan p.phase p'.phase d.changed }

/-- The crop the planner holds, or the identity before any planner. -/
def crop (t : Tracker) : Crop :=
  (t.planner.map Planner.crop).getD Crop.identity

/-- The phase of the planner, `normal` before any planner. -/
def phase (t : Tracker) : Phase :=
  (t.planner.map Planner.phase).getD .normal

/-- The crop, once after each change; it becomes the applied crop. -/
def take (t : Tracker) : Option Crop × Tracker :=
  if t.dirty then (some t.crop, { t with dirty := false, applied := t.crop }) else (none, t)

/-- The faces as they appear in a crop of the current frame size; none before any planner. -/
def remap (t : Tracker) (c : Crop) : List FaceBox :=
  match t.planner with
  | some p => remapFaces c p.width p.height t.faces
  | none => []

/-- Draws the faces, as they appear in the applied crop, onto a frame when the overlay switch is
on; gives the frame and the number of faces drawn. -/
def drawOverlay (t : Tracker) (b : FrameBuffer) : FrameBuffer × Nat :=
  if t.switches.drawOverlay then b.drawFaces Color.green (t.remap t.applied) else (b, 0)

end Tracker

end FaceFraming
