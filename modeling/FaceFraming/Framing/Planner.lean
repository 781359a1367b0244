import FaceFraming.Framing.Pan
import FaceFraming.Framing.Phase
import FaceFraming.Framing.Target
import FaceFraming.Rate.Control
import FaceFraming.Double.Bits
import FaceFraming.Error

/-!
# Planning crops

The planner turns a target, frame by frame, into the crop to apply. It moves through four phases:

* `normal`: with a target it aims at the target's center and zooms in one level per frame toward
  the zoom the target asks for; at the last level it enters `zoomIn`. Without a target it waits,
  or starts zooming out if it is zoomed.
* `zoomIn`: fully zoomed. A target elsewhere starts a pan toward it, each axis limited to
  `maxPanStep` pixels, taking the frames the pan tier gives; losing the target starts zooming out.
* `panAndTilt`: moves the aim point one frame along the pan, back to `zoomIn` when done.
* `zoomOut`: zooms out one level per frame, back to `normal` at level zero.

The crop at a level frames `frame - step · curve(level)` pixels on each axis, rounded, at least one
pixel and at most the frame, placed around the aim point and kept inside the frame. Each plan says
whether it recomputed the crop. The zoom tier is revised whenever the planner is unzoomed, the pan
tier whenever a pan starts; both come from the frames recorded with `recordFrame`, and the planner
keeps its own copy of each tier as it last took it.
-/

namespace FaceFraming

open Double

/-- A crop with whether it was recomputed for this frame. -/
structure Decision where
  /-- The crop to apply. -/
  crop : Crop
  /-- Whether the crop was recomputed. -/
  changed : Bool
  deriving Repr, DecidableEq, Inhabited

/-- The state of the crop planner of one stream. -/
structure Planner where
  /-- Frame width, positive. -/
  width : Nat
  /-- Frame height, positive. -/
  height : Nat
  /-- The largest move of a pan per axis. -/
  maxPanStep : Int
  /-- How many times a target's size the framed region should be. -/
  faceFrameRatio : Float
  /-- The largest zoom factor. -/
  maxZoom : Float
  /-- Rate measurement and tiers. -/
  rate : RateControl
  /-- The current phase. -/
  phase : Phase := .normal
  /-- The current zoom level. -/
  zoomLevel : Nat := 0
  /-- The zoom tier last taken from the rate control. -/
  zoomTier : Tier := .fast
  /-- The pan tier last taken from the rate control. -/
  panTier : Tier := .fast
  /-- The aim point. -/
  center : Point := ⟨0, 0⟩
  /-- Pixels trimmed per zoom level, horizontally and vertically. -/
  zoomStep : Float × Float := (0.0, 0.0)
  /-- The pan under way, or the last one. -/
  pan : PanMove := {}
  /-- The crop last planned. -/
  crop : Crop := Crop.identity

namespace Planner

/-- A planner for frames of the given size, unzoomed; refuses an empty frame. -/
def create (c : TrackingConfig) (width height : Nat) : Except EngineError Planner :=
  if width = 0 ∨ height = 0 then .error (.invalidDimensions width height)
  else .ok { width, height, maxPanStep := c.maxPanStep, faceFrameRatio := c.faceFrameRatio,
             maxZoom := c.maxZoom, rate := RateControl.create c }

/-- Takes a new frame size, going back to the unzoomed state if it differs; refuses an empty frame.
The measured rate and the tiers are kept. -/
def resize (p : Planner) (width height : Nat) : Except EngineError Planner :=
  if width = 0 ∨ height = 0 then .error (.invalidDimensions width height)
  else if width = p.width ∧ height = p.height then .ok p
  else .ok { p with width, height, phase := .normal, zoomLevel := 0, center := ⟨0, 0⟩,
                    zoomStep := (0.0, 0.0), pan := {}, crop := Crop.identity }

/-- Records a frame's timestamp for the rate. -/
def recordFrame (p : Planner) (ms : Nat) : Planner :=
  { p with rate := p.rate.push ms }

/-- The measured frame rate. -/
def fps? (p : Planner) : Option Float :=
  p.rate.fps?

/-- Where a span of `frame - trim` pixels (rounded, within `[1, frame]`) goes on an axis of
`frame` pixels so that it is centered on `center` as far as the frame allows: the pixels cut before
and after it. -/
def placeSpan (frame : Nat) (trim : Float) (center : Int) : Int × Int :=
  let span := Word.clampInt 1 frame (roundClamped Word.i64Min Word.i64Max (ofNat frame - trim))
  let before := Word.clampInt 0 (frame - span) (center - span.tdiv 2)
  (Word.wrap32 before, Word.wrap32 (frame - span - before))

/-- A placed span cuts nothing negative and leaves at least one pixel: on an axis of `frame`
pixels, with `1 ≤ frame < 2^31`, both cuts are at least zero and together less than the frame. -/
theorem placeSpan_bounds {frame : Nat} (h1 : 1 ≤ frame) (h2 : frame < 2147483648) (trim : Float)
    (center : Int) :
    0 ≤ (placeSpan frame trim center).1 ∧ 0 ≤ (placeSpan frame trim center).2 ∧
      (placeSpan frame trim center).1 + (placeSpan frame trim center).2 < frame := by
  simp only [placeSpan]
  generalize roundClamped Word.i64Min Word.i64Max (ofNat frame - trim) = r
  have hs1 := Word.le_clampInt 1 frame r
  have hs2 := Word.clampInt_le (show (1 : Int) ≤ frame by omega) r
  generalize Word.clampInt 1 frame r = span at hs1 hs2
  have hb1 := Word.le_clampInt 0 (frame - span) (center - span.tdiv 2)
  have hb2 := Word.clampInt_le (show (0 : Int) ≤ frame - span by omega) (center - span.tdiv 2)
  generalize Word.clampInt 0 (frame - span) (center - span.tdiv 2) = before at hb1 hb2
  rw [Word.wrap32_of_mem (by omega) (by omega), Word.wrap32_of_mem (by omega) (by omega)]
  omega

/-- Pixels trimmed per level so that the last of `maxLevel` levels frames the target at
`faceFrameRatio` times its size, the zoom factor kept within `[1, maxZoom]`. -/
def zoomStepFor (p : Planner) (t : Target) (maxLevel : Nat) : Float × Float :=
  let w := ofNat p.width
  let h := ofNat p.height
  let wantedW := ofNat t.width * p.faceFrameRatio
  let wantedH := ofNat t.height * p.faceFrameRatio
  let zoom := maxNum (minNum (minNum (w / wantedW) (h / wantedH)) p.maxZoom) 1.0
  let steps := ofNat (max maxLevel 1)
  ((w - w / zoom) / steps, (h - h / zoom) / steps)

/-- The crop for the current level and aim point: each axis trimmed by the zoom step times the
curve's value at the level, the span placed around the aim point. -/
def placedCrop (p : Planner) : Crop :=
  let progress := p.rate.zoomCurve.value p.zoomLevel
  let (left, right) := placeSpan p.width (p.zoomStep.1 * progress) p.center.x
  let (top, bottom) := placeSpan p.height (p.zoomStep.2 * progress) p.center.y
  ⟨top, bottom, left, right⟩

/-- The crop for the current level and aim point, recorded as the last crop. -/
def recompute (p : Planner) : Decision × Planner :=
  let crop := p.placedCrop
  (⟨crop, true⟩, { p with crop })

/-- Revises the zoom tier from the measured rate and takes it as the planner's own. -/
def takeZoomTier (p : Planner) : Planner :=
  let rate := p.rate.refreshZoom
  { p with rate, zoomTier := rate.zoomTier }

/-- The last crop, not recomputed. -/
def unchanged (p : Planner) : Decision :=
  ⟨p.crop, false⟩

/-- One frame of the `normal` phase. -/
def planNormal (p : Planner) (target : Option Target) : Decision × Planner :=
  let p := if p.zoomLevel = 0 then p.takeZoomTier else p
  match target with
  | none =>
    if 0 < p.zoomLevel then (p.unchanged, { p with phase := .zoomOut }) else (p.unchanged, p)
  | some t =>
    let maxLevel := p.rate.zoomCurve.maxLevel
    let p := { p with center := t.center, zoomStep := p.zoomStepFor t maxLevel,
                      zoomLevel := min (p.zoomLevel + 1) maxLevel }
    let (d, p) := p.recompute
    (d, if p.zoomLevel = maxLevel then { p with phase := .zoomIn } else p)

/-- One frame of the `zoomIn` phase. -/
def planZoomIn (p : Planner) (target : Option Target) : Decision × Planner :=
  match target with
  | none => (p.unchanged, { p with phase := .zoomOut })
  | some t =>
    if t.center = p.center then (p.unchanged, p)
    else
      let limit := max p.maxPanStep 0
      let dx := Word.clampInt (-limit) limit (Word.subSat32 t.center.x p.center.x)
      let dy := Word.clampInt (-limit) limit (Word.subSat32 t.center.y p.center.y)
      let rate := p.rate.refreshPan
      let pan : PanMove :=
        { start := p.center, finish := ⟨p.center.x + dx, p.center.y + dy⟩,
          duration := rate.panFramesNow, step := 0 }
      (p.unchanged, { p with rate, pan, panTier := rate.panTier, phase := .panAndTilt })

/-- One frame of the `panAndTilt` phase. -/
def planPan (p : Planner) : Decision × Planner :=
  let pan := p.pan.advance
  let (d, p) := { p with pan, center := pan.position }.recompute
  (d, if p.pan.isDone then { p with phase := .zoomIn } else p)

/-- One frame of the `zoomOut` phase. -/
def planZoomOut (p : Planner) : Decision × Planner :=
  let (d, p) := { p with zoomLevel := p.zoomLevel - 1 }.recompute
  (d, if p.zoomLevel = 0 then { p with phase := .normal }.takeZoomTier else p)

/-- The crop for the next frame, given the target if there is one. -/
def plan (p : Planner) (target : Option Target) : Decision × Planner :=
  match p.phase with
  | .normal => p.planNormal target
  | .zoomIn => p.planZoomIn target
  | .panAndTilt => p.planPan
  | .zoomOut => p.planZoomOut

end Planner

end FaceFraming
