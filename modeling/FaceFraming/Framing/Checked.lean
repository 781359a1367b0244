import FaceFraming.Framing.Planner
import FaceFraming.Checked

/-!
# The planner with its arithmetic checked

`Planner.plan` computes with unbounded integers. `Planner.plan?` is the same step as an
overflow-checked build runs it: every integer operation of the step in its word, in the order the
program takes them, and a panic where one leaves its word. The words are the program's: zoom
levels and pan frames are unsigned 32-bit, aim points, pan limits and crop edges signed 32-bit,
and the placement of a span and the interpolation of a pan are computed in signed 64-bit words and
narrowed back to 32 bits by wrapping.

The operations checked are the level step of `normal`, the negated pan limit, the clamps and the
end point of a pan in `zoomIn`, the frame step of a pan and its interpolation in `panAndTilt`,
and the subtractions, halving and clamps that place a span whenever a crop is recomputed. The
doubles, the saturating operations and the comparisons cannot stop the program and are as in
`plan`.
-/

namespace FaceFraming

open Double

namespace PanMove

/-- The point a fraction `s / d` of the way from `a` to `b`, computed in 64-bit words and
narrowed to 32 bits. -/
def between? (a b : Int) (s d : Nat) : Checked Int := do
  let way ← IntType.i64.sub b a
  let part ← IntType.i64.mul way s
  let share ← IntType.i64.div part d
  let point ← IntType.i64.add a share
  pure (Word.wrap32 point)

/-- The aim point after the frames taken, computed in checked words. -/
def position? (m : PanMove) : Checked Point := do
  let d := max m.duration 1
  let s := min m.step m.duration
  let x ← between? m.start.x m.finish.x s d
  let y ← between? m.start.y m.finish.y s d
  pure ⟨x, y⟩

end PanMove

namespace Planner

/-- `placeSpan` computed in checked 64-bit words. -/
def placeSpan? (frame : Nat) (trim : Float) (center : Int) : Checked (Int × Int) := do
  let span ← clampChecked 1 frame (roundClamped Word.i64Min Word.i64Max (ofNat frame - trim))
  let half ← IntType.i64.div span 2
  let start ← IntType.i64.sub center half
  let room ← IntType.i64.sub frame span
  let before ← clampChecked 0 room start
  let room ← IntType.i64.sub frame span
  let after ← IntType.i64.sub room before
  pure (Word.wrap32 before, Word.wrap32 after)

/-- The crop for the current level and aim point, in checked words. -/
def placedCrop? (p : Planner) : Checked Crop := do
  let progress := p.rate.zoomCurve.value p.zoomLevel
  let (left, right) ← placeSpan? p.width (p.zoomStep.1 * progress) p.center.x
  let (top, bottom) ← placeSpan? p.height (p.zoomStep.2 * progress) p.center.y
  pure ⟨top, bottom, left, right⟩

/-- The crop recomputed in checked words, recorded as the last crop. -/
def recompute? (p : Planner) : Checked (Decision × Planner) := do
  let crop ← p.placedCrop?
  pure (⟨crop, true⟩, { p with crop })

/-- One frame of the `normal` phase, in checked words. -/
def planNormal? (p : Planner) (target : Option Target) : Checked (Decision × Planner) := do
  let p := if p.zoomLevel = 0 then p.takeZoomTier else p
  match target with
  | none =>
    pure (if 0 < p.zoomLevel then (p.unchanged, { p with phase := .zoomOut }) else (p.unchanged, p))
  | some t =>
    let maxLevel := p.rate.zoomCurve.maxLevel
    let next ← IntType.u32.add p.zoomLevel 1
    let p := { p with center := t.center, zoomStep := p.zoomStepFor t maxLevel,
                      zoomLevel := min next.toNat maxLevel }
    let (d, p) ← p.recompute?
    pure (d, if p.zoomLevel = maxLevel then { p with phase := .zoomIn } else p)

/-- One frame of the `zoomIn` phase, in checked words. -/
def planZoomIn? (p : Planner) (target : Option Target) : Checked (Decision × Planner) := do
  match target with
  | none => pure (p.unchanged, { p with phase := .zoomOut })
  | some t =>
    if t.center = p.center then pure (p.unchanged, p)
    else
      let limit := max p.maxPanStep 0
      let low ← IntType.i32.neg limit
      let dx ← clampChecked low limit (Word.subSat32 t.center.x p.center.x)
      let low ← IntType.i32.neg limit
      let dy ← clampChecked low limit (Word.subSat32 t.center.y p.center.y)
      let rate := p.rate.refreshPan
      let x ← IntType.i32.add p.center.x dx
      let y ← IntType.i32.add p.center.y dy
      let pan : PanMove :=
        { start := p.center, finish := ⟨x, y⟩, duration := rate.panFramesNow, step := 0 }
      pure (p.unchanged, { p with rate, pan, panTier := rate.panTier, phase := .panAndTilt })

/-- One frame of the `panAndTilt` phase, in checked words. -/
def planPan? (p : Planner) : Checked (Decision × Planner) := do
  let step ← IntType.u32.add p.pan.step 1
  let pan := { p.pan with step := step.toNat }
  let center ← pan.position?
  let (d, p) ← { p with pan, center }.recompute?
  pure (d, if p.pan.isDone then { p with phase := .zoomIn } else p)

/-- One frame of the `zoomOut` phase, in checked words; the level steps down saturating. -/
def planZoomOut? (p : Planner) : Checked (Decision × Planner) := do
  let (d, p) ← { p with zoomLevel := p.zoomLevel - 1 }.recompute?
  pure (d, if p.zoomLevel = 0 then { p with phase := .normal }.takeZoomTier else p)

/-- The crop for the next frame as an overflow-checked build plans it. -/
def plan? (p : Planner) (target : Option Target) : Checked (Decision × Planner) :=
  match p.phase with
  | .normal => p.planNormal? target
  | .zoomIn => p.planZoomIn? target
  | .panAndTilt => p.planPan?
  | .zoomOut => p.planZoomOut?

end Planner

end FaceFraming
