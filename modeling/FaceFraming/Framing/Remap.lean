import FaceFraming.Geometry.Crop

/-!
# Faces seen through a crop

After a frame is cropped and the visible region scaled back to the full frame, a face box moves
and grows with it. `remapFaces` maps each box through that scaling: a coordinate `v` becomes
`(v - offset) · full / visible`, rounded toward zero and clamped into the frame. Boxes that end up
empty are dropped; a crop that leaves nothing visible drops them all.
-/

namespace FaceFraming

open Word

/-- A coordinate mapped through a crop's scaling and clamped into `[0, full]`. -/
def remapCoordinate (value offset full visible : Int) : Int :=
  clampInt 0 full (((value - offset) * full).tdiv visible)

/-- The faces as they appear after cropping and scaling back to the frame, in order. -/
def remapFaces (c : Crop) (width height : Nat) (faces : List FaceBox) : List FaceBox :=
  let vw := c.visibleWidth width
  let vh := c.visibleHeight height
  if vw ≤ 0 ∨ vh ≤ 0 then []
  else faces.filterMap fun f =>
    let x1 := remapCoordinate f.x c.left width vw
    let x2 := remapCoordinate f.right c.left width vw
    let y1 := remapCoordinate f.y c.top height vh
    let y2 := remapCoordinate f.bottom c.top height vh
    if x2 - x1 ≤ 0 ∨ y2 - y1 ≤ 0 then none
    else some ⟨(clampInt 0 u16Max x1).toNat, (clampInt 0 u16Max y1).toNat,
      (clampInt 0 u16Max (x2 - x1)).toNat, (clampInt 0 u16Max (y2 - y1)).toNat, f.confidence⟩

end FaceFraming
