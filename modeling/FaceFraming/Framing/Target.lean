import FaceFraming.Geometry.Crop

/-!
# Targets

A target is what the framing loop aims at: a center point and the size of the region to frame. The
origin `(0, 0)` is reserved for "no target", so `Target.ofCenter?` refuses it. `Target.ofCrop?`
aims at the visible region of a crop: its center, and its size with negative sizes read as zero.
-/

namespace FaceFraming

/-- An aim point with the size of the region around it. -/
structure Target where
  /-- The aim point. -/
  center : Point
  /-- Width of the region to frame. -/
  width : Nat
  /-- Height of the region to frame. -/
  height : Nat
  deriving Repr, DecidableEq, Inhabited

namespace Target

/-- The target at a point, or none at the origin. -/
def ofCenter? (x y : Int) (width height : Nat) : Option Target :=
  if x = 0 ∧ y = 0 then none else some ⟨⟨x, y⟩, width, height⟩

/-- The target framing the visible region of a crop. -/
def ofCrop? (c : Crop) (width height : Nat) : Option Target :=
  let p := c.center width height
  ofCenter? p.x p.y (c.visibleWidth width).toNat (c.visibleHeight height).toNat

end Target

end FaceFraming
