import FaceFraming.Geometry.Face

/-!
# Crops of a frame

A crop says how many pixels to cut from each edge of a frame; what remains visible is the region
`[left, W - right) × [top, H - bottom)`. Edges are 32-bit signed numbers. `Crop.around` is the crop
that leaves exactly a face box visible (clipped to the frame), and `Crop.center` the middle of the
visible region, rounded toward the top-left. A crop is valid for a frame when no edge is negative
and something stays visible.
-/

namespace FaceFraming

open Word

/-- A point of a frame, in 32-bit signed pixels. -/
structure Point where
  /-- Column. -/
  x : Int
  /-- Row. -/
  y : Int
  deriving Repr, DecidableEq, Inhabited

/-- Pixels cut from each edge of a frame. -/
structure Crop where
  /-- Rows cut at the top. -/
  top : Int
  /-- Rows cut at the bottom. -/
  bottom : Int
  /-- Columns cut at the left. -/
  left : Int
  /-- Columns cut at the right. -/
  right : Int
  deriving Repr, DecidableEq, Inhabited

namespace Crop

/-- The crop that cuts nothing. -/
def identity : Crop :=
  ⟨0, 0, 0, 0⟩

/-- The crop leaving a face box visible, clipped to a `width × height` frame; each edge is read as
a 32-bit word. -/
def around (f : FaceBox) (width height : Nat) : Crop :=
  let left := min (f.x : Int) width
  let top := min (f.y : Int) height
  let right := max ((width : Int) - f.right) 0
  let bottom := max ((height : Int) - f.bottom) 0
  ⟨wrap32 top, wrap32 bottom, wrap32 left, wrap32 right⟩

/-- Columns left visible in a frame of the given width (read as a 32-bit word). -/
def visibleWidth (c : Crop) (width : Nat) : Int :=
  wrap32 width - c.left - c.right

/-- Rows left visible in a frame of the given height (read as a 32-bit word). -/
def visibleHeight (c : Crop) (height : Nat) : Int :=
  wrap32 height - c.top - c.bottom

/-- No edge is negative and some area stays visible. -/
def isValidFor (c : Crop) (width height : Nat) : Bool :=
  0 ≤ c.top && 0 ≤ c.bottom && 0 ≤ c.left && 0 ≤ c.right &&
    0 < c.visibleWidth width && 0 < c.visibleHeight height

/-- The middle of the visible region, halves rounded toward zero. -/
def center (c : Crop) (width height : Nat) : Point :=
  ⟨c.left + (c.visibleWidth width).tdiv 2, c.top + (c.visibleHeight height).tdiv 2⟩

end Crop

end FaceFraming
