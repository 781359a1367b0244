import FaceFraming.Word

/-!
# Face boxes

A detected face is a box of pixels, `x, y` its top-left corner and `w, h` its size, with a
confidence; all five are 16-bit unsigned numbers. The box covers columns `[x, x + w)` and rows
`[y, y + h)`. `FaceBox.union` is the smallest box around several boxes, with their mean
confidence rounded down; `FaceBox.wholeFrame` stands for a frame with no face in it.
-/

namespace FaceFraming

open Word

/-- A detected face. -/
structure FaceBox where
  /-- Left column. -/
  x : Nat
  /-- Top row. -/
  y : Nat
  /-- Width. -/
  w : Nat
  /-- Height. -/
  h : Nat
  /-- Detection confidence. -/
  confidence : Nat
  deriving Repr, DecidableEq, Inhabited

namespace FaceBox

/-- The pixels a box covers. -/
def area (f : FaceBox) : Nat :=
  f.w * f.h

/-- One past the box's last column. -/
def right (f : FaceBox) : Nat :=
  f.x + f.w

/-- One past the box's last row. -/
def bottom (f : FaceBox) : Nat :=
  f.y + f.h

/-- The box of a whole frame, with full confidence. -/
def wholeFrame (width height : Nat) : FaceBox :=
  ⟨0, 0, sat16 width, sat16 height, 100⟩

/-- The smallest box containing every box of a non-empty list, with the mean confidence rounded
down; `none` for the empty list. Every part is saturated to 16 bits. -/
def union : List FaceBox → Option FaceBox
  | [] => none
  | f :: fs =>
    let all := f :: fs
    let x := fs.foldl (fun m g => min m g.x) f.x
    let y := fs.foldl (fun m g => min m g.y) f.y
    let r := fs.foldl (fun m g => max m g.right) f.right
    let b := fs.foldl (fun m g => max m g.bottom) f.bottom
    let c := all.foldl (fun s g => s + g.confidence) 0 / all.length
    some ⟨sat16 x, sat16 y, sat16 (r - x), sat16 (b - y), sat16 c⟩

/-- Only the empty list has no union. -/
theorem union_eq_none_iff {fs : List FaceBox} : union fs = none ↔ fs = [] := by
  cases fs <;> simp [union]

end FaceBox

end FaceFraming
