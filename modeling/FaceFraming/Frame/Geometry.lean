import FaceFraming.Frame.Layout

/-!
# Plane geometry

Where the bytes of a pixel live in a frame of `stride` columns and `height` rows: the luma byte
of `(row, col)` at `row · stride + col`, the chroma pair after the luma plane, at the chroma row
of `row` and the even column of the pair that holds `col`. A pair whose second byte would fall
past the row's end has no place.
-/

namespace FaceFraming

/-- The dimensions and layout of a frame's planes. -/
structure PlaneGeometry where
  /-- Bytes per row, the frame's width. -/
  stride : Nat
  /-- Rows. -/
  height : Nat
  /-- Layout of the chroma plane. -/
  layout : PixelLayout
  deriving Repr, DecidableEq

namespace PlaneGeometry

/-- Bytes of the luma plane. -/
def lumaLen (g : PlaneGeometry) : Nat :=
  g.stride * g.height

/-- Bytes of both planes. -/
def requiredLen (g : PlaneGeometry) : Nat :=
  g.lumaLen + g.stride * g.layout.chromaRows g.height

/-- The offset of a pixel's luma byte, when the pixel is in the frame. -/
def lumaOffset? (g : PlaneGeometry) (row col : Nat) : Option Nat :=
  if row < g.height ∧ col < g.stride then some (row * g.stride + col) else none

/-- The even column of the chroma pair that holds a column. -/
def pairColumn (col : Nat) : Nat :=
  col - col % 2

/-- The offset of a pixel's chroma pair, when the pixel and the whole pair are in the frame. -/
def chromaOffset? (g : PlaneGeometry) (row col : Nat) : Option Nat :=
  if row < g.height ∧ col < g.stride ∧ pairColumn col + 1 < g.stride then
    some (g.lumaLen + g.layout.chromaRow row * g.stride + pairColumn col)
  else none

end PlaneGeometry

end FaceFraming
