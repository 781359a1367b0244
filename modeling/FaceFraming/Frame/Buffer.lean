import FaceFraming.Frame.Geometry

/-!
# Frame buffers

A frame buffer is a byte array read through a plane geometry. `FrameBuffer.wrap` refuses a frame
with a zero dimension, and a byte array shorter than the geometry requires; a longer one is
accepted, its extra bytes left alone.
-/

namespace FaceFraming

/-- Bytes of a frame with the geometry that reads them. -/
structure FrameBuffer where
  /-- The bytes, at least as many as the geometry requires. -/
  data : Array UInt8
  /-- How the bytes are laid out. -/
  geometry : PlaneGeometry

namespace FrameBuffer

/-- A byte array as a frame of the given dimensions and layout. -/
def wrap (data : Array UInt8) (stride height : Nat) (layout : PixelLayout) :
    Except EngineError FrameBuffer :=
  if stride = 0 ∨ height = 0 then .error (.invalidDimensions stride height)
  else
    let g : PlaneGeometry := ⟨stride, height, layout⟩
    if data.size < g.requiredLen then .error (.bufferTooSmall g.requiredLen data.size)
    else .ok ⟨data, g⟩

/-- A pixel's luma byte. -/
def luma? (b : FrameBuffer) (row col : Nat) : Option UInt8 := do
  let o ← b.geometry.lumaOffset? row col
  b.data[o]?

/-- A pixel's chroma pair. -/
def chroma? (b : FrameBuffer) (row col : Nat) : Option (UInt8 × UInt8) := do
  let o ← b.geometry.chromaOffset? row col
  let u ← b.data[o]?
  let v ← b.data[o + 1]?
  pure (u, v)

end FrameBuffer

end FaceFraming
