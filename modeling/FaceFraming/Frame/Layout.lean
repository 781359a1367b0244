import FaceFraming.Error

/-!
# Pixel layouts

Frames are semi-planar YUV: a plane of luma bytes, one per pixel, then a plane of interleaved
chroma pairs `(u, v)`, one pair for every two columns. In `nv12` a chroma row serves two pixel
rows (so there are half as many, rounded up); in `nv16` each pixel row has its own.

A layout is named `nv12` (also `yuv420sp`) or `nv16` (also `yuv422sp`), in any case.
-/

namespace FaceFraming

/-- A semi-planar YUV layout. -/
inductive PixelLayout where
  | nv12
  | nv16
  deriving Repr, DecidableEq, Inhabited

namespace PixelLayout

/-- The written name of a layout. -/
def name : PixelLayout → String
  | .nv12 => "nv12"
  | .nv16 => "nv16"

/-- Rows of the chroma plane for a frame of the given height. -/
def chromaRows : PixelLayout → Nat → Nat
  | .nv12, h => (h + 1) / 2
  | .nv16, h => h

/-- The chroma row serving a pixel row. -/
def chromaRow : PixelLayout → Nat → Nat
  | .nv12, r => r / 2
  | .nv16, r => r

/-- Reads a layout name, ignoring case. -/
def parse (s : String) : Except EngineError PixelLayout :=
  match s.toLower with
  | "nv12" | "yuv420sp" => .ok .nv12
  | "nv16" | "yuv422sp" => .ok .nv16
  | _ => .error (.invalidConfig ("unknown pixel layout: " ++ s))

end PixelLayout

end FaceFraming
