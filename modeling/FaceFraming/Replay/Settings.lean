import FaceFraming.Frame.Layout
import FaceFraming.Double.Nearest
import FaceFraming.Word

/-!
# Replay settings

What a replay assumes where the recording is silent: the frame rate that spaces frames without a
time (30 fps), the frame size (1920 × 1080), whether only changed crops are printed, and the pixel
layout of the overlay frames (`nv12`). A frame without a time is placed at its index times the
frame interval `1000 / fps`, rounded, clamped to the unsigned 64-bit range (a rate that gives no
number places it at zero).
-/

namespace FaceFraming

/-- The assumptions of a replay. -/
structure ReplaySettings where
  /-- The frame rate of frames without a time. -/
  defaultFps : Float := 30.0
  /-- The width of frames without one. -/
  frameWidth : Nat := 1920
  /-- The height of frames without one. -/
  frameHeight : Nat := 1080
  /-- Print only frames whose crop changed. -/
  changesOnly : Bool := false
  /-- The layout of overlay frames. -/
  layout : PixelLayout := .nv12

namespace ReplaySettings

/-- Milliseconds between frames at the default rate. -/
def frameInterval (s : ReplaySettings) : Float :=
  1000.0 / s.defaultFps

/-- The time of the frame with the given index, when it has none of its own. -/
def timeOfFrame (s : ReplaySettings) (index : Nat) : Nat :=
  (Double.roundClamped 0 Word.u64Max (Double.ofNat index * s.frameInterval)).toNat

end ReplaySettings

end FaceFraming
