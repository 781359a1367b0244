/-!
# Debug switches

Two switches change how a stream is tracked: drawing the tracked faces onto the frames, and
following only the largest face instead of the region around all of them. Each is on when its
sentinel path exists.
-/

namespace FaceFraming

/-- The debug switches of a stream. -/
structure Switches where
  /-- Draw the tracked faces onto output frames. -/
  drawOverlay : Bool := false
  /-- Track the largest face instead of the union of all faces. -/
  widestFace : Bool := false
  deriving Repr, DecidableEq, Inhabited

end FaceFraming
