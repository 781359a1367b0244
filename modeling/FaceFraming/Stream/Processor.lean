import FaceFraming.Tracking.Tracker

/-!
# Stream processors

A stream is either passed through untouched or tracked. A passed-through stream ignores detection
documents and never changes its crop. A tracked stream feeds each document to its tracker; after
each frame, `post` draws the overlay onto the frame when one is given and hands out the crop if it
changed.
-/

namespace FaceFraming

/-- What is done with the frames of a stream. -/
inductive Processor where
  /-- Frames go through untouched. -/
  | passthrough
  /-- Faces are tracked. -/
  | tracking (t : Tracker)

namespace Processor

/-- The name of the processor. -/
def name : Processor → String
  | .passthrough => "passthrough"
  | .tracking _ => "face_tracking"

/-- The tracker, for a tracked stream. -/
def tracker? : Processor → Option Tracker
  | .passthrough => none
  | .tracking t => some t

/-- Takes the detection document of a frame with its size and time. -/
def push (p : Processor) (document : List UInt8) (width height ms : Nat) : Processor :=
  match p with
  | .passthrough => .passthrough
  | .tracking t => .tracking (t.update document width height ms)

/-- After a frame: draws the overlay onto the frame, if given, and hands out the crop if it
changed. -/
def post (p : Processor) (frame : Option FrameBuffer) :
    Option Crop × Option FrameBuffer × Processor :=
  match p with
  | .passthrough => (none, frame, .passthrough)
  | .tracking t =>
    let frame := frame.map fun b => (t.drawOverlay b).1
    let (c, t) := t.take
    (c, frame, .tracking t)

end Processor

end FaceFraming
