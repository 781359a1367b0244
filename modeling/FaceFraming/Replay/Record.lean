import FaceFraming.Json.Shape
import FaceFraming.Json.Writer
import FaceFraming.Word

/-!
# Recorded frames

A recording is one JSON document per line, each describing a frame: its time in milliseconds, its
width and height, and the detection document of the frame. Every member may be left out or be
`null`; a record may also be an array of the members in that order. The detection document is
given as a string (its text), as `null` (no document), or as any other JSON value, which stands
for its own compact text.
-/

namespace FaceFraming

open Json

/-- One recorded frame. -/
structure FrameRecord where
  /-- The frame's time, in milliseconds. -/
  timestamp : Option Nat := none
  /-- The frame's width. -/
  width : Option Nat := none
  /-- The frame's height. -/
  height : Option Nat := none
  /-- The detection document. -/
  metadata : Value := .null

namespace FrameRecord

/-- The shape of a record. -/
def shape : Shape :=
  let u32 : Shape × Need := (.optional (.unsigned Word.u32Max "u32"), .defaulted)
  .record "FrameRecord"
    [("timestamp_ms", (.optional (.unsigned Word.u64Max "u64"), .defaulted)),
     ("width", u32), ("height", u32), ("metadata", (.any, .defaulted))]

/-- Reads a record from a line of a recording. -/
def read (line : String) : Except Json.Error FrameRecord :=
  (readDocument shape line.toUTF8.toList).map fun r =>
    { timestamp := (r.field? "timestamp_ms").bind Value.asNat?
      width := (r.field? "width").bind Value.asNat?
      height := (r.field? "height").bind Value.asNat?
      metadata := (r.get? "metadata").getD .null }

/-- The bytes of the detection document. -/
def document (r : FrameRecord) : List UInt8 :=
  match r.metadata with
  | .str s => s.toUTF8.toList
  | .null => []
  | v => v.render.toUTF8.toList

end FrameRecord

end FaceFraming
