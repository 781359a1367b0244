import FaceFraming.Host.Buffered
import FaceFraming.Replay.Record
import FaceFraming.Replay.Settings
import FaceFraming.Stream.Processor
import FaceFraming.Text.Space
import FaceFraming.Text.Utf8

/-!
# Replaying a recording

A replay feeds each frame of a recording to a stream processor and reports, per frame, the phase,
zoom level, number of faces, whether the crop changed and the crop. Frames without a size take the
settings' size, frames without a time are spaced by the settings' frame interval (counting only the
frames replayed). When an overlay sink is attached, every frame with both dimensions is also drawn
as a blank frame (black luma, neutral chroma) in the settings' layout, with the overlay on it, and
written to the sink; a write the sink refuses stops the replay before the frame's report, and the
sink is flushed once the recording ends.

The recording is read line by line. A line that is not UTF-8 stops the replay with an error; a
line that is empty once white space is trimmed is passed over; a line that is not a frame record is
skipped and counted. Each frame's report is printed as one compact JSON line, or only the changed
ones when the settings ask so.
-/

namespace FaceFraming

open Json

/-- What a replay reports for one frame. -/
structure FrameReport where
  /-- The frame's index among the frames replayed. -/
  frame : Nat
  /-- The frame's time in milliseconds. -/
  timestamp : Nat
  /-- The planner's phase. -/
  phase : Phase
  /-- The planner's zoom level. -/
  zoomLevel : Nat
  /-- The number of faces seen. -/
  faces : Nat
  /-- Whether the crop changed. -/
  changed : Bool
  /-- The crop. -/
  crop : Crop

/-- A frame report as JSON, its members in a fixed order. -/
def FrameReport.toValue (r : FrameReport) : Value :=
  .obj [("frame", .ofNat r.frame), ("timestamp_ms", .ofNat r.timestamp),
    ("state", .str r.phase.name), ("zoom_level", .ofNat r.zoomLevel), ("faces", .ofNat r.faces),
    ("changed", .bool r.changed),
    ("crop", .obj [("top", .ofInt r.crop.top), ("bottom", .ofInt r.crop.bottom),
      ("left", .ofInt r.crop.left), ("right", .ofInt r.crop.right)])]

/-- The counts of a replay. -/
structure ReplaySummary where
  /-- Frames replayed. -/
  frames : Nat := 0
  /-- Frames whose crop changed. -/
  changes : Nat := 0
  /-- Lines that were not frame records. -/
  skipped : Nat := 0
  deriving Repr, DecidableEq

/-- The state of a replay. -/
structure Replayer where
  /-- What is done with the frames. -/
  processor : Processor
  /-- The assumptions of the replay. -/
  settings : ReplaySettings
  /-- Frames replayed so far. -/
  frames : Nat := 0
  /-- Where overlay frames are written, when a sink is attached. -/
  overlay : Option BufferedSink := none

/-- Luma of a blank overlay frame. -/
def blackLuma : UInt8 := 16

/-- Chroma of a blank overlay frame. -/
def neutralChroma : UInt8 := 128

/-- A blank frame of the given geometry. -/
def blankFrame (g : PlaneGeometry) : FrameBuffer :=
  ⟨Array.replicate g.lumaLen blackLuma ++ Array.replicate (g.requiredLen - g.lumaLen) neutralChroma, g⟩

namespace Replayer

/-- Replays one frame, or tells why its overlay frame could not be written. -/
def process (r : Replayer) (rec : FrameRecord) : Except IoFault (FrameReport × Replayer) := do
  let index := r.frames
  let width := rec.width.getD r.settings.frameWidth
  let height := rec.height.getD r.settings.frameHeight
  let timestamp := rec.timestamp.getD (r.settings.timeOfFrame index)
  let p := r.processor.push rec.document width height timestamp
  let (change, p, overlay) ← match r.overlay with
    | some sink =>
      if 0 < width ∧ 0 < height then
        let (c, b, p) := p.post (some (blankFrame ⟨width, height, r.settings.layout⟩))
        match b with
        | some b => pure (c, p, some (← sink.write (ByteArray.mk b.data)))
        | none => pure (c, p, some sink)
      else
        let (c, _, p) := p.post none
        pure (c, p, some sink)
    | none =>
      let (c, _, p) := p.post none
      pure (c, p, none)
  let report : FrameReport := match p.tracker? with
    | some t =>
      { frame := index, timestamp, phase := t.phase,
        zoomLevel := (t.planner.map Planner.zoomLevel).getD 0, faces := t.faces.length,
        changed := change.isSome, crop := t.crop }
    | none =>
      { frame := index, timestamp, phase := .normal, zoomLevel := 0, faces := 0, changed := false,
        crop := Crop.identity }
  return (report, { r with processor := p, frames := index + 1, overlay })

end Replayer

/-- What a replay leaves: the replay's final state, the text printed, the counts, and the failure
that stopped it, if any. -/
structure ReplayOutcome where
  /-- The final state. -/
  replayer : Replayer
  /-- The report lines printed. -/
  text : String
  /-- The counts. -/
  summary : ReplaySummary
  /-- The fault that stopped the replay, if one did: a line that is not UTF-8, or overlay bytes
  the sink refused. -/
  failure : Option IoFault := none

/-- The lines of a byte stream: split at line feeds, a last line without one included. -/
def splitLines (bs : List UInt8) : List (List UInt8) :=
  let (done, current) := bs.foldl (fun (done, current) b =>
    if b = 10 then (current.reverse :: done, []) else (done, b :: current)) ([], [])
  (if current.isEmpty then done else current.reverse :: done).reverse

namespace Replayer

/-- Replays the lines of a recording, from the given outcome on. -/
def runLines (o : ReplayOutcome) : List (List UInt8) → ReplayOutcome
  | [] => o
  | line :: rest =>
    match Utf8.toString? line with
    | none => { o with failure := some .invalidUtf8 }
    | some text =>
      let text := Text.trimSpace text
      if text.isEmpty then runLines o rest
      else match FrameRecord.read text with
        | .error _ => runLines { o with summary := { o.summary with skipped := o.summary.skipped + 1 } } rest
        | .ok rec =>
          match o.replayer.process rec with
          | .error f => { o with failure := some f }
          | .ok (report, r) =>
          let s := o.summary
          let summary := { s with frames := s.frames + 1,
                                  changes := s.changes + (if report.changed then 1 else 0) }
          let shown := report.changed || !r.settings.changesOnly
          let printed := if shown then o.text ++ report.toValue.render ++ "\n" else o.text
          runLines { replayer := r, text := printed, summary } rest

/-- Replays a recording, then flushes the overlay sink if the replay went through. -/
def run (r : Replayer) (input : List UInt8) : ReplayOutcome :=
  let o := runLines { replayer := r, text := "", summary := {} } (splitLines input)
  match o.failure, o.replayer.overlay with
  | none, some sink => match sink.flush with
    | .ok sink => { o with replayer := { o.replayer with overlay := some sink } }
    | .error f => { o with failure := some f }
  | _, _ => o

end Replayer

end FaceFraming
