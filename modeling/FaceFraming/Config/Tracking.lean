import FaceFraming.Rate.Tier
import FaceFraming.Json.Shape
import FaceFraming.Json.Writer
import FaceFraming.Error
import FaceFraming.Word

/-!
# Tracking configuration

Every setting of the engine, with its default:

* face filtering: `confidenceThreshold` 70, `maxFaces` 6;
* temporal smoothing: `leap` 6 (frames between decisions), `lowFpsLeap` 3 (used at or below
  `lowFpsThreshold` 15.0 fps), `smoothingCapacity` 8 (crops averaged), `decisionThreshold` 10
  (frames a new face count must hold);
* rate control: `fpsWindow` 120 (frames measured), tier thresholds 20.0 and 10.0 fps,
  `zoomTierSteps` 40/20/10 and `panTiltTierFrames` 10/5/3 per tier;
* crop planning: `maxPanStep` 60 pixels per move, `faceFrameRatio` 3.0 (frame size per face
  size), `maxZoom` 2.0;
* debug switches: the paths whose existence turns on the face overlay and widest-face tracking.

A configuration is read from a JSON object (or an array of the settings in this order) with the
snake-case names of the settings; every setting may be left out, unknown ones are ignored, the two
tier groups are objects with all of `fast`, `medium`, `slow` (or arrays of three). `validate`
refuses settings that cannot work, checking them in a fixed order.
-/

namespace FaceFraming

/-- The default path of the overlay switch. -/
def defaultOverlayFlagPath : String := "/var/lib/autoptz/debug_draw_faces"

/-- The default path of the widest-face switch. -/
def defaultWidestFaceFlagPath : String := "/var/lib/autoptz/focus_widest_face"

/-- The settings of the engine. -/
structure TrackingConfig where
  /-- Faces below this confidence are ignored. -/
  confidenceThreshold : Nat := 70
  /-- At most this many faces are kept per frame. -/
  maxFaces : Nat := 6
  /-- Frames between smoothing decisions. -/
  leap : Nat := 6
  /-- Frames between decisions at low frame rates. -/
  lowFpsLeap : Nat := 3
  /-- At or below this rate the low-rate leap is used. -/
  lowFpsThreshold : Float := 15.0
  /-- Crops averaged by the smoothing window. -/
  smoothingCapacity : Nat := 8
  /-- Frames a new face count must hold before it is accepted. -/
  decisionThreshold : Nat := 10
  /-- Frames over which the rate is measured. -/
  fpsWindow : Nat := 120
  /-- At or above this rate the fast tier applies. -/
  fastFpsThreshold : Float := 20.0
  /-- At or above this rate the medium tier applies. -/
  mediumFpsThreshold : Float := 10.0
  /-- Zoom steps per tier. -/
  zoomTierSteps : TierValues := ⟨40, 20, 10⟩
  /-- Frames of a pan per tier. -/
  panTiltTierFrames : TierValues := ⟨10, 5, 3⟩
  /-- The largest move of the aim point in one pan, per axis. -/
  maxPanStep : Int := 60
  /-- How many times a face's size the framed region should be. -/
  faceFrameRatio : Float := 3.0
  /-- The largest zoom factor. -/
  maxZoom : Float := 2.0
  /-- Its existence turns on the face overlay. -/
  overlayFlagPath : String := defaultOverlayFlagPath
  /-- Its existence turns on widest-face tracking. -/
  widestFaceFlagPath : String := defaultWidestFaceFlagPath

namespace TrackingConfig

/-- Refuses settings that cannot work, with the first reason found. -/
def validate (c : TrackingConfig) : Except EngineError Unit :=
  let fail := fun (r : String) => Except.error (EngineError.invalidConfig r)
  if c.maxFaces = 0 then fail "max_faces must be at least 1"
  else if c.leap = 0 ∨ c.lowFpsLeap = 0 then fail "leap intervals must be at least 1"
  else if c.smoothingCapacity = 0 then fail "smoothing_capacity must be at least 1"
  else if c.fpsWindow < 2 then fail "fps_window must hold at least 2 samples"
  else if c.zoomTierSteps.anyZero || c.panTiltTierFrames.anyZero then
    fail "tier values must be at least 1"
  else if !(c.fastFpsThreshold ≥ c.mediumFpsThreshold && c.mediumFpsThreshold ≥ 0.0) then
    fail ("fps thresholds out of order: fast=" ++ Double.Layout.plain.render c.fastFpsThreshold
      ++ " medium=" ++ Double.Layout.plain.render c.mediumFpsThreshold)
  else if c.maxPanStep ≤ 0 then fail "max_pan_step must be positive"
  else if !(c.faceFrameRatio > 0.0) then fail "face_frame_ratio must be positive"
  else if !(c.maxZoom ≥ 1.0) then fail "max_zoom must be at least 1.0"
  else .ok ()

open Json

/-- The shape of a tier group. -/
def tierShape : Shape :=
  let u32 : Shape × Need := (.unsigned Word.u32Max "u32", .required)
  .record "TierValues" [("fast", u32), ("medium", u32), ("slow", u32)]

/-- The shape of a configuration document. -/
def shape : Shape :=
  let u32 : Shape × Need := (.unsigned Word.u32Max "u32", .defaulted)
  let usize : Shape × Need := (.unsigned Word.u64Max "usize", .defaulted)
  let f64 : Shape × Need := (.float, .defaulted)
  .record "TrackingConfig"
    [("confidence_threshold", (.unsigned Word.u16Max "u16", .defaulted)),
     ("max_faces", usize), ("leap", u32), ("low_fps_leap", u32), ("low_fps_threshold", f64),
     ("smoothing_capacity", usize), ("decision_threshold", u32), ("fps_window", usize),
     ("fast_fps_threshold", f64), ("medium_fps_threshold", f64),
     ("zoom_tier_steps", (tierShape, .defaulted)), ("pan_tilt_tier_frames", (tierShape, .defaulted)),
     ("max_pan_step", (.signed Word.i32Min Word.i32Max "i32", .defaulted)),
     ("face_frame_ratio", f64), ("max_zoom", f64), ("overlay_flag_path", (.path, .defaulted)),
     ("widest_face_flag_path", (.path, .defaulted))]

/-- A tier group from its checked record, or the default. -/
def tiersOf (r : Value) (key : String) (d : TierValues) : TierValues :=
  match r.get? key with
  | some t =>
    let n := fun k => ((t.get? k).bind Value.asNat?).getD 0
    ⟨n "fast", n "medium", n "slow"⟩
  | none => d

/-- The configuration a checked record gives, the settings it leaves out at their defaults. -/
def ofRecord (r : Value) : TrackingConfig :=
  let d : TrackingConfig := {}
  let n := fun (k : String) (dv : Nat) => ((r.get? k).bind Value.asNat?).getD dv
  let f := fun (k : String) (dv : Float) => ((r.get? k).bind Value.asFloat?).getD dv
  let s := fun (k : String) (dv : String) => ((r.get? k).bind Value.asString?).getD dv
  { confidenceThreshold := n "confidence_threshold" d.confidenceThreshold
    maxFaces := n "max_faces" d.maxFaces
    leap := n "leap" d.leap
    lowFpsLeap := n "low_fps_leap" d.lowFpsLeap
    lowFpsThreshold := f "low_fps_threshold" d.lowFpsThreshold
    smoothingCapacity := n "smoothing_capacity" d.smoothingCapacity
    decisionThreshold := n "decision_threshold" d.decisionThreshold
    fpsWindow := n "fps_window" d.fpsWindow
    fastFpsThreshold := f "fast_fps_threshold" d.fastFpsThreshold
    mediumFpsThreshold := f "medium_fps_threshold" d.mediumFpsThreshold
    zoomTierSteps := tiersOf r "zoom_tier_steps" d.zoomTierSteps
    panTiltTierFrames := tiersOf r "pan_tilt_tier_frames" d.panTiltTierFrames
    maxPanStep := ((r.get? "max_pan_step").bind Value.asInt?).getD d.maxPanStep
    faceFrameRatio := f "face_frame_ratio" d.faceFrameRatio
    maxZoom := f "max_zoom" d.maxZoom
    overlayFlagPath := s "overlay_flag_path" d.overlayFlagPath
    widestFaceFlagPath := s "widest_face_flag_path" d.widestFaceFlagPath }

/-- Reads a configuration from JSON text; faults are placed in the text. -/
def ofText (text : String) : Except Json.Error TrackingConfig :=
  (readDocument shape text.toUTF8.toList).map ofRecord

/-- Reads a configuration from a JSON value; faults carry no place. -/
def ofValue (v : Value) : Except Json.Error TrackingConfig :=
  match conformValue shape v with
  | .ok r => .ok (ofRecord r)
  | .error f => .error { fault := f }

/-- A tier group as JSON. -/
def tiersValue (t : TierValues) : Value :=
  .obj [("fast", .ofNat t.fast), ("medium", .ofNat t.medium), ("slow", .ofNat t.slow)]

/-- The settings as JSON, under their snake-case names, in declaration order; the two switch paths
only when `withPaths` is set. -/
def toValue (c : TrackingConfig) (withPaths : Bool := true) : Value :=
  let core : List (String × Value) :=
    [("confidence_threshold", .ofNat c.confidenceThreshold), ("max_faces", .ofNat c.maxFaces),
     ("leap", .ofNat c.leap), ("low_fps_leap", .ofNat c.lowFpsLeap),
     ("low_fps_threshold", .ofFloat c.lowFpsThreshold),
     ("smoothing_capacity", .ofNat c.smoothingCapacity),
     ("decision_threshold", .ofNat c.decisionThreshold), ("fps_window", .ofNat c.fpsWindow),
     ("fast_fps_threshold", .ofFloat c.fastFpsThreshold),
     ("medium_fps_threshold", .ofFloat c.mediumFpsThreshold),
     ("zoom_tier_steps", tiersValue c.zoomTierSteps),
     ("pan_tilt_tier_frames", tiersValue c.panTiltTierFrames),
     ("max_pan_step", .ofInt c.maxPanStep), ("face_frame_ratio", .ofFloat c.faceFrameRatio),
     ("max_zoom", .ofFloat c.maxZoom)]
  let paths : List (String × Value) :=
    [("overlay_flag_path", .str c.overlayFlagPath),
     ("widest_face_flag_path", .str c.widestFaceFlagPath)]
  .obj (if withPaths then core ++ paths else core)

end TrackingConfig

end FaceFraming
