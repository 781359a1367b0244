import FaceFraming.Config.Tracking
import FaceFraming.Replay.Settings
import FaceFraming.Text.Numeral

/-!
# Settings from environment variables

Both the tracking configuration and the replay settings can be taken from environment variables.
A variable that is unset or does not read as its setting's type leaves the default. The tracking
settings are `AUTOPTZ_CONFIDENCE_THRESHOLD`, `AUTOPTZ_MAX_FACES`, `AUTOPTZ_LEAP`,
`AUTOPTZ_LOW_FPS_LEAP`, `AUTOPTZ_LOW_FPS_THRESHOLD`, `AUTOPTZ_SMOOTHING_WINDOW`,
`AUTOPTZ_DECISION_THRESHOLD`, `AUTOPTZ_FPS_WINDOW`, `AUTOPTZ_MAX_PAN_STEP`,
`AUTOPTZ_FACE_FRAME_RATIO` and `AUTOPTZ_MAX_ZOOM`, with the two switch paths taken as they are from
`AUTOPTZ_OVERLAY_FLAG` and `AUTOPTZ_WIDEST_FACE_FLAG`; the tier settings have no variable. The
replay settings are `REPLAY_FPS` (kept only above zero), `REPLAY_WIDTH`, `REPLAY_HEIGHT`,
`REPLAY_CHANGES_ONLY` (on for `1` or `true` in any case, off for anything else) and
`REPLAY_LAYOUT`.
-/

namespace FaceFraming

open Numeral

/-- The names of the variables the settings are read from. -/
def settingVariables : List String :=
  ["AUTOPTZ_CONFIDENCE_THRESHOLD", "AUTOPTZ_MAX_FACES", "AUTOPTZ_LEAP", "AUTOPTZ_LOW_FPS_LEAP",
   "AUTOPTZ_LOW_FPS_THRESHOLD", "AUTOPTZ_SMOOTHING_WINDOW", "AUTOPTZ_DECISION_THRESHOLD",
   "AUTOPTZ_FPS_WINDOW", "AUTOPTZ_MAX_PAN_STEP", "AUTOPTZ_FACE_FRAME_RATIO", "AUTOPTZ_MAX_ZOOM",
   "AUTOPTZ_OVERLAY_FLAG", "AUTOPTZ_WIDEST_FACE_FLAG", "REPLAY_FPS", "REPLAY_WIDTH",
   "REPLAY_HEIGHT", "REPLAY_CHANGES_ONLY", "REPLAY_LAYOUT"]

/-- A natural setting no larger than `hi`, or the default. -/
def naturalOr (env : String → Option String) (key : String) (hi d : Nat) : Nat :=
  match (env key).map (parseNatural hi) with
  | some (.ok n) => n
  | _ => d

/-- A decimal setting, or the default. -/
def decimalOr (env : String → Option String) (key : String) (d : Float) : Float :=
  ((env key).bind parseDecimal?).getD d

/-- The tracking configuration the environment gives. -/
def TrackingConfig.ofEnv (env : String → Option String) : TrackingConfig :=
  let d : TrackingConfig := {}
  { d with
    confidenceThreshold := naturalOr env "AUTOPTZ_CONFIDENCE_THRESHOLD" Word.u16Max d.confidenceThreshold
    maxFaces := naturalOr env "AUTOPTZ_MAX_FACES" Word.u64Max d.maxFaces
    leap := naturalOr env "AUTOPTZ_LEAP" Word.u32Max d.leap
    lowFpsLeap := naturalOr env "AUTOPTZ_LOW_FPS_LEAP" Word.u32Max d.lowFpsLeap
    lowFpsThreshold := decimalOr env "AUTOPTZ_LOW_FPS_THRESHOLD" d.lowFpsThreshold
    smoothingCapacity := naturalOr env "AUTOPTZ_SMOOTHING_WINDOW" Word.u64Max d.smoothingCapacity
    decisionThreshold := naturalOr env "AUTOPTZ_DECISION_THRESHOLD" Word.u32Max d.decisionThreshold
    fpsWindow := naturalOr env "AUTOPTZ_FPS_WINDOW" Word.u64Max d.fpsWindow
    maxPanStep := match (env "AUTOPTZ_MAX_PAN_STEP").map (parseInteger Word.i32Min Word.i32Max) with
      | some (.ok i) => i
      | _ => d.maxPanStep
    faceFrameRatio := decimalOr env "AUTOPTZ_FACE_FRAME_RATIO" d.faceFrameRatio
    maxZoom := decimalOr env "AUTOPTZ_MAX_ZOOM" d.maxZoom
    overlayFlagPath := (env "AUTOPTZ_OVERLAY_FLAG").getD d.overlayFlagPath
    widestFaceFlagPath := (env "AUTOPTZ_WIDEST_FACE_FLAG").getD d.widestFaceFlagPath }

/-- The replay settings the environment gives. -/
def ReplaySettings.ofEnv (env : String → Option String) : ReplaySettings :=
  let d : ReplaySettings := {}
  { defaultFps := match (env "REPLAY_FPS").bind parseDecimal? with
      | some f => if f > 0.0 then f else d.defaultFps
      | none => d.defaultFps
    frameWidth := naturalOr env "REPLAY_WIDTH" Word.u32Max d.frameWidth
    frameHeight := naturalOr env "REPLAY_HEIGHT" Word.u32Max d.frameHeight
    changesOnly := match env "REPLAY_CHANGES_ONLY" with
      | some v => v = "1" ∨ v.toLower = "true"
      | none => d.changesOnly
    layout := match (env "REPLAY_LAYOUT").map PixelLayout.parse with
      | some (.ok l) => l
      | _ => d.layout }

end FaceFraming
