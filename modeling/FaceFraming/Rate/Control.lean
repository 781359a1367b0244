import FaceFraming.Rate.Estimator
import FaceFraming.Rate.Tier
import FaceFraming.Rate.Curve
import FaceFraming.Config.Tracking

/-!
# Rate control

The rate control measures the frame rate and turns it into two tiers, one for zooming and one for
panning, which pick how many zoom steps and how many pan frames a move takes. Both tiers start
fast. A tier is only revised when asked (`refreshZoom`, `refreshPan`), and only when a rate can be
measured; otherwise it keeps its last value.
-/

namespace FaceFraming

/-- Frame-rate measurement with the zoom and pan tiers it has settled on. -/
structure RateControl where
  /-- The frame timestamps measured. -/
  estimator : RateEstimator
  /-- Zoom steps per tier. -/
  zoomSteps : TierValues
  /-- Pan frames per tier. -/
  panFrames : TierValues
  /-- At or above this rate the fast tier applies. -/
  fastThreshold : Float
  /-- At or above this rate the medium tier applies. -/
  mediumThreshold : Float
  /-- The tier zooms use. -/
  zoomTier : Tier := .fast
  /-- The tier pans use. -/
  panTier : Tier := .fast

namespace RateControl

/-- The rate control a configuration sets up, both tiers fast. -/
def create (c : TrackingConfig) : RateControl where
  estimator := RateEstimator.create c.fpsWindow
  zoomSteps := c.zoomTierSteps
  panFrames := c.panTiltTierFrames
  fastThreshold := c.fastFpsThreshold
  mediumThreshold := c.mediumFpsThreshold

/-- Records a frame's timestamp. -/
def push (r : RateControl) (ms : Nat) : RateControl :=
  { r with estimator := r.estimator.push ms }

/-- The measured rate, if any. -/
def fps? (r : RateControl) : Option Float :=
  r.estimator.fps?

/-- The tier the measured rate falls in, or the given one when there is no rate. -/
def tierOr (r : RateControl) (keep : Tier) : Tier :=
  match r.fps? with
  | some fps => Tier.ofFps fps r.fastThreshold r.mediumThreshold
  | none => keep

/-- Revises the zoom tier from the measured rate. -/
def refreshZoom (r : RateControl) : RateControl :=
  { r with zoomTier := r.tierOr r.zoomTier }

/-- Revises the pan tier from the measured rate. -/
def refreshPan (r : RateControl) : RateControl :=
  { r with panTier := r.tierOr r.panTier }

/-- The zoom curve of the current zoom tier. -/
def zoomCurve (r : RateControl) : ZoomCurve :=
  ZoomCurve.eased (r.zoomTier.pick r.zoomSteps)

/-- The frames a pan takes in the current pan tier. -/
def panFramesNow (r : RateControl) : Nat :=
  r.panTier.pick r.panFrames

end RateControl

end FaceFraming
