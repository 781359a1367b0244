/-!
# Rate tiers

The measured frame rate puts the engine in one of three tiers: `fast` at or above the fast
threshold, `medium` at or above the medium one, `slow` below (and for a NaN rate). Quantities that
depend on the rate, like the number of zoom steps or the frames a pan takes, are given per tier as
`TierValues`.
-/

namespace FaceFraming

/-- A frame-rate tier. -/
inductive Tier where
  | fast
  | medium
  | slow
  deriving Repr, DecidableEq, Inhabited

/-- One natural number per tier. -/
structure TierValues where
  /-- For the fast tier. -/
  fast : Nat
  /-- For the medium tier. -/
  medium : Nat
  /-- For the slow tier. -/
  slow : Nat
  deriving Repr, DecidableEq

namespace Tier

/-- The written name of a tier. -/
def name : Tier → String
  | .fast => "fast"
  | .medium => "medium"
  | .slow => "slow"

/-- The tier of a frame rate. -/
def ofFps (fps fastThreshold mediumThreshold : Float) : Tier :=
  if fps ≥ fastThreshold then .fast
  else if fps ≥ mediumThreshold then .medium
  else .slow

/-- A tier's value. -/
def pick : Tier → TierValues → Nat
  | .fast, v => v.fast
  | .medium, v => v.medium
  | .slow, v => v.slow

end Tier

/-- Some value is zero. -/
def TierValues.anyZero (v : TierValues) : Bool :=
  v.fast = 0 || v.medium = 0 || v.slow = 0

end FaceFraming
