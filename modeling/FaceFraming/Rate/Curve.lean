import FaceFraming.Double.Nearest

/-!
# Zoom curves

A zoom curve tells how far along the zoom is at each level `0 … steps` (at least one step). It
eases in and out: with `n = steps` and `t = level / n`, the value is `n · t · t · (3 - 2t)`
(smoothstep scaled to `[0, n]`), computed in doubles in that order. Levels past the last read the
last value.
-/

namespace FaceFraming

/-- An eased zoom curve over `steps` levels. -/
structure ZoomCurve where
  /-- The number of steps, at least one. -/
  steps : Nat
  deriving Repr, DecidableEq

namespace ZoomCurve

/-- The curve over the given number of steps, raised to one. -/
def eased (steps : Nat) : ZoomCurve :=
  ⟨max steps 1⟩

/-- The highest level. -/
def maxLevel (c : ZoomCurve) : Nat :=
  c.steps

/-- The curve's value at a level of `0 … steps`. -/
def ease (c : ZoomCurve) (level : Nat) : Float :=
  let n := Double.ofNat c.steps
  let t := Double.ofNat level / n
  n * t * t * (3.0 - 2.0 * t)

/-- The value at a level, levels past the last reading the last. -/
def value (c : ZoomCurve) (level : Nat) : Float :=
  c.ease (min level c.steps)

/-- The values at every level. -/
def values (c : ZoomCurve) : List Float :=
  (List.range (c.steps + 1)).map c.ease

end ZoomCurve

end FaceFraming
