import FaceFraming.Double.Nearest

/-!
# Estimating the frame rate

The estimator keeps the timestamps (in milliseconds) of the last `capacity` frames, at least two.
The rate is the number of kept frames per second over the span from the oldest to the newest:
`len · 1000 / span`, with the span measured as whole seconds plus nanoseconds (a span that would be
negative counts as zero). With fewer than two frames, or no time between the first and the last,
there is no rate.

Time is kept as whole milliseconds from an arbitrary start, where the program reads a monotonic
clock of nanosecond resolution. Every instant the library is given is such a millisecond count (the
replayer's frame times and the timestamps of `update`), so nothing is lost for them; an instant
between two milliseconds, which only a live clock gives, is outside this model.
-/

namespace FaceFraming

/-- The timestamps of the last frames. -/
structure RateEstimator where
  /-- How many timestamps are kept, at least two. -/
  capacity : Nat
  /-- The kept timestamps, oldest first. -/
  samples : List Nat := []
  deriving Repr, DecidableEq

namespace RateEstimator

/-- An empty estimator; a capacity below two is raised to two. -/
def create (capacity : Nat) : RateEstimator :=
  { capacity := max capacity 2 }

/-- Records a frame's timestamp, forgetting the oldest when full. -/
def push (e : RateEstimator) (ms : Nat) : RateEstimator :=
  let kept := if e.samples.length = e.capacity then e.samples.drop 1 else e.samples
  { e with samples := kept ++ [ms] }

/-- The span between two timestamps in milliseconds, as a double: whole seconds plus nanoseconds,
negative spans counting as zero. -/
def spanMillis (first last : Nat) : Float :=
  let d := last - first
  (Double.ofNat (d / 1000) + Double.ofNat (d % 1000 * 1000000) / 1e9) * 1000.0

/-- Frames per second over the kept timestamps. -/
def fps? (e : RateEstimator) : Option Float :=
  match e.samples, e.samples.getLast? with
  | first :: _ :: _, some last =>
    let span := spanMillis first last
    if span ≤ 0 then none else some (Double.ofNat e.samples.length * 1000.0 / span)
  | _, _ => none

end RateEstimator

end FaceFraming
