import FaceFraming.Geometry.Crop

/-!
# Pan moves

A pan moves the aim point in a straight line from `start` to `finish` over `duration` frames. After
`step` frames the aim point is the start plus that fraction of the way, each coordinate rounded
toward zero (a duration of zero counts as one). A pan is done once `step` reaches `duration`.
-/

namespace FaceFraming

/-- A straight move of the aim point, frame by frame. -/
structure PanMove where
  /-- Where the move starts. -/
  start : Point := ⟨0, 0⟩
  /-- Where the move ends. -/
  finish : Point := ⟨0, 0⟩
  /-- Frames the move takes. -/
  duration : Nat := 0
  /-- Frames of the move taken so far. -/
  step : Nat := 0
  deriving Repr, DecidableEq, Inhabited

namespace PanMove

/-- The point a fraction `step / duration` of the way from `a` to `b`, rounded toward zero. -/
def between (a b : Int) (step duration : Nat) : Int :=
  a + ((b - a) * step).tdiv duration

/-- The aim point after the frames taken. -/
def position (m : PanMove) : Point :=
  let d := max m.duration 1
  let s := min m.step m.duration
  ⟨between m.start.x m.finish.x s d, between m.start.y m.finish.y s d⟩

/-- Whether the move has taken all its frames. -/
def isDone (m : PanMove) : Bool :=
  m.duration ≤ m.step

/-- The move one frame further. -/
def advance (m : PanMove) : PanMove :=
  { m with step := m.step + 1 }

/-- No step taken is the start. -/
@[simp] theorem between_zero (a b : Int) (duration : Nat) : between a b 0 duration = a := by
  simp [between]

/-- Every step of a positive duration taken is the end. -/
theorem between_self (a b : Int) {duration : Nat} (h : 0 < duration) :
    between a b duration duration = b := by
  have hd : (duration : Int) ≠ 0 := by omega
  simp only [between, Int.mul_tdiv_cancel _ hd]
  omega

/-- A finished move of positive duration stands at its end. -/
theorem position_of_isDone {m : PanMove} (h : 0 < m.duration) (hd : m.isDone = true) :
    m.position = m.finish := by
  simp only [isDone, decide_eq_true_eq] at hd
  have hs : min m.step m.duration = m.duration := by omega
  have hm : max m.duration 1 = m.duration := by omega
  simp only [position, hs, hm, between_self _ _ h]

end PanMove

end FaceFraming
