import FaceFraming.Framing.Planner
import Mathlib.Tactic.SplitIfs

/-!
# Runs of the crop planner

The planner is driven by three calls (`PlannerCall`): `plan` with a target or none, `recordFrame`
with a timestamp, and `resize` with a new frame size, where a refused size leaves the planner as it
was. `Planner.Reachable c p` says that `p` is what some sequence of calls makes of a planner
created for the configuration `c`; the invariants of the modules that follow are proved of every
reachable planner by induction on that sequence.

The lemmas here say once what each operation does, so that no later proof opens it:

* one equation for each branch of each phase (`planNormal_none_of_zero`, `planNormal_some`,
  `planZoomIn_of_ne`, `planPan_eq`, `planZoomOut_eq`, ...), in which the phase reached is a field
  of the planner returned;
* `plan` keeps the frame size and the zoom-step table and reports the crop it leaves behind
  (`plan_width`, `plan_zoomSteps`, `plan_decision_crop`);
* a reachable planner has a frame of positive size and the zoom-step table of its configuration
  (`Reachable.size_pos`, `Reachable.zoomSteps`).
-/

namespace FaceFraming

/-- A call on the crop planner. -/
inductive PlannerCall where
  /-- Plans the next frame, with the target if there is one. -/
  | plan (target : Option Target)
  /-- Records the timestamp of a frame. -/
  | recordFrame (ms : Nat)
  /-- Switches to a new frame size. -/
  | resize (width height : Nat)
  deriving Repr, DecidableEq

namespace Planner

/-- The planner after a call; a refused resize leaves it as it was. -/
def step (p : Planner) : PlannerCall → Planner
  | .plan target => (p.plan target).2
  | .recordFrame ms => p.recordFrame ms
  | .resize width height =>
    match p.resize width height with
    | .ok q => q
    | .error _ => p

/-- The planners that some sequence of calls makes of a planner created for `c`. -/
inductive Reachable (c : TrackingConfig) : Planner → Prop
  /-- A planner just created. -/
  | create {width height : Nat} {p : Planner} : create c width height = .ok p → Reachable c p
  /-- One more call. -/
  | step {p : Planner} (call : PlannerCall) : Reachable c p → Reachable c (p.step call)

/-! ### Creating and resizing -/

/-- A created planner: a frame of positive size, unzoomed, aimed at the origin, cutting nothing. -/
theorem create_eq {c : TrackingConfig} {width height : Nat} {p : Planner}
    (h : create c width height = .ok p) :
    0 < width ∧ 0 < height ∧
      p = { width, height, maxPanStep := c.maxPanStep, faceFrameRatio := c.faceFrameRatio,
            maxZoom := c.maxZoom, rate := RateControl.create c } := by
  unfold create at h
  split_ifs at h with hz
  cases h
  exact ⟨by omega, by omega, rfl⟩

/-- A resize that is not refused either keeps the planner (same size) or starts over unzoomed at
the new, positive size, keeping the rate and the tiers. -/
theorem resize_eq {p q : Planner} {width height : Nat} (h : p.resize width height = .ok q) :
    0 < width ∧ 0 < height ∧
      (q = p ∨
        q = { p with width, height, phase := .normal, zoomLevel := 0, center := ⟨0, 0⟩,
                     zoomStep := (0.0, 0.0), pan := {}, crop := Crop.identity }) := by
  unfold resize at h
  split_ifs at h with hz hs
  · cases h
    exact ⟨by omega, by omega, Or.inl rfl⟩
  · cases h
    exact ⟨by omega, by omega, Or.inr rfl⟩

@[simp] theorem step_plan (p : Planner) (t : Option Target) : p.step (.plan t) = (p.plan t).2 :=
  rfl

@[simp] theorem step_recordFrame (p : Planner) (ms : Nat) :
    p.step (.recordFrame ms) = { p with rate := p.rate.push ms } :=
  rfl

/-- A resize call leaves the planner as it was, or starts over unzoomed at a new positive size. -/
theorem step_resize (p : Planner) (width height : Nat) :
    p.step (.resize width height) = p ∨
      0 < width ∧ 0 < height ∧
        p.step (.resize width height) =
          { p with width, height, phase := .normal, zoomLevel := 0, center := ⟨0, 0⟩,
                   zoomStep := (0.0, 0.0), pan := {}, crop := Crop.identity } := by
  rcases hr : p.resize width height with e | q
  · exact Or.inl (by simp [step, hr])
  · obtain ⟨hw, hh, rfl | rfl⟩ := resize_eq hr
    · exact Or.inl (by simp [step, hr])
    · exact Or.inr ⟨hw, hh, by simp [step, hr]⟩

/-! ### One equation per branch of `plan` -/

@[simp] theorem takeZoomTier_eq (p : Planner) :
    p.takeZoomTier = { p with rate := p.rate.refreshZoom, zoomTier := p.rate.refreshZoom.zoomTier } :=
  rfl

@[simp] theorem recompute_eq (p : Planner) :
    p.recompute = (⟨p.placedCrop, true⟩, { p with crop := p.placedCrop }) :=
  rfl

variable (p : Planner)

theorem planNormal_none_of_zero (h : p.zoomLevel = 0) :
    p.planNormal none = (⟨p.crop, false⟩, p.takeZoomTier) := by
  simp [planNormal, h, unchanged]

theorem planNormal_none_of_pos (h : 0 < p.zoomLevel) :
    p.planNormal none = (⟨p.crop, false⟩, { p with phase := .zoomOut }) := by
  simp [planNormal, Nat.pos_iff_ne_zero.mp h, h, unchanged]

/-- In `normal` with a target, the planner (its zoom tier revised first when unzoomed) aims at the
target, takes one zoom level more, up to the top of the curve, and recomputes the crop; reaching the
top it enters `zoomIn`. -/
theorem planNormal_some (t : Target) :
    p.planNormal (some t) =
      let q := if p.zoomLevel = 0 then p.takeZoomTier else p
      let top := q.rate.zoomCurve.maxLevel
      let r := { q with center := t.center, zoomStep := q.zoomStepFor t top,
                        zoomLevel := min (q.zoomLevel + 1) top }
      (⟨r.placedCrop, true⟩,
        if r.zoomLevel = top then { r with crop := r.placedCrop, phase := .zoomIn }
        else { r with crop := r.placedCrop }) :=
  rfl

theorem planZoomIn_none : p.planZoomIn none = (⟨p.crop, false⟩, { p with phase := .zoomOut }) :=
  rfl

theorem planZoomIn_of_eq {t : Target} (h : t.center = p.center) :
    p.planZoomIn (some t) = (⟨p.crop, false⟩, p) := by
  simp [planZoomIn, h, unchanged]

/-- In `zoomIn`, a target elsewhere starts a pan from the aim point toward it, each axis moved by
the saturated difference clamped to `maxPanStep`, over the frames of the revised pan tier. -/
theorem planZoomIn_of_ne {t : Target} (h : t.center ≠ p.center) :
    p.planZoomIn (some t) =
      let limit := max p.maxPanStep 0
      let rate := p.rate.refreshPan
      (⟨p.crop, false⟩,
        { p with rate, panTier := rate.panTier, phase := .panAndTilt,
                 pan := { start := p.center,
                          finish := ⟨p.center.x + Word.clampInt (-limit) limit
                                        (Word.subSat32 t.center.x p.center.x),
                                      p.center.y + Word.clampInt (-limit) limit
                                        (Word.subSat32 t.center.y p.center.y)⟩,
                          duration := rate.panFramesNow, step := 0 } }) := by
  simp [planZoomIn, h, unchanged]

/-- In `panAndTilt` the pan takes one more frame, the aim point follows it and the crop is
recomputed; a finished pan returns to `zoomIn`. -/
theorem planPan_eq :
    p.planPan =
      let q := { p with pan := p.pan.advance, center := p.pan.advance.position }
      (⟨q.placedCrop, true⟩,
        if p.pan.advance.isDone then { q with crop := q.placedCrop, phase := .zoomIn }
        else { q with crop := q.placedCrop }) :=
  rfl

/-- In `zoomOut` the planner drops one level and recomputes the crop; at level zero it returns to
`normal` and revises its zoom tier. -/
theorem planZoomOut_eq :
    p.planZoomOut =
      let q := { p with zoomLevel := p.zoomLevel - 1 }
      (⟨q.placedCrop, true⟩,
        if p.zoomLevel - 1 = 0 then { q with crop := q.placedCrop, phase := .normal }.takeZoomTier
        else { q with crop := q.placedCrop }) :=
  rfl

/-! ### What every plan keeps -/

/-- Planning keeps the frame size, the zoom-step and pan-frame tables and the pan limit, and
reports as its decision the crop the planner is left with. -/
theorem plan_keeps (t : Option Target) :
    (p.plan t).2.width = p.width ∧ (p.plan t).2.height = p.height ∧
      (p.plan t).2.rate.zoomSteps = p.rate.zoomSteps ∧
      (p.plan t).2.rate.panFrames = p.rate.panFrames ∧ (p.plan t).2.maxPanStep = p.maxPanStep ∧
      (p.plan t).1.crop = (p.plan t).2.crop := by
  unfold plan
  split
  · cases t with
    | none =>
      rcases Nat.eq_zero_or_pos p.zoomLevel with h | h
      · simp [planNormal_none_of_zero p h, RateControl.refreshZoom]
      · simp [planNormal_none_of_pos p h]
    | some t =>
      rw [planNormal_some]
      dsimp only
      split_ifs <;> simp [RateControl.refreshZoom]
  · cases t with
    | none => simp [planZoomIn_none]
    | some t =>
      by_cases h : t.center = p.center
      · simp [planZoomIn_of_eq p h]
      · simp [planZoomIn_of_ne p h, RateControl.refreshPan]
  · rw [planPan_eq]
    split_ifs <;> simp
  · rw [planZoomOut_eq]
    split_ifs <;> simp [RateControl.refreshZoom]

@[simp] theorem plan_width (t : Option Target) : (p.plan t).2.width = p.width :=
  (p.plan_keeps t).1

@[simp] theorem plan_height (t : Option Target) : (p.plan t).2.height = p.height :=
  (p.plan_keeps t).2.1

@[simp] theorem plan_zoomSteps (t : Option Target) :
    (p.plan t).2.rate.zoomSteps = p.rate.zoomSteps :=
  (p.plan_keeps t).2.2.1

@[simp] theorem plan_panFrames (t : Option Target) :
    (p.plan t).2.rate.panFrames = p.rate.panFrames :=
  (p.plan_keeps t).2.2.2.1

@[simp] theorem plan_maxPanStep (t : Option Target) : (p.plan t).2.maxPanStep = p.maxPanStep :=
  (p.plan_keeps t).2.2.2.2.1

theorem plan_decision_crop (t : Option Target) : (p.plan t).1.crop = (p.plan t).2.crop :=
  (p.plan_keeps t).2.2.2.2.2

/-! ### Reachable planners -/

/-- The planner after a sequence of calls. -/
def run (p : Planner) (calls : List PlannerCall) : Planner :=
  calls.foldl step p

@[simp] theorem run_nil : p.run [] = p := rfl

@[simp] theorem run_cons (call : PlannerCall) (calls : List PlannerCall) :
    p.run (call :: calls) = (p.step call).run calls := rfl

/-- A reachable planner stays reachable along any sequence of calls. -/
theorem Reachable.run {c : TrackingConfig} {p : Planner} (h : Reachable c p)
    (calls : List PlannerCall) : Reachable c (p.run calls) := by
  induction calls generalizing p with
  | nil => exact h
  | cons call calls ih => exact ih (h.step call)

/-- A reachable planner keeps the zoom-step table of its configuration. -/
theorem Reachable.zoomSteps {c : TrackingConfig} {p : Planner} (h : Reachable c p) :
    p.rate.zoomSteps = c.zoomTierSteps := by
  induction h with
  | create hc =>
    obtain ⟨-, -, rfl⟩ := create_eq hc
    rfl
  | step call _ ih =>
    cases call with
    | plan t => simpa using ih
    | recordFrame ms => exact ih
    | resize width height =>
      rcases step_resize _ width height with h | ⟨-, -, h⟩
      · rw [h]
        exact ih
      · rw [h]
        exact ih

/-- A reachable planner has a frame of positive size: creation and resizing refuse an empty one. -/
theorem Reachable.size_pos {c : TrackingConfig} {p : Planner} (h : Reachable c p) :
    0 < p.width ∧ 0 < p.height := by
  induction h with
  | create hc =>
    obtain ⟨hw, hh, rfl⟩ := create_eq hc
    exact ⟨hw, hh⟩
  | step call _ ih =>
    cases call with
    | plan t => simpa using ih
    | recordFrame ms => exact ih
    | resize width height =>
      rcases step_resize _ width height with h | ⟨hw, hh, h⟩
      · rw [h]
        exact ih
      · rw [h]
        exact ⟨hw, hh⟩

end Planner

end FaceFraming
