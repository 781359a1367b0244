import FaceFraming.Tracking.Tracker
import FaceFraming.Proofs.Planner.Settling
import FaceFraming.Proofs.Smoothing.Gate

/-!
# Runs of the tracker

The tracker is driven by three calls (`TrackerCall`): `update` with a frame's detection document,
size and time; `take`, which hands out a changed crop; and `drawOverlay`, which only reads the
tracker. `Tracker.Run cfg sw t h` says that some sequence of calls takes the tracker created for
the configuration `cfg` and the switches `sw` to `t`, and records on the way the frames with both
dimensions, newest first (`Shown`): the faces read, the face framed, the size, and whether the
smoother let the frame revise the target. A frame without a dimension is passed over and not
recorded; every other frame is (`plannerFor_eq_none_iff`).

An update is cut into the steps the tracker takes (`update_of_plannerFor`): the planner is made or
reset for the frame size (`plannerFor_some`), the frame is read (`readFrame`), the target revised
(`retarget_eq`) and the next crop planned (`planFrame`). The invariants proved here, by induction
on the run: the configuration and the switches stay (`Run.config`); the planner is absent before
the first recorded frame and afterwards reachable for the configuration and sized for the newest
recorded frame (`Run.plannerFits`); the smoother is driven by the calls of `Smoother.Run`
(`Run.smootherRun`). Every sequence of calls gives a run, with the frames `recordRun` lists
(`Run.run_recorded`).
-/

namespace FaceFraming

/-- A call on the tracker. -/
inductive TrackerCall where
  /-- A frame: its detection document, its size and its time in milliseconds. -/
  | update (document : List UInt8) (width height ms : Nat)
  /-- Hands out the crop if it changed. -/
  | take
  /-- Draws the faces onto a frame; the tracker is only read. -/
  | drawOverlay (frame : FrameBuffer)

/-- A frame with both dimensions, as the tracker met it when revising its target. -/
structure Shown where
  /-- The faces read from its document. -/
  faces : List FaceBox
  /-- The face framed: the tracked one, or the whole frame when no face is seen. -/
  face : FaceBox
  /-- Its width. -/
  width : Nat
  /-- Its height. -/
  height : Nat
  /-- Whether the smoother let it revise the target. -/
  accepted : Bool

/-- The crop an accepted frame adds to the window: the crop that leaves its face visible in a frame
of its size. -/
def Shown.crop (f : Shown) : Crop :=
  Crop.around f.face f.width f.height

namespace Tracker

/-- The tracker after a call. -/
def step (t : Tracker) : TrackerCall → Tracker
  | .update document width height ms => t.update document width height ms
  | .take => t.take.2
  | .drawOverlay _ => t

/-- The tracker after a sequence of calls. -/
def run (t : Tracker) (calls : List TrackerCall) : Tracker :=
  calls.foldl step t

@[simp] theorem run_nil (t : Tracker) : t.run [] = t := rfl

@[simp] theorem run_cons (t : Tracker) (call : TrackerCall) (calls : List TrackerCall) :
    t.run (call :: calls) = (t.step call).run calls := rfl

theorem run_append (t : Tracker) (calls₁ calls₂ : List TrackerCall) :
    t.run (calls₁ ++ calls₂) = (t.run calls₁).run calls₂ :=
  List.foldl_append

/-! ### The steps of an update -/

/-- A frame read by a tracker whose planner `p` has recorded it: the leap follows the measured rate
and the faces are those of the document. -/
def readFrame (t : Tracker) (p : Planner) (document : List UInt8) : Tracker :=
  let read := Detection.readFaces? document t.config.confidenceThreshold t.config.maxFaces
  let tally := { t.tally with
    fps := p.fps?.orElse fun _ => t.tally.fps
    unreadable := t.tally.unreadable + (if read.isNone then 1 else 0) }
  { t with smoother := t.smoother.adaptLeap p.fps?, faces := read.getD [], tally }

/-- The planner `p` plans the frame toward the tracker's target and becomes its planner; a
recomputed crop marks the crop as changed. -/
def planFrame (t : Tracker) (p : Planner) : Tracker :=
  let (d, p') := p.plan t.target
  { t with planner := some p', dirty := t.dirty || d.changed,
           tally := t.tally.notePlan p.phase p'.phase d.changed }

/-- The frame a tracker about to revise its target records. -/
def shown (t : Tracker) (width height : Nat) : Shown :=
  ⟨t.faces, t.select.getD (FaceBox.wholeFrame width height), width, height,
    (t.smoother.needsUpdate t.faces.length).1⟩

variable {t t₁ : Tracker} {p : Planner} {width height ms : Nat} {document : List UInt8}

/-- An update with a planner for the frame: read the frame, revise the target, plan. -/
theorem update_of_plannerFor (h : t.plannerFor width height = some (p, t₁)) :
    t.update document width height ms =
      ((t₁.readFrame (p.recordFrame ms) document).retarget width height).planFrame
        (p.recordFrame ms) := by
  simp only [update, h]
  rfl

theorem update_of_plannerFor_none (h : t.plannerFor width height = none) :
    t.update document width height ms = t := by
  simp only [update, h]

/-- Only a frame without a dimension gets no planner: creating and resizing refuse no other. -/
theorem plannerFor_eq_none_iff : t.plannerFor width height = none ↔ width = 0 ∨ height = 0 := by
  unfold plannerFor
  split_ifs with hz
  · simp [hz]
  · simp only [hz, iff_false]
    split
    · split_ifs
      · simp
      · simp only [Planner.resize, hz, if_false]
        split_ifs <;> simp
    · simp [Planner.create, hz]

/-- What `plannerFor` hands back for a frame: a planner of the frame's size, created for it when
the tracker had none and otherwise the tracker's own resized, with the tracker unchanged or, when
the size changed, with the target forgotten and the crop marked as changed. -/
theorem plannerFor_some (h : t.plannerFor width height = some (p, t₁)) :
    0 < width ∧ 0 < height ∧ p.width = width ∧ p.height = height ∧
      (t₁ = t ∧ p.crop = t.crop ∨ t₁ = { t with target := none, dirty := true }) ∧
      (t.planner = none → Planner.create t.config width height = .ok p) ∧
      (∀ q, t.planner = some q → p = q.step (.resize width height)) := by
  unfold plannerFor at h
  split_ifs at h with hz
  rcases hp : t.planner with _ | q
  · rw [hp] at h
    simp only at h
    split at h
    · next p' hc =>
      cases h
      obtain ⟨-, -, rfl⟩ := Planner.create_eq hc
      exact ⟨by omega, by omega, rfl, rfl, Or.inl ⟨rfl, by simp [crop, hp]⟩, (fun _ => hc),
        fun _ h => by cases h⟩
    · cases h
  · rw [hp] at h
    simp only at h
    split_ifs at h with hs
    · cases h
      have hstep : p.step (.resize width height) = p := by
        simp [Planner.step, Planner.resize, hz, hs]
      exact ⟨by omega, by omega, hs.1, hs.2, Or.inl ⟨rfl, by simp [crop, hp]⟩,
        (fun h => by cases h), fun q' h => by cases h; exact hstep.symm⟩
    · have hs' : ¬(width = q.width ∧ height = q.height) := fun h' => hs ⟨h'.1.symm, h'.2.symm⟩
      have hr : q.resize width height =
          .ok { q with width, height, phase := .normal, zoomLevel := 0, center := ⟨0, 0⟩,
                       zoomStep := (0.0, 0.0), pan := {}, crop := Crop.identity } := by
        simp only [Planner.resize, hz, hs', if_false]
      rw [hr] at h
      cases h
      exact ⟨by omega, by omega, rfl, rfl, Or.inr rfl, (fun h => by cases h),
        fun q' hq' => by cases hq'; simp [Planner.step, hr]⟩

/-- A tracker whose planner already has the frame's size keeps it and is left as it is. -/
theorem plannerFor_of_sized {q : Planner} (hw : 0 < width) (hh : 0 < height)
    (hq : t.planner = some q) (hs : q.width = width ∧ q.height = height) :
    t.plannerFor width height = some (q, t) := by
  unfold plannerFor
  rw [if_neg (by omega), hq]
  simp only [hs, and_self, if_true]

/-- The tracker that `plannerFor` hands back keeps the configuration, the switches and the
smoother. -/
theorem plannerFor_keeps (h : t.plannerFor width height = some (p, t₁)) :
    t₁.config = t.config ∧ t₁.switches = t.switches ∧ t₁.smoother = t.smoother := by
  obtain ⟨-, -, -, -, ht₁, -, -⟩ := plannerFor_some h
  rcases ht₁ with ⟨rfl, -⟩ | rfl <;> exact ⟨rfl, rfl, rfl⟩

/-! ### What each step changes -/

section Fields

variable (t : Tracker) (p : Planner) (document : List UInt8) (width height : Nat)

@[simp] theorem readFrame_smoother : (t.readFrame p document).smoother = t.smoother.adaptLeap p.fps? :=
  rfl

@[simp] theorem readFrame_faces :
    (t.readFrame p document).faces =
      Detection.readFaces document t.config.confidenceThreshold t.config.maxFaces :=
  rfl

@[simp] theorem readFrame_config : (t.readFrame p document).config = t.config := rfl

@[simp] theorem readFrame_switches : (t.readFrame p document).switches = t.switches := rfl

@[simp] theorem readFrame_planner : (t.readFrame p document).planner = t.planner := rfl

@[simp] theorem readFrame_target : (t.readFrame p document).target = t.target := rfl

@[simp] theorem readFrame_dirty : (t.readFrame p document).dirty = t.dirty := rfl

@[simp] theorem readFrame_applied : (t.readFrame p document).applied = t.applied := rfl

@[simp] theorem planFrame_planner : (t.planFrame p).planner = some (p.plan t.target).2 := rfl

@[simp] theorem planFrame_dirty : (t.planFrame p).dirty = (t.dirty || (p.plan t.target).1.changed) :=
  rfl

@[simp] theorem planFrame_smoother : (t.planFrame p).smoother = t.smoother := rfl

@[simp] theorem planFrame_faces : (t.planFrame p).faces = t.faces := rfl

@[simp] theorem planFrame_target : (t.planFrame p).target = t.target := rfl

@[simp] theorem planFrame_config : (t.planFrame p).config = t.config := rfl

@[simp] theorem planFrame_switches : (t.planFrame p).switches = t.switches := rfl

@[simp] theorem planFrame_applied : (t.planFrame p).applied = t.applied := rfl

/-- Revising the target: on a yes of the smoother, its window is restarted when faces appear or
vanish, the crop of the tracked face (the whole frame when there is none) is pushed, and the target
becomes the window's average, or nothing when no face is seen. -/
theorem retarget_eq :
    t.retarget width height =
      if (t.smoother.needsUpdate t.faces.length).1 then
        let s := (t.smoother.needsUpdate t.faces.length).2
        let s := if (t.smoother.selectedCount == 0) == t.faces.isEmpty then s else s.clearWindow
        let s := s.push (Crop.around (t.select.getD (FaceBox.wholeFrame width height)) width height)
        { t with smoother := s,
                 target := if t.faces.isEmpty then none else Target.ofCrop? s.average width height,
                 tally := { t.tally with targetUpdates := t.tally.targetUpdates + 1 } }
      else { t with smoother := (t.smoother.needsUpdate t.faces.length).2 } := by
  unfold retarget
  split_ifs <;> simp_all

/-- The smoother after revising the target: counted, and on a yes restarted when faces appear or
vanish and given the crop of the tracked face. -/
theorem retarget_smoother :
    (t.retarget width height).smoother =
      if (t.smoother.needsUpdate t.faces.length).1 then
        (if (t.smoother.selectedCount == 0) == t.faces.isEmpty then
          (t.smoother.needsUpdate t.faces.length).2
        else (t.smoother.needsUpdate t.faces.length).2.clearWindow).push
          (Crop.around (t.select.getD (FaceBox.wholeFrame width height)) width height)
      else (t.smoother.needsUpdate t.faces.length).2 := by
  rw [retarget_eq]
  split_ifs <;> rfl

/-- The target after revising it: on a yes, the average of the window, or nothing when no face is
seen; otherwise the target as it was. -/
theorem retarget_target :
    (t.retarget width height).target =
      if (t.smoother.needsUpdate t.faces.length).1 then
        (if t.faces.isEmpty then none
        else Target.ofCrop? (t.retarget width height).smoother.average width height)
      else t.target := by
  rw [retarget_eq]
  split_ifs <;> rfl

/-- Revising the target changes only the smoother, the target and the tally. -/
theorem retarget_keeps :
    (t.retarget width height).config = t.config ∧ (t.retarget width height).switches = t.switches ∧
      (t.retarget width height).planner = t.planner ∧ (t.retarget width height).faces = t.faces ∧
      (t.retarget width height).dirty = t.dirty ∧ (t.retarget width height).applied = t.applied := by
  rw [retarget_eq]
  split_ifs <;> exact ⟨rfl, rfl, rfl, rfl, rfl, rfl⟩

@[simp] theorem retarget_config : (t.retarget width height).config = t.config :=
  (retarget_keeps t width height).1

@[simp] theorem retarget_switches : (t.retarget width height).switches = t.switches :=
  (retarget_keeps t width height).2.1

@[simp] theorem retarget_planner : (t.retarget width height).planner = t.planner :=
  (retarget_keeps t width height).2.2.1

@[simp] theorem retarget_faces : (t.retarget width height).faces = t.faces :=
  (retarget_keeps t width height).2.2.2.1

@[simp] theorem retarget_dirty : (t.retarget width height).dirty = t.dirty :=
  (retarget_keeps t width height).2.2.2.2.1

@[simp] theorem retarget_applied : (t.retarget width height).applied = t.applied :=
  (retarget_keeps t width height).2.2.2.2.2

end Fields

/-! ### Runs -/

/-- The trackers that some sequence of calls makes of the one created for `cfg` and `sw`, with the
frames of both dimensions recorded on the way, newest first. -/
inductive Run (cfg : TrackingConfig) (sw : Switches) : Tracker → List Shown → Prop
  /-- The tracker just created, shown nothing. -/
  | create {t : Tracker} : Tracker.create cfg sw = .ok t → Run cfg sw t []
  /-- A frame the tracker gets a planner for, recorded as the tracker met it. -/
  | frame {t t₁ : Tracker} {p : Planner} {h : List Shown} (document : List UInt8)
      (width height ms : Nat) : t.plannerFor width height = some (p, t₁) → Run cfg sw t h →
      Run cfg sw (t.update document width height ms)
        ((t₁.readFrame (p.recordFrame ms) document).shown width height :: h)
  /-- A frame without a dimension, passed over. -/
  | skip {t : Tracker} {h : List Shown} (document : List UInt8) (width height ms : Nat) :
      width = 0 ∨ height = 0 → Run cfg sw t h → Run cfg sw (t.update document width height ms) h
  /-- The crop handed out. -/
  | take {t : Tracker} {h : List Shown} : Run cfg sw t h → Run cfg sw t.take.2 h

variable {cfg : TrackingConfig} {sw : Switches} {h : List Shown}

/-- A skipped frame leaves the tracker as it is. -/
theorem update_of_zero (hz : width = 0 ∨ height = 0) : t.update document width height ms = t :=
  update_of_plannerFor_none (plannerFor_eq_none_iff.mpr hz)

/-- The frames a call records on top of the frames `h`, newest first: an update records its frame
when the tracker gets a planner for it, and no other call records one. -/
def recordCall (t : Tracker) (call : TrackerCall) (h : List Shown) : List Shown :=
  match call with
  | .update document width height ms =>
    match t.plannerFor width height with
    | some (p, t₁) => (t₁.readFrame (p.recordFrame ms) document).shown width height :: h
    | none => h
  | _ => h

/-- The frames a sequence of calls records on top of the frames `h`, newest first. -/
def recordRun (t : Tracker) : List TrackerCall → List Shown → List Shown
  | [], h => h
  | call :: calls, h => (t.step call).recordRun calls (t.recordCall call h)

/-- Every call continues a run, recording what `recordCall` says. -/
theorem Run.step_recorded (hr : Run cfg sw t h) (call : TrackerCall) :
    Run cfg sw (t.step call) (t.recordCall call h) := by
  cases call with
  | update document width height ms =>
    rcases hp : t.plannerFor width height with _ | ⟨p, t₁⟩
    · simp only [recordCall, hp]
      exact .skip document width height ms (plannerFor_eq_none_iff.mp hp) hr
    · simp only [recordCall, hp]
      exact .frame document width height ms hp hr
  | take => exact .take hr
  | drawOverlay _ => exact hr

/-- An update records the frame, at its size, exactly when both its dimensions are positive, and
otherwise leaves the frames recorded as they were. -/
theorem Run.update_cases (hr : Run cfg sw t h) (document : List UInt8) (width height ms : Nat) :
    (0 < width ∧ 0 < height ∧ ∃ f : Shown, f.width = width ∧ f.height = height ∧
      Run cfg sw (t.update document width height ms) (f :: h)) ∨
    ((width = 0 ∨ height = 0) ∧ Run cfg sw (t.update document width height ms) h) := by
  rcases hp : t.plannerFor width height with _ | ⟨p, t₁⟩
  · have hz := plannerFor_eq_none_iff.mp hp
    exact Or.inr ⟨hz, .skip document width height ms hz hr⟩
  · obtain ⟨hw, hh, -⟩ := plannerFor_some hp
    exact Or.inl ⟨hw, hh, _, rfl, rfl, .frame document width height ms hp hr⟩

/-- Every sequence of calls continues a run, recording what `recordRun` says. -/
theorem Run.run_recorded (hr : Run cfg sw t h) (calls : List TrackerCall) :
    Run cfg sw (t.run calls) (t.recordRun calls h) := by
  induction calls generalizing t h with
  | nil => exact hr
  | cons call calls ih => exact ih (hr.step_recorded call)

/-- A created tracker holds the configuration, which validates, and the switches, with a fresh
smoother and nothing else. -/
theorem create_eq {t : Tracker} (hc : Tracker.create cfg sw = .ok t) :
    cfg.validate = .ok () ∧ t = { config := cfg, switches := sw, smoother := Smoother.create cfg } := by
  unfold Tracker.create at hc
  rcases hv : cfg.validate with e | u
  · rw [hv] at hc
    cases hc
  · rw [hv] at hc
    cases hc
    exact ⟨rfl, rfl⟩

@[simp] theorem take_config : t.take.2.config = t.config := by
  unfold take
  split <;> rfl

@[simp] theorem take_switches : t.take.2.switches = t.switches := by
  unfold take
  split <;> rfl

@[simp] theorem take_planner : t.take.2.planner = t.planner := by
  unfold take
  split <;> rfl

@[simp] theorem take_smoother : t.take.2.smoother = t.smoother := by
  unfold take
  split <;> rfl

@[simp] theorem take_target : t.take.2.target = t.target := by
  unfold take
  split <;> rfl

@[simp] theorem take_faces : t.take.2.faces = t.faces := by
  unfold take
  split <;> rfl

@[simp] theorem take_crop : t.take.2.crop = t.crop := by
  unfold take
  split <;> rfl

@[simp] theorem update_switches : (t.update document width height ms).switches = t.switches := by
  rcases hp : t.plannerFor width height with _ | ⟨p, t₁⟩
  · rw [update_of_plannerFor_none hp]
  · rw [update_of_plannerFor hp, planFrame_switches, retarget_switches, readFrame_switches,
      (plannerFor_keeps hp).2.1]

/-- No call changes the switches. -/
@[simp] theorem step_switches (t : Tracker) (call : TrackerCall) :
    (t.step call).switches = t.switches := by
  cases call <;> simp [step]

theorem run_switches (t : Tracker) (calls : List TrackerCall) :
    (t.run calls).switches = t.switches := by
  induction calls generalizing t with
  | nil => rfl
  | cons call calls ih => rw [run_cons, ih, step_switches]

/-- The configuration and the switches stay along a run. -/
theorem Run.config (hr : Run cfg sw t h) : t.config = cfg ∧ t.switches = sw := by
  induction hr with
  | create hc =>
    obtain ⟨-, rfl⟩ := create_eq hc
    exact ⟨rfl, rfl⟩
  | frame document width height ms hp _ ih =>
    obtain ⟨hc, hs, -⟩ := plannerFor_keeps hp
    rw [update_of_plannerFor hp]
    simpa [hc, hs] using ih
  | skip document width height ms hz _ ih =>
    rw [update_of_zero hz]
    exact ih
  | take _ ih => simpa using ih

/-- The tracker's planner: none before the first recorded frame, then a planner reachable for the
configuration and sized for the newest recorded frame. -/
def PlannerFits (cfg : TrackingConfig) (t : Tracker) : List Shown → Prop
  | [] => t.planner = none
  | f :: _ => ∃ p, t.planner = some p ∧ Planner.Reachable cfg p ∧ p.width = f.width ∧
      p.height = f.height

/-- The planner that `plannerFor` hands a fitting tracker is reachable for the configuration:
created for it, or the tracker's own planner resized. -/
theorem PlannerFits.plannerFor (hf : PlannerFits cfg t h) (hc : t.config = cfg)
    (hp : t.plannerFor width height = some (p, t₁)) : Planner.Reachable cfg p := by
  obtain ⟨-, -, -, -, -, hnone, hsome⟩ := plannerFor_some hp
  cases h with
  | nil => exact .create (hc ▸ hnone hf)
  | cons f h =>
    obtain ⟨q, hq, hqr, -, -⟩ := hf
    exact hsome q hq ▸ hqr.step _

/-- The planner fits the frames recorded, along every run. -/
theorem Run.plannerFits (hr : Run cfg sw t h) : PlannerFits cfg t h := by
  induction hr with
  | create hc =>
    obtain ⟨-, rfl⟩ := create_eq hc
    rfl
  | @frame t t₁ p h document width height ms hp hr ih =>
    obtain ⟨-, -, hpw, hph, -⟩ := plannerFor_some hp
    have hreach := ih.plannerFor hr.config.1 hp
    rw [update_of_plannerFor hp]
    refine ⟨_, planFrame_planner _ _, (hreach.step (.recordFrame ms)).step (.plan _), ?_, ?_⟩
    · simpa [Planner.recordFrame, Tracker.shown] using hpw
    · simpa [Planner.recordFrame, Tracker.shown] using hph
  | skip document width height ms hz _ ih =>
    rw [update_of_zero hz]
    exact ih
  | @take t h _ ih =>
    cases h with
    | nil =>
      unfold PlannerFits at ih ⊢
      rw [take_planner, ih]
    | cons f h =>
      unfold PlannerFits at ih ⊢
      obtain ⟨q, hq, hqr, hw, hh⟩ := ih
      exact ⟨q, take_planner.trans hq, hqr, hw, hh⟩

/-- A planner the tracker has along a run is reachable for the configuration. -/
theorem PlannerFits.reachable (hf : PlannerFits cfg t h) (hp : t.planner = some p) :
    Planner.Reachable cfg p := by
  cases h with
  | nil =>
    unfold PlannerFits at hf
    rw [hp] at hf
    cases hf
  | cons f h =>
    obtain ⟨q, hq, hqr, -, -⟩ := hf
    rw [hp] at hq
    cases hq
    exact hqr

/-- The smoother of a tracker along a run is driven by the calls of a smoother run: the leap
adapted, the frame counted, the window restarted and pushed. -/
theorem Run.smootherRun (hr : Run cfg sw t h) : ∃ hg, Smoother.Run cfg t.smoother hg := by
  induction hr with
  | create hc =>
    obtain ⟨-, rfl⟩ := create_eq hc
    exact ⟨[], .create⟩
  | @frame t t₁ p h document width height ms hp hr ih =>
    obtain ⟨hg, hs⟩ := ih
    have hs₁ : Smoother.Run cfg t₁.smoother hg := by
      rw [(plannerFor_keeps hp).2.2]
      exact hs
    -- the frame: leap adapted, then counted; on a yes the window may restart and takes a crop
    set t₂ := t₁.readFrame (p.recordFrame ms) document
    have hs₂ : Smoother.Run cfg t₂.smoother hg := .adaptLeap _ hs₁
    have hs₃ := Smoother.Run.needsUpdate t₂.faces.length hs₂
    rw [update_of_plannerFor hp, planFrame_smoother, retarget_smoother]
    split_ifs
    · exact ⟨_, .push _ hs₃⟩
    · exact ⟨_, .push _ (.clearWindow hs₃)⟩
    · exact ⟨_, hs₃⟩
  | skip document width height ms hz _ ih =>
    rw [update_of_zero hz]
    exact ih
  | take _ ih => simpa using ih

end Tracker

end FaceFraming
