import FaceFraming.Proofs.Tracking.Run
import FaceFraming.Proofs.Planner.CropFits
import FaceFraming.Replay.Session

/-!
# Handing out the crop

The tracker hands its crop out with `take`, once after each change, and remembers it as the
applied crop. This module proves, along every run of calls (`Run.crop_reported`):

* the crop fits the newest frame recorded: it is valid for that frame's size when both sides are
  below `2^31`, and it cuts nothing before any frame with both dimensions (`PlannerFits.cropFits`,
  from the planner's own fit, `Planner.Reachable.cropFits`);
* unless the crop is marked as changed, it is the one last handed out (`Reported`): a size change
  marks it, and a plan that leaves it unmarked did not recompute it
  (`Planner.plan_unchanged_or_recomputed`), so every change reaches the next `take`, which hands out
  the current crop;
* every report of a replayed frame carries the crop of a tracker along such a run
  (`Replayer.process_tracking`), and so fits the newest frame with both dimensions replayed.

On a frame of `2^31` columns or rows or more no crop is valid, the identity crop included
(`Crop.not_isValidFor_wide`); the fit is stated for frames below that size.
-/

namespace FaceFraming

/-- A plan either reports the planner's crop as it was, unchanged, or recomputes it. -/
theorem Planner.plan_unchanged_or_recomputed (p : Planner) (t : Option Target) :
    (p.plan t).1 = ⟨p.crop, false⟩ ∨ (p.plan t).1.changed = true := by
  unfold Planner.plan
  split
  · cases t with
    | none =>
      rcases Nat.eq_zero_or_pos p.zoomLevel with h0 | h0
      · rw [Planner.planNormal_none_of_zero p h0]
        exact Or.inl rfl
      · rw [Planner.planNormal_none_of_pos p h0]
        exact Or.inl rfl
    | some t =>
      rw [Planner.planNormal_some]
      exact Or.inr rfl
  · cases t with
    | none => exact Or.inl rfl
    | some t =>
      by_cases hc : t.center = p.center
      · rw [Planner.planZoomIn_of_eq p hc]
        exact Or.inl rfl
      · rw [Planner.planZoomIn_of_ne p hc]
        exact Or.inl rfl
  · rw [Planner.planPan_eq]
    exact Or.inr rfl
  · rw [Planner.planZoomOut_eq]
    exact Or.inr rfl

/-- A plan that does not recompute the crop leaves it. -/
theorem Planner.plan_crop_of_unchanged (p : Planner) (t : Option Target)
    (h : (p.plan t).1.changed = false) : (p.plan t).2.crop = p.crop := by
  rw [← Planner.plan_decision_crop]
  rcases p.plan_unchanged_or_recomputed t with hd | hd
  · rw [hd]
  · rw [hd] at h
    cases h

/-! ### Replayed frames -/

/-- A replayed frame on a tracked stream updates the tracker with the frame's size and time (the
settings' when the record has none), hands out its crop, and reports the crop of the tracker it
leaves. -/
theorem Replayer.process_tracking {t : Tracker} {r r' : Replayer} {rec : FrameRecord}
    {report : FrameReport} (hp : r.processor = .tracking t) (h : r.process rec = .ok (report, r')) :
    r'.processor = .tracking (t.update rec.document (rec.width.getD r.settings.frameWidth)
      (rec.height.getD r.settings.frameHeight)
      (rec.timestamp.getD (r.settings.timeOfFrame r.frames))).take.2 ∧
    report.crop = (t.update rec.document (rec.width.getD r.settings.frameWidth)
      (rec.height.getD r.settings.frameHeight)
      (rec.timestamp.getD (r.settings.timeOfFrame r.frames))).take.2.crop := by
  unfold Replayer.process at h
  simp only [hp, Processor.push, Processor.post, bind, Except.bind, pure, Except.pure] at h
  -- every way through the overlay sink reports on the same tracker, its crop taken once
  split at h
  · split at h
    · split at h
      · split at h
        · cases h
        · obtain ⟨rfl, rfl⟩ := Prod.mk.inj (Except.ok.inj h)
          exact ⟨rfl, rfl⟩
      · obtain ⟨rfl, rfl⟩ := Prod.mk.inj (Except.ok.inj h)
        exact ⟨rfl, rfl⟩
    · obtain ⟨rfl, rfl⟩ := Prod.mk.inj (Except.ok.inj h)
      exact ⟨rfl, rfl⟩
  · obtain ⟨rfl, rfl⟩ := Prod.mk.inj (Except.ok.inj h)
    exact ⟨rfl, rfl⟩

namespace Tracker

variable {cfg : TrackingConfig} {sw : Switches} {t t₁ : Tracker} {h : List Shown}

theorem crop_of_planner {p : Planner} (hp : t.planner = some p) : t.crop = p.crop := by
  simp [crop, hp]

/-! ### The crop fits the newest frame -/

/-- A crop fits the frames recorded: valid for the newest one when its sides are below `2^31`, and
cutting nothing before any. -/
def CropFitsNewest (c : Crop) : List Shown → Prop
  | [] => c = Crop.identity
  | f :: _ => f.width < 2147483648 → f.height < 2147483648 → c.isValidFor f.width f.height = true

/-- The crop of a fitting planner fits the frames recorded. -/
theorem PlannerFits.cropFits (hf : PlannerFits cfg t h) : CropFitsNewest t.crop h := by
  cases h with
  | nil =>
    unfold PlannerFits at hf
    simp [CropFitsNewest, crop, hf]
  | cons f h =>
    obtain ⟨p, hp, hreach, hw, hh⟩ := hf
    intro hw' hh'
    rw [crop_of_planner hp, ← hw, ← hh]
    exact (hreach.cropFits (hw ▸ hw') (hh ▸ hh')).1

/-! ### Every change is handed out -/

/-- The crop is the one last handed out unless it is marked as changed. -/
def Reported (t : Tracker) : Prop :=
  t.dirty = false → t.applied = t.crop

/-- A frame keeps the crop handed out: an unmarked frame kept its size and planned without
recomputing, so it leaves the crop as it was. -/
theorem Reported.update {p : Planner} {document : List UInt8} {width height ms : Nat}
    (hp : t.plannerFor width height = some (p, t₁)) (ht : t.Reported) :
    (t.update document width height ms).Reported := by
  obtain ⟨-, -, -, -, ht₁, -, -⟩ := plannerFor_some hp
  rw [update_of_plannerFor hp]
  intro hd
  simp only [planFrame_dirty, retarget_dirty, readFrame_dirty, Bool.or_eq_false_iff] at hd
  -- a change of size would have marked the crop
  obtain ⟨ht, hcrop⟩ : t₁ = t ∧ p.crop = t.crop := by
    rcases ht₁ with h₁ | rfl
    · exact h₁
    · simp at hd
  subst t₁
  have hkeep := Planner.plan_crop_of_unchanged (p.recordFrame ms)
    ((t.readFrame (p.recordFrame ms) document).retarget width height).target hd.2
  rw [crop_of_planner (planFrame_planner _ _), hkeep]
  simpa [Planner.recordFrame, hcrop] using ht hd.1

theorem Reported.take (ht : t.Reported) : t.take.2.Reported := by
  unfold Tracker.take
  split
  · intro _
    rfl
  · exact ht

/-- Along every run the crop is the one last handed out unless it is marked as changed. -/
theorem Run.reported (hr : Run cfg sw t h) : t.Reported := by
  induction hr with
  | create hc =>
    obtain ⟨-, rfl⟩ := create_eq hc
    intro _
    rfl
  | frame document width height ms hp _ ih => exact ih.update hp
  | skip document width height ms hz _ ih =>
    rw [update_of_zero hz]
    exact ih
  | take _ ih => exact ih.take

/-- Along every run of a tracker with a validated configuration (frames of any size, including
empty and changing ones, crops handed out and overlays drawn in between):

* the crop fits the newest frame recorded, that is the newest frame with both dimensions: valid for
  its size when both sides are below `2^31`, and the identity crop before any such frame;
* unless the crop is marked as changed it is the crop last handed out, so a crop that differs from
  it is handed out by the next `take`, and `take` hands out only the current crop;
* a frame replayed on a stream tracked by it reports the crop of the tracker it leaves, which goes
  on along a run; that crop is valid for the replayed frame's size when it has both dimensions
  (below `2^31`), and otherwise fits the frames recorded before. -/
theorem Run.crop_reported (hr : Run cfg sw t h) :
    CropFitsNewest t.crop h ∧ (t.dirty = false → t.applied = t.crop) ∧
      (t.crop ≠ t.applied → t.take.1 = some t.crop) ∧ (∀ c, t.take.1 = some c → c = t.crop) ∧
      ∀ (r r' : Replayer) (rec : FrameRecord) (report : FrameReport),
        r.processor = .tracking t → r.process rec = .ok (report, r') →
        let width := rec.width.getD r.settings.frameWidth
        let height := rec.height.getD r.settings.frameHeight
        ∃ t', r'.processor = .tracking t' ∧ report.crop = t'.crop ∧ (∃ h', Run cfg sw t' h') ∧
          (0 < width → 0 < height → width < 2147483648 → height < 2147483648 →
            report.crop.isValidFor width height = true) ∧
          (width = 0 ∨ height = 0 → CropFitsNewest report.crop h) := by
  have hrep := hr.reported
  refine ⟨hr.plannerFits.cropFits, hrep, fun hne => ?_, fun c hc => ?_, ?_⟩
  · -- a crop other than the applied one is marked as changed
    have hd : t.dirty = true := by
      cases hd : t.dirty
      · exact absurd (hrep hd).symm hne
      · rfl
    simp [Tracker.take, hd]
  · unfold Tracker.take at hc
    split at hc
    · exact (Option.some.inj hc).symm
    · cases hc
  · intro r r' rec report hp hproc
    obtain ⟨hr', hcrop⟩ := Replayer.process_tracking hp hproc
    refine ⟨_, hr', hcrop, ?_⟩
    rw [hcrop]
    rcases hr.update_cases rec.document (rec.width.getD r.settings.frameWidth)
      (rec.height.getD r.settings.frameHeight)
      (rec.timestamp.getD (r.settings.timeOfFrame r.frames)) with
      ⟨hw, hh, f, hfw, hfh, hrun⟩ | ⟨hz, hrun⟩
    · -- the replayed frame is recorded: the crop fits it
      have hfits := hrun.take.plannerFits.cropFits
      refine ⟨⟨_, hrun.take⟩, fun _ _ hw' hh' => ?_, fun hz => by omega⟩
      have hvalid := hfits (hfw ▸ hw') (hfh ▸ hh')
      rwa [hfw, hfh] at hvalid
    · -- the replayed frame is passed over: the crop fits the frames before
      exact ⟨⟨_, hrun.take⟩, fun hw hh => by omega, fun _ => hrun.take.plannerFits.cropFits⟩

/-- A tracker deciding on every frame, with short zoom and pan tiers, shown one face on three
640×480 frames, asked for its crop, then shown the face on a 1280×720 frame and on a frame without a
width. The new size resets the crop to the whole frame while the crop handed out is still the
zoomed one, so the reset waits for the next `take`; the frame without a width is passed over. -/
theorem crop_reported_resized :
    ∃ (cfg : TrackingConfig) (doc : List UInt8) (t₀ t : Tracker) (h : List Shown),
      cfg = { leap := 1, decisionThreshold := 0, zoomTierSteps := ⟨2, 2, 2⟩,
              panTiltTierFrames := ⟨3, 3, 3⟩ } ∧
      doc = "\x7b\"faces\":[[90,160,120,100,100]]\x7d".toUTF8.toList ∧
      Tracker.create cfg {} = .ok t₀ ∧
      t₀.run ([0, 33, 66].map (fun ms => .update doc 640 480 ms) ++
        [.take, .update doc 1280 720 100, .update doc 0 480 133]) = t ∧
      Run cfg {} t h ∧
      Detection.readFaces doc cfg.confidenceThreshold cfg.maxFaces = [⟨160, 120, 100, 100, 90⟩] ∧
      h.map (fun f => (f.width, f.height)) = [(1280, 720), (640, 480), (640, 480), (640, 480)] ∧
      t.crop = Crop.identity ∧ t.applied = { top := 20, bottom := 160, left := 10, right := 230 } ∧
      t.dirty = true ∧
      (CropFitsNewest t.crop h ∧ (t.dirty = false → t.applied = t.crop) ∧
        (t.crop ≠ t.applied → t.take.1 = some t.crop) ∧ (∀ c, t.take.1 = some c → c = t.crop) ∧
        ∀ (r r' : Replayer) (rec : FrameRecord) (report : FrameReport),
          r.processor = .tracking t → r.process rec = .ok (report, r') →
          let width := rec.width.getD r.settings.frameWidth
          let height := rec.height.getD r.settings.frameHeight
          ∃ t', r'.processor = .tracking t' ∧ report.crop = t'.crop ∧ (∃ h', Run cfg {} t' h') ∧
            (0 < width → 0 < height → width < 2147483648 → height < 2147483648 →
              report.crop.isValidFor width height = true) ∧
            (width = 0 ∨ height = 0 → CropFitsNewest report.crop h)) := by
  refine ⟨_, _, _, _, _, rfl, rfl, rfl, rfl, (Run.create rfl).run_recorded _, ?_⟩
  exact ⟨by decide +kernel, by decide +kernel, by decide +kernel, by decide +kernel,
    by decide +kernel, Run.crop_reported ((Run.create rfl).run_recorded _)⟩

end Tracker

end FaceFraming
