import FaceFraming.Proofs.Planner.Run

/-!
# The planned crop stays inside the frame

Every crop the planner holds, and so every crop a decision reports, is valid for the current frame
(no edge negative, at least one pixel left visible on each axis) and shows the aim point: the aim
point, each coordinate clamped into the frame, lies in the visible region
`[left, W - right) × [top, H - bottom)`.

The argument is by axis. `placeSpan` places a span of between one pixel and the whole axis, its
start clamped into `[0, frame - span]` around `center - span / 2` (`placeSpan_spec`); such a span
lies inside the axis and covers the clamped center (`placeSpan_covers`). A plan either leaves the
crop, the aim point and the size as they were or recomputes the crop around the new aim point; a
resize either changes nothing or starts over with the identity crop, which fits any frame. So the
fit is kept by every call (`CropFits.step`) and holds of every reachable planner
(`reachable_cropFits`).

The edges are 32-bit words, and validity reads the frame size as one. The argument needs both sides
of the frame below `2^31`, where a cut fits its word: on a wider axis the cut after the span can
wrap negative, and no crop at all is valid for such a frame, not even the identity crop a new
planner starts with (`Crop.not_isValidFor_wide`).
-/

namespace FaceFraming

open Word

/-- A point brought into a `width × height` frame: each coordinate clamped to the frame's pixels. -/
def Point.clampTo (pt : Point) (width height : Nat) : Point :=
  ⟨clampInt 0 ((width : Int) - 1) pt.x, clampInt 0 ((height : Int) - 1) pt.y⟩

/-- A crop shows a point of a `width × height` frame when the point lies in the visible region
`[left, width - right) × [top, height - bottom)`. -/
def Crop.Shows (c : Crop) (width height : Nat) (pt : Point) : Prop :=
  c.left ≤ pt.x ∧ pt.x < width - c.right ∧ c.top ≤ pt.y ∧ pt.y < height - c.bottom

/-- On a frame whose sides are below `2^31`, a crop is valid when no edge is negative and the cuts
of each axis together leave at least one pixel. -/
theorem Crop.isValidFor_iff {c : Crop} {width height : Nat} (hw : width < 2147483648)
    (hh : height < 2147483648) :
    c.isValidFor width height = true ↔
      0 ≤ c.top ∧ 0 ≤ c.bottom ∧ 0 ≤ c.left ∧ 0 ≤ c.right ∧
        c.left + c.right < width ∧ c.top + c.bottom < height := by
  have hw' := wrap32_of_mem (show -2147483648 ≤ (width : Int) by omega) (by omega)
  have hh' := wrap32_of_mem (show -2147483648 ≤ (height : Int) by omega) (by omega)
  simp only [Crop.isValidFor, Crop.visibleWidth, Crop.visibleHeight, hw', hh', Bool.and_eq_true,
    decide_eq_true_eq]
  omega

/-- No crop is valid for a frame of `2^31` to `2^32 - 1` columns: the width, read as a 32-bit word,
is negative, and so is every visible width. -/
theorem Crop.not_isValidFor_wide (c : Crop) {width : Nat} (height : Nat)
    (hw : 2147483648 ≤ width) (hw' : width < 4294967296) :
    c.isValidFor width height = false := by
  have hwrap : wrap32 width = (width : Int) - 4294967296 := by
    unfold wrap32
    omega
  simp only [Crop.isValidFor, Crop.visibleWidth, hwrap, Bool.and_eq_false_iff, decide_eq_false_iff_not]
  omega

namespace Planner

/-- The planner's crop is valid for its frame and shows its aim point, brought into the frame. -/
def CropFits (p : Planner) : Prop :=
  p.crop.isValidFor p.width p.height = true ∧
    p.crop.Shows p.width p.height (p.center.clampTo p.width p.height)

/-! ### One axis -/

/-- `placeSpan` keeps a span of `1 … frame` pixels whose start is clamped into `[0, frame - span]`
around `center - span / 2`; the cut after it is what remains of the axis. -/
theorem placeSpan_spec {frame : Nat} (h1 : 1 ≤ frame) (h2 : frame < 2147483648) (trim : Float)
    (center : Int) :
    ∃ span : Int, 1 ≤ span ∧ span ≤ frame ∧
      (placeSpan frame trim center).1 = clampInt 0 (frame - span) (center - span.tdiv 2) ∧
      (placeSpan frame trim center).2 = frame - span - (placeSpan frame trim center).1 := by
  simp only [placeSpan]
  generalize Double.roundClamped i64Min i64Max (Double.ofNat frame - trim) = r
  have hs1 := le_clampInt 1 frame r
  have hs2 := clampInt_le (show (1 : Int) ≤ frame by omega) r
  generalize clampInt 1 frame r = span at hs1 hs2
  have hb1 := le_clampInt 0 (frame - span) (center - span.tdiv 2)
  have hb2 := clampInt_le (show (0 : Int) ≤ frame - span by omega) (center - span.tdiv 2)
  generalize hdef : clampInt 0 (frame - span) (center - span.tdiv 2) = before at hb1 hb2 ⊢
  have hb : wrap32 before = before := wrap32_of_mem (by omega) (by omega)
  have ha : wrap32 (frame - span - before) = frame - span - before :=
    wrap32_of_mem (by omega) (by omega)
  exact ⟨span, hs1, hs2, hb.trans hdef.symm, by rw [ha, hb]⟩

/-- The span `placeSpan` keeps covers the center, clamped into the axis. -/
theorem placeSpan_covers {frame : Nat} (h1 : 1 ≤ frame) (h2 : frame < 2147483648) (trim : Float)
    (center : Int) :
    (placeSpan frame trim center).1 ≤ clampInt 0 (frame - 1) center ∧
      clampInt 0 (frame - 1) center < frame - (placeSpan frame trim center).2 := by
  obtain ⟨span, hs1, hs2, hb, ha⟩ := placeSpan_spec h1 h2 trim center
  rw [ha, hb, Int.tdiv_eq_ediv_of_nonneg (by omega)]
  unfold clampInt
  omega

/-! ### The crops the planner holds -/

section Fits

variable {p : Planner}

/-- The crop `recompute` would place, edge by edge. -/
theorem placedCrop_eq (p : Planner) :
    p.placedCrop =
      let progress := p.rate.zoomCurve.value p.zoomLevel
      ⟨(placeSpan p.height (p.zoomStep.2 * progress) p.center.y).1,
        (placeSpan p.height (p.zoomStep.2 * progress) p.center.y).2,
        (placeSpan p.width (p.zoomStep.1 * progress) p.center.x).1,
        (placeSpan p.width (p.zoomStep.1 * progress) p.center.x).2⟩ :=
  rfl

/-- A recomputed crop fits a frame whose sides are below `2^31`. -/
theorem placedCrop_fits (hw : 0 < p.width) (hh : 0 < p.height) (hw' : p.width < 2147483648)
    (hh' : p.height < 2147483648) :
    { p with crop := p.placedCrop }.CropFits := by
  have hx := placeSpan_bounds (show 1 ≤ p.width by omega) hw'
    (p.zoomStep.1 * p.rate.zoomCurve.value p.zoomLevel) p.center.x
  have hy := placeSpan_bounds (show 1 ≤ p.height by omega) hh'
    (p.zoomStep.2 * p.rate.zoomCurve.value p.zoomLevel) p.center.y
  have cx := placeSpan_covers (show 1 ≤ p.width by omega) hw'
    (p.zoomStep.1 * p.rate.zoomCurve.value p.zoomLevel) p.center.x
  have cy := placeSpan_covers (show 1 ≤ p.height by omega) hh'
    (p.zoomStep.2 * p.rate.zoomCurve.value p.zoomLevel) p.center.y
  refine ⟨(Crop.isValidFor_iff hw' hh').2 ?_, ?_⟩
  · simp only [placedCrop_eq]
    omega
  · simp only [placedCrop_eq]
    exact ⟨cx.1, cx.2, cy.1, cy.2⟩

/-- The identity crop fits a frame whose sides are below `2^31`, whatever the aim point. -/
theorem identity_fits (hw : 0 < p.width) (hh : 0 < p.height) (hw' : p.width < 2147483648)
    (hh' : p.height < 2147483648) (h : p.crop = Crop.identity) : p.CropFits := by
  refine ⟨(Crop.isValidFor_iff hw' hh').2 ?_, ?_⟩
  · simp only [h, Crop.identity]
    omega
  · simp only [Crop.Shows, h, Crop.identity, Point.clampTo]
    unfold clampInt
    omega

/-- Planning keeps the fit: each branch either leaves crop, aim point and size alone or
recomputes the crop around the aim point it leaves. -/
theorem CropFits.plan (hw : 0 < p.width) (hh : 0 < p.height) (hw' : p.width < 2147483648)
    (hh' : p.height < 2147483648) (h : p.CropFits) (t : Option Target) :
    (p.plan t).2.CropFits := by
  unfold Planner.plan
  split
  · cases t with
    | none =>
      rcases Nat.eq_zero_or_pos p.zoomLevel with h0 | h0
      · rw [planNormal_none_of_zero p h0]
        exact h
      · rw [planNormal_none_of_pos p h0]
        exact h
    | some t =>
      rw [planNormal_some]
      dsimp only
      split_ifs <;> exact placedCrop_fits hw hh hw' hh'
  · cases t with
    | none => exact h
    | some t =>
      by_cases hc : t.center = p.center
      · rw [planZoomIn_of_eq p hc]
        exact h
      · rw [planZoomIn_of_ne p hc]
        exact h
  · rw [planPan_eq]
    dsimp only
    split_ifs <;> exact placedCrop_fits hw hh hw' hh'
  · rw [planZoomOut_eq]
    dsimp only
    split_ifs <;> exact placedCrop_fits hw hh hw' hh'

/-- Every call keeps the fit, on frames whose sides are below `2^31`. -/
theorem CropFits.step (hw : 0 < p.width) (hh : 0 < p.height)
    (h : p.width < 2147483648 → p.height < 2147483648 → p.CropFits) (call : PlannerCall) :
    (p.step call).width < 2147483648 → (p.step call).height < 2147483648 →
      (p.step call).CropFits := by
  intro hw' hh'
  cases call with
  | plan t =>
    simp only [step_plan, plan_width, plan_height] at hw' hh' ⊢
    exact (h hw' hh').plan hw hh hw' hh' t
  | recordFrame ms => exact h hw' hh'
  | resize width height =>
    rcases step_resize p width height with hs | ⟨hw0, hh0, hs⟩
    · rw [hs] at hw' hh' ⊢
      exact h hw' hh'
    · rw [hs] at hw' hh' ⊢
      exact identity_fits hw0 hh0 hw' hh' rfl

end Fits

/-- The fit holds of every reachable planner whose frame has sides below `2^31`: by induction on
the calls, with `CropFits.step` at each. -/
theorem Reachable.cropFits {c : TrackingConfig} {p : Planner} (hp : Reachable c p) :
    p.width < 2147483648 → p.height < 2147483648 → p.CropFits := by
  induction hp with
  | create hc =>
    obtain ⟨hw, hh, rfl⟩ := create_eq hc
    exact fun hw' hh' => identity_fits hw hh hw' hh' rfl
  | step call hr ih => exact CropFits.step hr.size_pos.1 hr.size_pos.2 ih call

/-- Every reachable planner whose frame has sides below `2^31` holds a crop that is valid for the
frame and shows its aim point, and so does every decision it makes next. -/
theorem reachable_cropFits {c : TrackingConfig} {p : Planner} (hp : Reachable c p)
    (hw : p.width < 2147483648) (hh : p.height < 2147483648) :
    p.CropFits ∧ ∀ t, ((p.plan t).1.crop).isValidFor p.width p.height = true ∧
      ((p.plan t).1.crop).Shows p.width p.height ((p.plan t).2.center.clampTo p.width p.height) := by
  have hfit := hp.cropFits hw hh
  refine ⟨hfit, fun t => ?_⟩
  have hnext := hfit.plan hp.size_pos.1 hp.size_pos.2 hw hh t
  rw [plan_decision_crop]
  simpa only [CropFits, plan_width, plan_height] using hnext

/-- A planner for 640 × 480 zooms in on a face in two plans, starts a pan toward another face, is
resized to 1280 × 720 and zooms in again: its crop, recomputed for the new frame, fits it, and
every next plan's crop shows the clamped aim point. -/
theorem reachable_cropFits_resized :
    ∃ p₀ p, Planner.create { zoomTierSteps := ⟨2, 2, 2⟩, panTiltTierFrames := ⟨3, 3, 3⟩ } 640 480 =
        .ok p₀ ∧
      p₀.run [.recordFrame 0, .plan (some ⟨⟨210, 170⟩, 100, 100⟩), .recordFrame 33,
        .plan (some ⟨⟨210, 170⟩, 100, 100⟩), .plan (some ⟨⟨400, 300⟩, 100, 100⟩),
        .plan (some ⟨⟨400, 300⟩, 100, 100⟩), .resize 1280 720,
        .plan (some ⟨⟨400, 300⟩, 100, 100⟩)] = p ∧
      Reachable { zoomTierSteps := ⟨2, 2, 2⟩, panTiltTierFrames := ⟨3, 3, 3⟩ } p ∧
      p.width < 2147483648 ∧ p.height < 2147483648 ∧
      p.width = 1280 ∧ p.zoomLevel = 1 ∧ p.crop = ⟨30, 150, 0, 320⟩ ∧
      p.CropFits ∧ ∀ t, ((p.plan t).1.crop).isValidFor p.width p.height = true ∧
        ((p.plan t).1.crop).Shows p.width p.height ((p.plan t).2.center.clampTo p.width p.height) :=
  ⟨_, _, rfl, rfl, (@Reachable.create _ 640 480 _ rfl).run _, by decide +kernel, by decide +kernel,
    by decide +kernel, by decide +kernel, by decide +kernel,
    reachable_cropFits ((@Reachable.create _ 640 480 _ rfl).run _) (by decide +kernel)
      (by decide +kernel)⟩

end Planner

end FaceFraming
