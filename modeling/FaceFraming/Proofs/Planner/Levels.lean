import FaceFraming.Proofs.Planner.Run
import FaceFraming.Proofs.Double.Magnitude

/-!
# Zoom levels, phases and tiers

The planner's zoom level indexes the zoom curve of its current zoom tier, and that tier changes only
when the planner is unzoomed: in `normal` at level zero, and on the last step of a zoom-out. This
module proves that the level always stays within the curve it reads, phase by phase
(`PhaseLevel`): below the top level `M` in `normal`, at `M` when zoomed in or panning, between `1`
and `M` while zooming out; that a pan under way always has a frame left to take; that the
planner's copy of the zoom tier is the rate control's; and that an unzoomed planner in `normal`
cuts nothing (`Crop.identity`).

The last fact is about doubles. The crop at level zero is computed from the zoom step times the
curve's value there, which is zero; the crop cuts nothing only if the zoom step is a number, so
the invariant carries that too (`LevelsOk.zoomStep`), from the bounds of
`FaceFraming.Proofs.Double.Magnitude` (`trimPerLevel_within`). It holds for frames and zoom steps
below `2^53` (`Sized`), which covers the 32-bit sizes of the configuration.

The main result is `reachable_levels`, from the step lemmas `LevelsOk.planNormal`,
`LevelsOk.planZoomIn`, `LevelsOk.planPan`, `LevelsOk.planZoomOut` and `LevelsOk.step`.
-/

namespace FaceFraming

open Double Float.Model.UnpackedFloat

namespace ZoomCurve

/-- The curve starts at positive zero. -/
theorem ease_zero (c : ZoomCurve) (h0 : 0 < c.steps) (h53 : c.steps < 2 ^ 53) :
    (c.ease 0).toModel.unpack = .zero .positive := by
  have hn := unpack_ofNat h0 h53
  have ht : (Double.ofNat 0 / Double.ofNat c.steps).toModel.unpack = .zero .positive := by
    rw [unpack_div, unpack_ofNat_zero, hn]
    exact unpack_pack_zero _
  have hnt : (Double.ofNat c.steps * (Double.ofNat 0 / Double.ofNat c.steps)).toModel.unpack = .zero .positive := by
    rw [unpack_mul, hn, ht]
    exact unpack_pack_zero _
  have hntt : (Double.ofNat c.steps * (Double.ofNat 0 / Double.ofNat c.steps) * (Double.ofNat 0 / Double.ofNat c.steps)).toModel.unpack =
      .zero .positive := by
    rw [unpack_mul, hnt, ht]
    exact unpack_pack_zero _
  have h2t : (2.0 * (Double.ofNat 0 / Double.ofNat c.steps)).toModel.unpack = .zero .positive := by
    rw [unpack_mul, ht]
    rfl
  have h3 : ∃ m e h, (3.0 - 2.0 * (Double.ofNat 0 / Double.ofNat c.steps)).toModel.unpack = .finite .positive m e h := by
    rw [unpack_sub, h2t]
    exact ⟨_, _, _, rfl⟩
  obtain ⟨m, e, h, h3⟩ := h3
  show (Double.ofNat c.steps * (Double.ofNat 0 / Double.ofNat c.steps) * (Double.ofNat 0 / Double.ofNat c.steps) *
    (3.0 - 2.0 * (Double.ofNat 0 / Double.ofNat c.steps))).toModel.unpack = _
  rw [unpack_mul, hntt, h3]
  exact unpack_pack_zero _

end ZoomCurve

namespace RateControl

@[simp] theorem zoomCurve_refreshPan (r : RateControl) : r.refreshPan.zoomCurve = r.zoomCurve := rfl

@[simp] theorem zoomTier_refreshPan (r : RateControl) : r.refreshPan.zoomTier = r.zoomTier := rfl

@[simp] theorem zoomCurve_push (r : RateControl) (ms : Nat) : (r.push ms).zoomCurve = r.zoomCurve :=
  rfl

@[simp] theorem zoomTier_push (r : RateControl) (ms : Nat) : (r.push ms).zoomTier = r.zoomTier := rfl

@[simp] theorem zoomSteps_push (r : RateControl) (ms : Nat) : (r.push ms).zoomSteps = r.zoomSteps :=
  rfl

@[simp] theorem zoomSteps_refreshZoom (r : RateControl) : r.refreshZoom.zoomSteps = r.zoomSteps := rfl

@[simp] theorem zoomSteps_refreshPan (r : RateControl) : r.refreshPan.zoomSteps = r.zoomSteps := rfl

/-- Every zoom curve has at least one level above zero. -/
theorem maxLevel_pos (r : RateControl) : 0 < r.zoomCurve.maxLevel := by
  simp only [zoomCurve, ZoomCurve.eased, ZoomCurve.maxLevel]
  omega

theorem steps_pos (r : RateControl) : 0 < r.zoomCurve.steps :=
  r.maxLevel_pos

theorem steps_lt (r : RateControl) (h : ∀ t : Tier, t.pick r.zoomSteps < 2 ^ 53) :
    r.zoomCurve.steps < 2 ^ 53 := by
  have := h r.zoomTier
  simp only [zoomCurve, ZoomCurve.eased]
  omega

end RateControl

namespace Planner

/-- The zoom step per axis as the planner computes it. -/
theorem zoomStepFor_eq (p : Planner) (t : Target) (L : Nat) :
    p.zoomStepFor t L =
      let zoom := maxNum (minNum (minNum (Double.ofNat p.width / (Double.ofNat t.width * p.faceFrameRatio))
        (Double.ofNat p.height / (Double.ofNat t.height * p.faceFrameRatio))) p.maxZoom) 1.0
      ((Double.ofNat p.width - Double.ofNat p.width / zoom) / Double.ofNat (max L 1),
        (Double.ofNat p.height - Double.ofNat p.height / zoom) / Double.ofNat (max L 1)) :=
  rfl

/-- The pixels trimmed per level on an axis of `W` pixels are a number below `2^57`, whatever the
zoom asked for: the zoom is at least one (or infinite), so the part trimmed is at most the frame. -/
theorem trimPerLevel_within {W N : Nat} (hW : 0 < W) (hW' : W < 2 ^ 53) (hN : 0 < N)
    (hN' : N < 2 ^ 53) (x : Float) :
    Within 57 ((Double.ofNat W - Double.ofNat W / maxNum x 1.0) / Double.ofNat N).toModel.unpack := by
  have hlogW : W.log2 < 53 := (Nat.log2_lt (by omega)).mpr hW'
  have hw : Within 53 (Double.ofNat W).toModel.unpack :=
    (within_ofNat hW hW').1.mono (by omega)
  -- the part trimmed, `W / zoom`, is at most the frame
  have hq : Within 54 (Double.ofNat W / maxNum x 1.0).toModel.unpack := by
    rcases maxNum_one_cases x with hinf | ⟨m, e, h, hz, hte⟩
    · obtain ⟨s, hs⟩ := div_infinity_eq_zero hw hinf
      rw [hs]
      trivial
    · exact (within_div hw ⟨_, m, e, h, hz, hte⟩ (by omega)).mono (by omega)
  have hd := within_sub hw hq (by omega)
  obtain ⟨-, m, e, h, hs, hte⟩ := within_ofNat hN hN'
  exact (within_div hd ⟨_, m, e, h, hs, show (1 : Int) ≤ _ by omega⟩ (by omega)).mono (by omega)

/-- A zero trim places the whole frame: nothing is cut on either side. -/
theorem placeSpan_of_zero {frame : Nat} (h0 : 0 < frame) (h53 : frame < 2 ^ 53) {trim : Float}
    {s : Sign} (ht : trim.toModel.unpack = .zero s) (center : Int) :
    placeSpan frame trim center = (0, 0) := by
  have hsub : Double.ofNat frame - trim = Double.ofNat frame :=
    sub_zero_of_finite (unpack_ofNat h0 h53) ht
  have hround : roundClamped Word.i64Min Word.i64Max (Double.ofNat frame) = frame :=
    roundClamped_ofNat h53 (by unfold Word.i64Min; omega) (by unfold Word.i64Max; omega)
  simp only [placeSpan, hsub, hround, Word.clampInt]
  rw [Word.wrap32_of_mem (by omega) (by omega), Word.wrap32_of_mem (by omega) (by omega)]
  simp only [Prod.mk.injEq]
  omega

/-! ### The invariant -/

/-- The frame and the zoom tiers are small enough for the doubles computed from them to be exact:
sides and zoom steps below `2^53` (the source keeps them in 32 bits). -/
def Sized (p : Planner) : Prop :=
  p.width < 2 ^ 53 ∧ p.height < 2 ^ 53 ∧ ∀ t : Tier, t.pick p.rate.zoomSteps < 2 ^ 53

/-- The level each phase allows, with `M` the top level of the current zoom curve: below `M` in
`normal`, with the crop cutting nothing at level zero (for a frame small enough to be exact);
`M` when zoomed in or panning, with a frame of the pan left to take; between `1` and `M` while
zooming out. -/
def PhaseLevel (p : Planner) : Prop :=
  match p.phase with
  | .normal => p.zoomLevel < p.rate.zoomCurve.maxLevel ∧
      (p.Sized → p.zoomLevel = 0 → p.crop = Crop.identity)
  | .zoomIn => p.zoomLevel = p.rate.zoomCurve.maxLevel
  | .panAndTilt => p.zoomLevel = p.rate.zoomCurve.maxLevel ∧
      (p.pan.step < p.pan.duration ∨ p.pan.step = 0 ∧ p.pan.duration = 0)
  | .zoomOut => 1 ≤ p.zoomLevel ∧ p.zoomLevel ≤ p.rate.zoomCurve.maxLevel

/-- What every reachable planner keeps: the level its phase allows, its copy of the zoom tier
equal to the rate control's, and (for a frame small enough to be exact) a zoom step that is a
number. -/
structure LevelsOk (p : Planner) : Prop where
  level : p.PhaseLevel
  tier : p.zoomTier = p.rate.zoomTier
  zoomStep : p.Sized → Within 57 p.zoomStep.1.toModel.unpack ∧ Within 57 p.zoomStep.2.toModel.unpack

theorem Sized.rate {p : Planner} (h : p.Sized) : ∀ t : Tier, t.pick p.rate.zoomSteps < 2 ^ 53 :=
  h.2.2

/-- For a sized frame the zoom step computed for a target is a number on both axes. -/
theorem zoomStepFor_within {p : Planner} (hs : p.Sized) (hw : 0 < p.width) (hh : 0 < p.height)
    (t : Target) {L : Nat} (hL : L < 2 ^ 53) :
    Within 57 (p.zoomStepFor t L).1.toModel.unpack ∧ Within 57 (p.zoomStepFor t L).2.toModel.unpack := by
  rw [zoomStepFor_eq]
  exact ⟨trimPerLevel_within hw hs.1 (by omega) (by omega) _,
    trimPerLevel_within hh hs.2.1 (by omega) (by omega) _⟩

/-- At level zero the crop cuts nothing, as long as the zoom step is a number: the curve is zero
there, so nothing is trimmed. -/
theorem placedCrop_of_zero {p : Planner} (hl : p.zoomLevel = 0) (hs : p.Sized) (hw : 0 < p.width)
    (hh : 0 < p.height)
    (hstep : Within 57 p.zoomStep.1.toModel.unpack ∧ Within 57 p.zoomStep.2.toModel.unpack) :
    p.placedCrop = Crop.identity := by
  have hv : (p.rate.zoomCurve.value p.zoomLevel).toModel.unpack = .zero .positive := by
    rw [hl, ZoomCurve.value, Nat.zero_min]
    exact ZoomCurve.ease_zero _ p.rate.steps_pos (p.rate.steps_lt hs.rate)
  obtain ⟨s₁, h₁⟩ := mul_zero_eq_zero hstep.1 hv
  obtain ⟨s₂, h₂⟩ := mul_zero_eq_zero hstep.2 hv
  simp only [placedCrop, placeSpan_of_zero hw hs.1 h₁, placeSpan_of_zero hh hs.2.1 h₂]
  rfl

theorem within_zeroLit {k : Int} : Within k (0.0 : Float).toModel.unpack := by
  have h : (0.0 : Float).toModel.unpack = .zero .positive := rfl
  rw [h]
  trivial

theorem phaseLevel_normal (p : Planner) (hph : p.phase = .normal) :
    p.PhaseLevel ↔ p.zoomLevel < p.rate.zoomCurve.maxLevel ∧
      (p.Sized → p.zoomLevel = 0 → p.crop = Crop.identity) := by
  unfold PhaseLevel
  rw [hph]

theorem phaseLevel_zoomIn (p : Planner) (hph : p.phase = .zoomIn) :
    p.PhaseLevel ↔ p.zoomLevel = p.rate.zoomCurve.maxLevel := by
  unfold PhaseLevel
  rw [hph]

theorem phaseLevel_panAndTilt (p : Planner) (hph : p.phase = .panAndTilt) :
    p.PhaseLevel ↔ p.zoomLevel = p.rate.zoomCurve.maxLevel ∧
      (p.pan.step < p.pan.duration ∨ p.pan.step = 0 ∧ p.pan.duration = 0) := by
  unfold PhaseLevel
  rw [hph]

theorem phaseLevel_zoomOut (p : Planner) (hph : p.phase = .zoomOut) :
    p.PhaseLevel ↔ 1 ≤ p.zoomLevel ∧ p.zoomLevel ≤ p.rate.zoomCurve.maxLevel := by
  unfold PhaseLevel
  rw [hph]

/-- Revising the zoom tier unzoomed in `normal` keeps the invariant: every curve has a level above
zero, and the crop is untouched. -/
theorem LevelsOk.takeZoomTier {p : Planner} (h : p.LevelsOk) (hph : p.phase = .normal)
    (h0 : p.zoomLevel = 0) : p.takeZoomTier.LevelsOk := by
  have hu := ((phaseLevel_normal p hph).mp h.level).2
  refine ⟨(phaseLevel_normal p.takeZoomTier hph).mpr ⟨?_, hu⟩, rfl, h.zoomStep⟩
  show p.zoomLevel < _
  rw [h0]
  exact RateControl.maxLevel_pos _

theorem LevelsOk.planNormal {p : Planner} (h : p.LevelsOk) (hph : p.phase = .normal)
    (hw : 0 < p.width) (hh : 0 < p.height) (t : Option Target) : (p.planNormal t).2.LevelsOk := by
  have hlt := ((phaseLevel_normal p hph).mp h.level).1
  cases t with
  | none =>
    rcases Nat.eq_zero_or_pos p.zoomLevel with h0 | hpos
    · rw [planNormal_none_of_zero p h0]
      exact h.takeZoomTier hph h0
    · rw [planNormal_none_of_pos p hpos]
      exact ⟨(phaseLevel_zoomOut _ rfl).mpr ⟨hpos, Nat.le_of_lt hlt⟩, h.tier, h.zoomStep⟩
  | some t =>
    -- the planner once its zoom tier is revised (at level zero) keeps everything but the tier
    have hq : (if p.zoomLevel = 0 then p.takeZoomTier else p).LevelsOk ∧
        (if p.zoomLevel = 0 then p.takeZoomTier else p).phase = .normal ∧
        (if p.zoomLevel = 0 then p.takeZoomTier else p).width = p.width ∧
        (if p.zoomLevel = 0 then p.takeZoomTier else p).height = p.height := by
      split_ifs with h0
      · exact ⟨h.takeZoomTier hph h0, hph, rfl, rfl⟩
      · exact ⟨h, hph, rfl, rfl⟩
    rw [planNormal_some]
    generalize (if p.zoomLevel = 0 then p.takeZoomTier else p) = q at hq
    obtain ⟨hq, hqph, hqw, hqh⟩ := hq
    have htop := RateControl.maxLevel_pos q.rate
    dsimp only
    split_ifs with hM
    · exact ⟨(phaseLevel_zoomIn _ rfl).mpr hM, hq.tier,
        fun hs => zoomStepFor_within hs (hqw ▸ hw) (hqh ▸ hh) t (q.rate.steps_lt hs.rate)⟩
    · refine ⟨(phaseLevel_normal _ ?_).mpr ⟨?_, fun _ h0 => ?_⟩, hq.tier,
        fun hs => zoomStepFor_within hs (hqw ▸ hw) (hqh ▸ hh) t (q.rate.steps_lt hs.rate)⟩
      · exact hqph
      · show min (q.zoomLevel + 1) q.rate.zoomCurve.maxLevel < q.rate.zoomCurve.maxLevel
        exact Nat.lt_of_le_of_ne (Nat.min_le_right _ _) hM
      · exact absurd h0 (by show min (q.zoomLevel + 1) q.rate.zoomCurve.maxLevel ≠ 0; omega)

theorem LevelsOk.planZoomIn {p : Planner} (h : p.LevelsOk) (hph : p.phase = .zoomIn)
    (t : Option Target) : (p.planZoomIn t).2.LevelsOk := by
  have hl := (phaseLevel_zoomIn p hph).mp h.level
  cases t with
  | none =>
    rw [planZoomIn_none]
    refine ⟨(phaseLevel_zoomOut _ rfl).mpr ⟨?_, Nat.le_of_eq hl⟩, h.tier, h.zoomStep⟩
    show 1 ≤ p.zoomLevel
    rw [hl]
    exact RateControl.maxLevel_pos _
  | some t =>
    by_cases hc : t.center = p.center
    · rw [planZoomIn_of_eq p hc]
      exact h
    · -- a pan starts: the pan tier changes, the zoom tier and curve do not
      rw [planZoomIn_of_ne p hc]
      refine ⟨(phaseLevel_panAndTilt _ rfl).mpr ⟨hl, ?_⟩, h.tier, h.zoomStep⟩
      show 0 < p.rate.refreshPan.panFramesNow ∨ 0 = 0 ∧ p.rate.refreshPan.panFramesNow = 0
      omega

theorem LevelsOk.planPan {p : Planner} (h : p.LevelsOk) (hph : p.phase = .panAndTilt) :
    p.planPan.2.LevelsOk := by
  have hl := ((phaseLevel_panAndTilt p hph).mp h.level).1
  rw [planPan_eq]
  dsimp only
  split_ifs with hdone
  · exact ⟨(phaseLevel_zoomIn _ rfl).mpr hl, h.tier, h.zoomStep⟩
  · -- the pan is not done after this frame, so a frame of it is left
    refine ⟨(phaseLevel_panAndTilt _ ?_).mpr ⟨hl, Or.inl ?_⟩, h.tier, h.zoomStep⟩
    · exact hph
    have hleft : ¬ p.pan.duration ≤ p.pan.step + 1 := fun h' => hdone (decide_eq_true h')
    show p.pan.step + 1 < p.pan.duration
    omega

theorem LevelsOk.planZoomOut {p : Planner} (h : p.LevelsOk) (hph : p.phase = .zoomOut)
    (hw : 0 < p.width) (hh : 0 < p.height) : p.planZoomOut.2.LevelsOk := by
  obtain ⟨h1, hM⟩ := (phaseLevel_zoomOut p hph).mp h.level
  rw [planZoomOut_eq]
  dsimp only
  split_ifs with h0
  · -- back in `normal` at level zero: the crop recomputed there cuts nothing
    refine LevelsOk.takeZoomTier ⟨(phaseLevel_normal _ rfl).mpr ⟨?_, fun hs _ => ?_⟩, h.tier,
      h.zoomStep⟩ rfl h0
    · show p.zoomLevel - 1 < p.rate.zoomCurve.maxLevel
      rw [h0]
      exact RateControl.maxLevel_pos _
    · exact placedCrop_of_zero h0 hs hw hh (h.zoomStep hs)
  · refine ⟨(phaseLevel_zoomOut _ ?_).mpr ⟨?_, ?_⟩, h.tier, h.zoomStep⟩
    · exact hph
    · show 1 ≤ p.zoomLevel - 1
      omega
    · show p.zoomLevel - 1 ≤ p.rate.zoomCurve.maxLevel
      omega

/-- Planning a frame keeps the invariant. -/
theorem LevelsOk.plan {p : Planner} (h : p.LevelsOk) (hw : 0 < p.width) (hh : 0 < p.height)
    (t : Option Target) : (p.plan t).2.LevelsOk := by
  unfold Planner.plan
  split
  · exact h.planNormal ‹_› hw hh t
  · exact h.planZoomIn ‹_› t
  · exact h.planPan ‹_›
  · exact h.planZoomOut ‹_› hw hh

/-- Every call keeps the invariant: recording a frame leaves the zoom tier and curve alone, and a
resize either keeps the planner or starts it over unzoomed. -/
theorem LevelsOk.step {p : Planner} (h : p.LevelsOk) (hw : 0 < p.width) (hh : 0 < p.height)
    (call : PlannerCall) : (p.step call).LevelsOk := by
  cases call with
  | plan t => exact h.plan hw hh t
  | recordFrame ms =>
    rw [step_recordFrame]
    exact ⟨h.level, h.tier, h.zoomStep⟩
  | resize width height =>
    rcases step_resize p width height with hs | ⟨-, -, hs⟩
    · rw [hs]
      exact h
    · rw [hs]
      exact ⟨(phaseLevel_normal _ rfl).mpr ⟨RateControl.maxLevel_pos _, fun _ _ => rfl⟩, h.tier,
        fun _ => ⟨within_zeroLit, within_zeroLit⟩⟩

/-- A created planner satisfies the invariant. -/
theorem LevelsOk.create {c : TrackingConfig} {width height : Nat} {p : Planner}
    (hc : create c width height = .ok p) : p.LevelsOk := by
  obtain ⟨-, -, rfl⟩ := create_eq hc
  exact ⟨(phaseLevel_normal _ rfl).mpr ⟨RateControl.maxLevel_pos _, fun _ _ => rfl⟩, rfl,
    fun _ => ⟨within_zeroLit, within_zeroLit⟩⟩

theorem Reachable.levelsOk {c : TrackingConfig} {p : Planner} (hp : Reachable c p) : p.LevelsOk := by
  induction hp with
  | create hc => exact LevelsOk.create hc
  | step call hp ih =>
    obtain ⟨hw, hh⟩ := hp.size_pos
    exact ih.step hw hh call

/-- In every reachable planner, with `M` the top level of the zoom curve of its current zoom tier:
in `normal` the level is below `M` and, unzoomed, the crop cuts nothing; zoomed in and panning the
level is `M`, and a pan under way has a frame left to take (or takes none); zooming out the level
is between `1` and `M`; and the planner's copy of the zoom tier is the rate control's. So the level
never reads the curve of another tier. Sides and zoom steps are 32-bit numbers, as in the
configuration and the frames the planner is given. -/
theorem reachable_levels {c : TrackingConfig} {p : Planner} (hp : Reachable c p)
    (hw : p.width ≤ Word.u32Max) (hh : p.height ≤ Word.u32Max)
    (hs : ∀ t : Tier, t.pick c.zoomTierSteps ≤ Word.u32Max) :
    (p.phase = .normal → p.zoomLevel < p.rate.zoomCurve.maxLevel ∧
        (p.zoomLevel = 0 → p.crop = Crop.identity)) ∧
      (p.phase = .zoomIn → p.zoomLevel = p.rate.zoomCurve.maxLevel) ∧
      (p.phase = .panAndTilt → p.zoomLevel = p.rate.zoomCurve.maxLevel ∧
        (p.pan.step < p.pan.duration ∨ p.pan.step = 0 ∧ p.pan.duration = 0)) ∧
      (p.phase = .zoomOut → 1 ≤ p.zoomLevel ∧ p.zoomLevel ≤ p.rate.zoomCurve.maxLevel) ∧
      p.zoomTier = p.rate.zoomTier := by
  have h := hp.levelsOk
  have hsized : p.Sized := by
    refine ⟨?_, ?_, fun t => ?_⟩
    · unfold Word.u32Max at hw
      omega
    · unfold Word.u32Max at hh
      omega
    · have := hs t
      unfold Word.u32Max at this
      rw [hp.zoomSteps]
      omega
  refine ⟨fun hph => ?_, fun hph => (phaseLevel_zoomIn p hph).mp h.level,
    fun hph => (phaseLevel_panAndTilt p hph).mp h.level,
    fun hph => (phaseLevel_zoomOut p hph).mp h.level, h.tier⟩
  obtain ⟨hlt, hu⟩ := (phaseLevel_normal p hph).mp h.level
  exact ⟨hlt, hu hsized⟩

/-- A planner with two zoom steps and three pan frames per tier zooms in on a face in two plans
and is caught one frame into its pan toward another face: at the top level, with the pan's step
below its duration, and the zoom tier its own. -/
theorem reachable_levels_panning :
    ∃ p₀ p, Planner.create { zoomTierSteps := ⟨2, 2, 2⟩, panTiltTierFrames := ⟨3, 3, 3⟩ } 640 480 =
        .ok p₀ ∧
      p₀.run [.plan (some ⟨⟨210, 170⟩, 100, 100⟩), .plan (some ⟨⟨210, 170⟩, 100, 100⟩),
        .plan (some ⟨⟨400, 300⟩, 100, 100⟩), .plan (some ⟨⟨400, 300⟩, 100, 100⟩)] = p ∧
      Reachable { zoomTierSteps := ⟨2, 2, 2⟩, panTiltTierFrames := ⟨3, 3, 3⟩ } p ∧
      p.width ≤ Word.u32Max ∧ p.height ≤ Word.u32Max ∧
      (∀ t : Tier, t.pick (⟨2, 2, 2⟩ : TierValues) ≤ Word.u32Max) ∧
      p.phase = .panAndTilt ∧ p.pan.step = 1 ∧ p.pan.duration = 3 ∧
      (p.phase = .normal → p.zoomLevel < p.rate.zoomCurve.maxLevel ∧
          (p.zoomLevel = 0 → p.crop = Crop.identity)) ∧
        (p.phase = .zoomIn → p.zoomLevel = p.rate.zoomCurve.maxLevel) ∧
        (p.phase = .panAndTilt → p.zoomLevel = p.rate.zoomCurve.maxLevel ∧
          (p.pan.step < p.pan.duration ∨ p.pan.step = 0 ∧ p.pan.duration = 0)) ∧
        (p.phase = .zoomOut → 1 ≤ p.zoomLevel ∧ p.zoomLevel ≤ p.rate.zoomCurve.maxLevel) ∧
        p.zoomTier = p.rate.zoomTier :=
  have hs : ∀ t : Tier, t.pick (⟨2, 2, 2⟩ : TierValues) ≤ Word.u32Max := fun t => by
    cases t <;> decide
  ⟨_, _, rfl, rfl, (@Reachable.create _ 640 480 _ rfl).run _, by decide +kernel,
    by decide +kernel, hs, by decide +kernel, by decide +kernel, by decide +kernel,
    reachable_levels ((@Reachable.create _ 640 480 _ rfl).run _) (by decide +kernel)
      (by decide +kernel) hs⟩

end Planner

end FaceFraming
