import FaceFraming.Proofs.Planner.Glide
import FaceFraming.Framing.Checked

/-!
# The planner's arithmetic stays in its words

`Planner.plan?` is a plan as an overflow-checked build runs it (`FaceFraming.Framing.Checked`):
every integer operation in its word, and a panic where one leaves it. This module proves that it
never panics. For every configuration whose planner settings the program can hold (a signed 32-bit
pan limit, unsigned 32-bit zoom steps and pan frames, valid or not), a planner created for a frame
of 32-bit sides and driven by any calls whose arguments the program can hold plans every frame in
its words, and computes there exactly what `Planner.plan` computes unbounded
(`plans_never_overflow`).

Three facts carry it:

* a pan's end lies between the aim point and the target on each axis, however the difference
  saturates (`panEnd_mem`), so it is a 32-bit point within the pan limit of the aim point;
* the interpolation multiplies a move of at most `2^31` pixels by at most `2^32 - 1` frames, which
  fits 64 bits, and lands between the pan's ends (`between_mem`), so narrowing it to 32 bits
  changes nothing (`between?_eq`);
* the level and the pan's frame count grow only below a 32-bit bound: the level is below the top
  of its curve in `normal`, and a pan under way has a frame left (`LevelsOk`).

The state the program holds is `Planner.InWords`; every call keeps it (`InWords.step`).
-/

namespace FaceFraming

/-! ### Values the program can hold -/

/-- A point whose coordinates are signed 32-bit values. -/
def Point.InWords (pt : Point) : Prop :=
  IntType.i32.Holds pt.x ∧ IntType.i32.Holds pt.y

instance (pt : Point) : Decidable pt.InWords :=
  inferInstanceAs (Decidable (_ ∧ _))

/-- Tier values that are unsigned 32-bit. -/
def TierValues.InWords (v : TierValues) : Prop :=
  v.fast ≤ Word.u32Max ∧ v.medium ≤ Word.u32Max ∧ v.slow ≤ Word.u32Max

instance (v : TierValues) : Decidable v.InWords :=
  inferInstanceAs (Decidable (_ ∧ _ ∧ _))

theorem TierValues.InWords.pick {v : TierValues} (h : v.InWords) (t : Tier) :
    t.pick v ≤ Word.u32Max := by
  cases t with
  | fast => exact h.1
  | medium => exact h.2.1
  | slow => exact h.2.2

/-- The planner's settings of a configuration as the program holds them, whether or not the
configuration is valid. -/
structure TrackingConfig.PlannerInWords (c : TrackingConfig) : Prop where
  limit : IntType.i32.Holds c.maxPanStep
  zoomSteps : c.zoomTierSteps.InWords
  panFrames : c.panTiltTierFrames.InWords

/-- A call whose arguments the program can hold: a target at a signed 32-bit point (its size is
read only as a double), frame sides of 32 bits. -/
def PlannerCall.InWords : PlannerCall → Prop
  | .plan target => ∀ t ∈ target, t.center.InWords
  | .recordFrame _ => True
  | .resize width height => width ≤ Word.u32Max ∧ height ≤ Word.u32Max

instance (call : PlannerCall) : Decidable call.InWords :=
  match call with
  | .plan target => inferInstanceAs (Decidable (∀ t ∈ target, t.center.InWords))
  | .recordFrame _ => inferInstanceAs (Decidable True)
  | .resize _ _ => inferInstanceAs (Decidable (_ ∧ _))

theorem Point.origin_inWords : Point.InWords ⟨0, 0⟩ := by
  decide

/-- A planner whose state the program can hold: 32-bit frame sides, pan limit, tier tables, aim
point and pan, with the pan's end at most the pan limit from its start on each axis. -/
structure Planner.InWords (p : Planner) : Prop where
  width : p.width ≤ Word.u32Max
  height : p.height ≤ Word.u32Max
  limit : IntType.i32.Holds p.maxPanStep
  zoomSteps : p.rate.zoomSteps.InWords
  panFrames : p.rate.panFrames.InWords
  center : p.center.InWords
  start : p.pan.start.InWords
  finish : p.pan.finish.InWords
  reach : p.pan.finish.supDist p.pan.start ≤ (max p.maxPanStep 0).toNat
  duration : p.pan.duration ≤ Word.u32Max

/-! ### Where the arithmetic lands -/

/-- On one axis, a pan from `c` toward `t` by the saturated difference clamped to `l` ends between
`c` and `t`: the clamp keeps the sign of the difference and cuts only its size. -/
theorem panEnd_mem {l : Int} (h0 : 0 ≤ l) (h2 : l ≤ Word.i32Max) (t c : Int) :
    min c t ≤ c + Word.clampInt (-l) l (Word.subSat32 t c) ∧
      c + Word.clampInt (-l) l (Word.subSat32 t c) ≤ max c t := by
  rw [clampInt_subSat32 h2]
  unfold Word.clampInt
  omega

theorem panEnd_holds {l : Int} (h0 : 0 ≤ l) (h2 : l ≤ Word.i32Max) {t c : Int}
    (ht : IntType.i32.Holds t) (hc : IntType.i32.Holds c) :
    IntType.i32.Holds (c + Word.clampInt (-l) l (Word.subSat32 t c)) := by
  have hm := panEnd_mem h0 h2 t c
  rw [IntType.holds_i32] at *
  omega

/-- The top level of a zoom curve read off 32-bit zoom steps is a 32-bit value. -/
theorem RateControl.maxLevel_le_u32 {r : RateControl} (h : r.zoomSteps.InWords) :
    r.zoomCurve.maxLevel ≤ Word.u32Max := by
  have hpick := h.pick r.zoomTier
  simp only [RateControl.zoomCurve, ZoomCurve.eased, ZoomCurve.maxLevel]
  unfold Word.u32Max at *
  omega

/-- A pan limit the program holds, made non-negative, is at most `2^31 - 1`. -/
theorem panLimit_mem {l : Int} (h : IntType.i32.Holds l) : 0 ≤ max l 0 ∧ max l 0 ≤ Word.i32Max := by
  rw [IntType.holds_i32] at h
  unfold Word.i32Max
  omega

namespace PanMove

/-- A point part of the way from `a` to `b` lies between them. -/
theorem between_mem (a b : Int) {s d : Nat} (hs : s ≤ d) :
    min a b ≤ between a b s d ∧ between a b s d ≤ max a b := by
  obtain ⟨m, rfl | rfl⟩ : ∃ m : Nat, b = a + m ∨ b = a - m := ⟨(b - a).natAbs, by omega⟩
  · rw [between_up]
    have hm := share_le m hs
    generalize m * s / d = u at *
    omega
  · rw [between_down]
    have hm := share_le m hs
    generalize m * s / d = u at *
    omega

theorem between_holds {a b : Int} (ha : IntType.i32.Holds a) (hb : IntType.i32.Holds b)
    {s d : Nat} (hs : s ≤ d) : IntType.i32.Holds (between a b s d) := by
  have hm := between_mem a b hs
  rw [IntType.holds_i32] at *
  omega

/-- Between signed 32-bit ends at most `2^31` apart, over at most `2^32 - 1` frames, each step of
the interpolation fits 64 bits, and narrowing the point to 32 bits changes nothing. -/
theorem between?_eq {a b : Int} (ha : IntType.i32.Holds a) (hb : IntType.i32.Holds b)
    (hab : (b - a).natAbs ≤ 2147483648) {s d : Nat} (hd : 0 < d) (hs : s ≤ d)
    (hd' : d ≤ Word.u32Max) : between? a b s d = .ok (between a b s d) := by
  -- the move times the frames taken is at most `2^31 · (2^32 - 1) < 2^63` in size
  have hpart : ((b - a) * s).natAbs ≤ 2147483648 * 4294967295 := by
    rw [Int.natAbs_mul, Int.natAbs_natCast]
    exact Nat.mul_le_mul hab (hs.trans hd')
  have hshare : (((b - a) * s).tdiv d).natAbs ≤ ((b - a) * s).natAbs := by
    rw [Int.natAbs_tdiv]
    exact Nat.div_le_self _ _
  have hpoint := between_holds ha hb hs
  unfold between at hpoint
  rw [IntType.holds_i32] at ha hb hpoint
  have hway : IntType.i64.Holds (b - a) := by
    rw [IntType.holds_i64]
    omega
  have hmul : IntType.i64.Holds ((b - a) * s) := by
    rw [IntType.holds_i64]
    omega
  have hdiv : IntType.i64.Holds (((b - a) * s).tdiv d) := by
    rw [IntType.holds_i64]
    omega
  have hsum : IntType.i64.Holds (a + ((b - a) * s).tdiv d) := by
    rw [IntType.holds_i64]
    omega
  simp only [between?, IntType.sub_of_holds hway, IntType.mul_of_holds hmul,
    IntType.div_of_holds (Int.natCast_ne_zero.mpr (by omega)) hdiv, IntType.add_of_holds hsum,
    Checked.ok_bind]
  rw [Word.wrap32_of_mem (by omega) (by omega)]
  rfl

theorem position_inWords {m : PanMove} (hs : m.start.InWords) (hf : m.finish.InWords) :
    m.position.InWords :=
  ⟨between_holds hs.1 hf.1 (by omega), between_holds hs.2 hf.2 (by omega)⟩

/-- A pan between signed 32-bit points at most `2^31` apart on each axis, over at most `2^32 - 1`
frames, stands where the unbounded interpolation puts it. -/
theorem position?_eq {m : PanMove} (hs : m.start.InWords) (hf : m.finish.InWords)
    (hr : m.finish.supDist m.start ≤ 2147483648) (hd : m.duration ≤ Word.u32Max) :
    m.position? = .ok m.position := by
  unfold Point.supDist at hr
  have hd1 : max m.duration 1 ≤ Word.u32Max := by
    unfold Word.u32Max at *
    omega
  simp only [position?, position,
    between?_eq hs.1 hf.1 (by omega) (by omega) (by omega : min m.step m.duration ≤ _) hd1,
    between?_eq hs.2 hf.2 (by omega) (by omega) (by omega : min m.step m.duration ≤ _) hd1,
    Checked.ok_bind]
  rfl

end PanMove

namespace Planner

/-- On an axis of `1 … 2^32 - 1` pixels, around a signed 32-bit center, placing a span fits
64 bits at every step, its clamps have their bounds in order, and the cuts narrow to 32 bits as
the unbounded ones do. -/
theorem placeSpan?_eq {frame : Nat} (h1 : 1 ≤ frame) (h2 : frame ≤ Word.u32Max) (trim : Float)
    {center : Int} (hc : IntType.i32.Holds center) :
    placeSpan? frame trim center = .ok (placeSpan frame trim center) := by
  unfold Word.u32Max at h2
  rw [IntType.holds_i32] at hc
  simp only [placeSpan?, placeSpan, clampChecked_of_le (show (1 : Int) ≤ frame by omega),
    Checked.ok_bind]
  generalize Double.roundClamped Word.i64Min Word.i64Max (Double.ofNat frame - trim) = r
  have hs1 := Word.le_clampInt 1 frame r
  have hs2 := Word.clampInt_le (show (1 : Int) ≤ frame by omega) r
  generalize Word.clampInt 1 frame r = span at hs1 hs2
  have hhalf : span.tdiv 2 = span / 2 := Int.tdiv_eq_ediv_of_nonneg (by omega)
  have hdiv : IntType.i64.Holds (span.tdiv 2) := by
    rw [hhalf, IntType.holds_i64]
    omega
  have hstart : IntType.i64.Holds (center - span.tdiv 2) := by
    rw [hhalf, IntType.holds_i64]
    omega
  have hroom : IntType.i64.Holds (frame - span) := by
    rw [IntType.holds_i64]
    omega
  have hb1 := Word.le_clampInt 0 (frame - span) (center - span.tdiv 2)
  have hb2 := Word.clampInt_le (show (0 : Int) ≤ frame - span by omega) (center - span.tdiv 2)
  have hafter :
      IntType.i64.Holds (frame - span - Word.clampInt 0 (frame - span) (center - span.tdiv 2)) := by
    rw [IntType.holds_i64]
    omega
  simp only [IntType.div_of_holds (by decide) hdiv, IntType.sub_of_holds hstart,
    IntType.sub_of_holds hroom, clampChecked_of_le (show (0 : Int) ≤ frame - span by omega),
    IntType.sub_of_holds hafter, Checked.ok_bind]
  rfl

variable {p : Planner}

/-- A frame of 32-bit sides and a signed 32-bit aim point place the crop in their words. -/
theorem placedCrop?_eq (hw : 1 ≤ p.width) (hw' : p.width ≤ Word.u32Max) (hh : 1 ≤ p.height)
    (hh' : p.height ≤ Word.u32Max) (hc : p.center.InWords) : p.placedCrop? = .ok p.placedCrop := by
  simp only [placedCrop?, placeSpan?_eq hw hw' _ hc.1, placeSpan?_eq hh hh' _ hc.2, Checked.ok_bind]
  rfl

theorem recompute?_eq (hw : 1 ≤ p.width) (hw' : p.width ≤ Word.u32Max) (hh : 1 ≤ p.height)
    (hh' : p.height ≤ Word.u32Max) (hc : p.center.InWords) : p.recompute? = .ok p.recompute := by
  simp only [recompute?, placedCrop?_eq hw hw' hh hh' hc, Checked.ok_bind]
  rfl

/-- In `normal`, a level below the largest 32-bit value steps up in its word, and the crop around
a signed 32-bit target is placed in its words. -/
theorem planNormal?_eq (hw : 1 ≤ p.width) (hw' : p.width ≤ Word.u32Max) (hh : 1 ≤ p.height)
    (hh' : p.height ≤ Word.u32Max) (hlevel : p.zoomLevel < Word.u32Max) {t : Option Target}
    (ht : ∀ u ∈ t, u.center.InWords) : p.planNormal? t = .ok (p.planNormal t) := by
  cases t with
  | none => rfl
  | some t =>
    -- revising the zoom tier at level zero keeps the level and the frame
    have hq : (if p.zoomLevel = 0 then p.takeZoomTier else p).zoomLevel = p.zoomLevel ∧
        (if p.zoomLevel = 0 then p.takeZoomTier else p).width = p.width ∧
        (if p.zoomLevel = 0 then p.takeZoomTier else p).height = p.height := by
      split_ifs <;> exact ⟨rfl, rfl, rfl⟩
    simp only [planNormal?, planNormal]
    generalize (if p.zoomLevel = 0 then p.takeZoomTier else p) = q at hq ⊢
    obtain ⟨hql, hqw, hqh⟩ := hq
    have hnext : IntType.u32.Holds (q.zoomLevel + 1) := by
      rw [IntType.holds_u32]
      unfold Word.u32Max at hlevel
      omega
    simp only [IntType.add_of_holds hnext, Checked.ok_bind, Int.toNat_natCast_add_one]
    rw [recompute?_eq (by exact hqw ▸ hw) (by exact hqw ▸ hw') (by exact hqh ▸ hh)
      (by exact hqh ▸ hh') (by exact ht t rfl)]
    rfl

/-- In `zoomIn`, the negated pan limit, the clamps and the end of a new pan stay in 32 bits. -/
theorem planZoomIn?_eq (hl : IntType.i32.Holds p.maxPanStep) (hc : p.center.InWords)
    {t : Option Target} (ht : ∀ u ∈ t, u.center.InWords) :
    p.planZoomIn? t = .ok (p.planZoomIn t) := by
  cases t with
  | none => rfl
  | some t =>
    by_cases he : t.center = p.center
    · simp only [planZoomIn?, planZoomIn, he, if_true]
      rfl
    · obtain ⟨h0, h2⟩ := panLimit_mem hl
      have hneg : IntType.i32.Holds (-max p.maxPanStep 0) := by
        rw [IntType.holds_i32]
        unfold Word.i32Max at h2
        omega
      simp only [planZoomIn?, planZoomIn, if_neg he, IntType.neg_of_holds hneg,
        clampChecked_of_le (show -max p.maxPanStep 0 ≤ max p.maxPanStep 0 by omega),
        IntType.add_of_holds (panEnd_holds h0 h2 (ht t rfl).1 hc.1),
        IntType.add_of_holds (panEnd_holds h0 h2 (ht t rfl).2 hc.2), Checked.ok_bind]
      rfl

/-- In `panAndTilt`, a frame count below the largest 32-bit value steps up in its word, and the
pan, between signed 32-bit points at most `2^31` apart, is interpolated in its words. -/
theorem planPan?_eq (hw : 1 ≤ p.width) (hw' : p.width ≤ Word.u32Max) (hh : 1 ≤ p.height)
    (hh' : p.height ≤ Word.u32Max) (hs : p.pan.start.InWords) (hf : p.pan.finish.InWords)
    (hr : p.pan.finish.supDist p.pan.start ≤ 2147483648) (hd : p.pan.duration ≤ Word.u32Max)
    (hstep : p.pan.step < Word.u32Max) : p.planPan? = .ok p.planPan := by
  have hnext : IntType.u32.Holds (p.pan.step + 1) := by
    rw [IntType.holds_u32]
    unfold Word.u32Max at hstep
    omega
  have hpos : p.pan.advance.position? = .ok p.pan.advance.position :=
    PanMove.position?_eq hs hf hr hd
  simp only [planPan?, planPan, IntType.add_of_holds hnext, Checked.ok_bind,
    Int.toNat_natCast_add_one]
  rw [show { p.pan with step := p.pan.step + 1 } = p.pan.advance from rfl, hpos, Checked.ok_bind,
    recompute?_eq (by exact hw) (by exact hw') (by exact hh) (by exact hh')
      (by exact PanMove.position_inWords hs hf)]
  rfl

/-- In `zoomOut`, the crop around a signed 32-bit aim point is placed in its words. -/
theorem planZoomOut?_eq (hw : 1 ≤ p.width) (hw' : p.width ≤ Word.u32Max) (hh : 1 ≤ p.height)
    (hh' : p.height ≤ Word.u32Max) (hc : p.center.InWords) : p.planZoomOut? = .ok p.planZoomOut := by
  simp only [planZoomOut?, planZoomOut]
  rw [recompute?_eq (by exact hw) (by exact hw') (by exact hh) (by exact hh') (by exact hc)]
  rfl

/-- A pan the program holds moves at most `2^31` pixels on each axis. -/
theorem InWords.reach_le (h : p.InWords) : p.pan.finish.supDist p.pan.start ≤ 2147483648 := by
  have hr := h.reach
  have hl := h.limit
  rw [IntType.holds_i32] at hl
  omega

/-- A planner the program holds, at a level its phase allows, plans any signed 32-bit target in
its words. -/
theorem plan?_eq (h : p.InWords) (hl : p.LevelsOk) (hw : 0 < p.width) (hh : 0 < p.height)
    {t : Option Target} (ht : ∀ u ∈ t, u.center.InWords) : p.plan? t = .ok (p.plan t) := by
  cases hph : p.phase with
  | normal =>
    -- the level is below the top of a curve read off 32-bit zoom steps
    have hlt := ((phaseLevel_normal p hph).mp hl.level).1
    have htop := RateControl.maxLevel_le_u32 h.zoomSteps
    simp only [plan?, plan, hph]
    exact planNormal?_eq hw h.width hh h.height (by omega) ht
  | zoomIn =>
    simp only [plan?, plan, hph]
    exact planZoomIn?_eq h.limit h.center ht
  | panAndTilt =>
    -- a pan under way has a frame left of at most `2^32 - 1`, or takes none
    have hleft := ((phaseLevel_panAndTilt p hph).mp hl.level).2
    have hd := h.duration
    simp only [plan?, plan, hph]
    refine planPan?_eq hw h.width hh h.height h.start h.finish h.reach_le hd ?_
    unfold Word.u32Max at hd ⊢
    omega
  | zoomOut =>
    simp only [plan?, plan, hph]
    exact planZoomOut?_eq hw h.width hh h.height h.center

/-! ### The state the program holds -/

/-- What a plan does to the aim point and the pan: the aim point stays, moves to the target, or
follows the pan a frame on; the pan keeps its ends and frames, or a new one starts at the aim
point toward the target, clamped to the pan limit, over the frames of the revised pan tier. -/
theorem plan_center_pan (p : Planner) (t : Option Target) :
    ((p.plan t).2.center = p.center ∨ (∃ u ∈ t, (p.plan t).2.center = u.center) ∨
        (p.plan t).2.center = p.pan.advance.position) ∧
      ((p.plan t).2.pan.start = p.pan.start ∧ (p.plan t).2.pan.finish = p.pan.finish ∧
          (p.plan t).2.pan.duration = p.pan.duration ∨
        ∃ u ∈ t, (p.plan t).2.pan.start = p.center ∧
          (p.plan t).2.pan.finish =
            ⟨p.center.x + Word.clampInt (-max p.maxPanStep 0) (max p.maxPanStep 0)
                (Word.subSat32 u.center.x p.center.x),
              p.center.y + Word.clampInt (-max p.maxPanStep 0) (max p.maxPanStep 0)
                (Word.subSat32 u.center.y p.center.y)⟩ ∧
          (p.plan t).2.pan.duration = p.rate.refreshPan.panFramesNow) := by
  unfold plan
  split
  · cases t with
    | none =>
      rcases Nat.eq_zero_or_pos p.zoomLevel with h0 | hpos
      · simp [planNormal_none_of_zero p h0]
      · simp [planNormal_none_of_pos p hpos]
    | some u =>
      rw [planNormal_some]
      dsimp only
      split_ifs <;> simp
  · cases t with
    | none => simp [planZoomIn_none]
    | some u =>
      by_cases hc : u.center = p.center
      · simp [planZoomIn_of_eq p hc]
      · rw [planZoomIn_of_ne p hc]
        exact ⟨Or.inl rfl, Or.inr ⟨u, rfl, rfl, rfl, rfl⟩⟩
  · rw [planPan_eq]
    dsimp only
    split_ifs <;> simp [PanMove.advance]
  · rw [planZoomOut_eq]
    dsimp only
    split_ifs <;> simp

theorem InWords.plan (h : p.InWords) {t : Option Target} (ht : ∀ u ∈ t, u.center.InWords) :
    (p.plan t).2.InWords := by
  obtain ⟨hc, hpan⟩ := plan_center_pan p t
  have hcenter : (p.plan t).2.center.InWords := by
    rcases hc with hc | ⟨u, hu, hc⟩ | hc
    · exact hc ▸ h.center
    · exact hc ▸ ht u hu
    · exact hc ▸ PanMove.position_inWords h.start h.finish
  have hkeep : (p.plan t).2.width ≤ Word.u32Max ∧ (p.plan t).2.height ≤ Word.u32Max ∧
      IntType.i32.Holds (p.plan t).2.maxPanStep ∧ (p.plan t).2.rate.zoomSteps.InWords ∧
      (p.plan t).2.rate.panFrames.InWords := by
    simpa using ⟨h.width, h.height, h.limit, h.zoomSteps, h.panFrames⟩
  obtain ⟨hw, hh, hl, hz, hf⟩ := hkeep
  rcases hpan with ⟨hs, hfin, hd⟩ | ⟨u, hu, hs, hfin, hd⟩
  · refine ⟨hw, hh, hl, hz, hf, hcenter, hs ▸ h.start, hfin ▸ h.finish, ?_, hd ▸ h.duration⟩
    rw [hs, hfin, plan_maxPanStep]
    exact h.reach
  · -- a new pan: from the aim point to a point between it and the target, within the limit
    obtain ⟨h0, h2⟩ := panLimit_mem h.limit
    refine ⟨hw, hh, hl, hz, hf, hcenter, hs ▸ h.center, ?_, ?_, ?_⟩
    · rw [hfin]
      exact ⟨panEnd_holds h0 h2 (ht u hu).1 h.center.1, panEnd_holds h0 h2 (ht u hu).2 h.center.2⟩
    · rw [hs, hfin, plan_maxPanStep]
      exact supDist_panTarget_start h0 u.center p.center
    · rw [hd]
      exact h.panFrames.pick _

/-- Every call whose arguments the program can hold keeps the planner in its words. -/
theorem InWords.step (h : p.InWords) {call : PlannerCall} (hcall : call.InWords) :
    (p.step call).InWords := by
  cases call with
  | plan t => exact h.plan hcall
  | recordFrame ms =>
    exact ⟨h.width, h.height, h.limit, h.zoomSteps, h.panFrames, h.center, h.start, h.finish,
      h.reach, h.duration⟩
  | resize width height =>
    rcases step_resize p width height with hs | ⟨-, -, hs⟩
    · rw [hs]
      exact h
    · -- a new frame of 32-bit sides, aimed at the origin, with no pan
      rw [hs]
      exact ⟨hcall.1, hcall.2, h.limit, h.zoomSteps, h.panFrames, Point.origin_inWords,
        Point.origin_inWords, Point.origin_inWords, Nat.zero_le _, Nat.zero_le _⟩

theorem InWords.run (h : p.InWords) {calls : List PlannerCall}
    (hcalls : ∀ call ∈ calls, call.InWords) : (p.run calls).InWords := by
  induction calls generalizing p with
  | nil => exact h
  | cons call calls ih =>
    exact ih (h.step (hcalls call (List.mem_cons_self ..)))
      (fun c hc => hcalls c (List.mem_cons_of_mem _ hc))

/-- A planner created for a configuration and a frame the program holds is in its words. -/
theorem InWords.create {c : TrackingConfig} (hc : c.PlannerInWords) {W H : Nat}
    (h₀ : create c W H = .ok p) (hW : W ≤ Word.u32Max) (hH : H ≤ Word.u32Max) : p.InWords := by
  obtain ⟨-, -, rfl⟩ := create_eq h₀
  exact ⟨hW, hH, hc.limit, hc.zoomSteps, hc.panFrames, Point.origin_inWords, Point.origin_inWords,
    Point.origin_inWords, Nat.zero_le _, Nat.zero_le _⟩

/-- For a configuration whose planner settings the program can hold (a signed 32-bit pan limit,
unsigned 32-bit zoom steps and pan frames, whether or not it is valid), a planner created for a
frame of 32-bit sides and then given any calls whose arguments the program can hold (targets at
signed 32-bit points, of any size, frame sizes of 32 bits, any timestamps) plans the next frame,
for any such target, without an integer operation leaving its word: the overflow-checked plan is
the plan. The planner it leaves is again one the program holds. -/
theorem plans_never_overflow {c : TrackingConfig} (hc : c.PlannerInWords) {W H : Nat}
    (h₀ : create c W H = .ok p) (hW : W ≤ Word.u32Max) (hH : H ≤ Word.u32Max)
    {calls : List PlannerCall} (hcalls : ∀ call ∈ calls, call.InWords) {t : Option Target}
    (ht : ∀ u ∈ t, u.center.InWords) :
    (p.run calls).plan? t = .ok ((p.run calls).plan t) ∧ ((p.run calls).plan t).2.InWords := by
  have hp : Reachable c (p.run calls) := (Reachable.create h₀).run calls
  have hw := (InWords.create hc h₀ hW hH).run hcalls
  obtain ⟨hpw, hph⟩ := hp.size_pos
  exact ⟨plan?_eq hw hp.levelsOk hpw hph ht, hw.plan ht⟩

theorem plans_never_overflow_corners :
    ∃ p, Planner.create {} 4294967295 4294967295 = .ok p ∧
      (p.run [.plan (some ⟨⟨2147483647, -2147483648⟩, 4294967295, 4294967295⟩)]).plan?
          (some ⟨⟨-2147483648, 2147483647⟩, 1, 1⟩) =
        .ok ((p.run [.plan (some ⟨⟨2147483647, -2147483648⟩, 4294967295, 4294967295⟩)]).plan
          (some ⟨⟨-2147483648, 2147483647⟩, 1, 1⟩)) :=
  ⟨_, rfl, (plans_never_overflow (c := {}) (W := 4294967295) (H := 4294967295)
    ⟨by decide, by decide, by decide⟩ rfl (by decide) (by decide) (by decide) (by decide)).1⟩

end Planner

end FaceFraming
