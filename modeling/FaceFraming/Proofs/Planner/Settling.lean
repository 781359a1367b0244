import FaceFraming.Proofs.Planner.Levels

/-!
# The planner settles

Planned over and over with no target, the planner zooms out and rests in `normal`, unzoomed and
cutting nothing; planned over and over with one target, it zooms in and pans until it rests zoomed
in on the target's center. This module bounds how many plans each takes, from any reachable
planner, for a configuration that `validate` accepts. With `S` the largest number of zoom steps
and `P` the largest number of pan frames over the tiers:

* without a target, at most `S + P + 1` plans (`settles_without_target`): the rest of a pan, one
  plan to leave `zoomIn`, one per level on the way down;
* with a target `T`, at most `2S + (P + 1)(k + 2)` plans (`settles_on_target`), where `k` pans of
  the pan limit `L` span the distance from the aim point to `T`: a zoom-out and a zoom-in, or the
  rest of a pan and `k + 1` more pans of at most `P + 1` plans each.

`plans_settle` states both, with `k` the distance over `L` rounded up (`panRounds`).

Each bound comes from a measure of the planner (`idleLeft`, `chaseLeft`) that no recorded frame
changes and every plan lowers by one until it is zero, which is exactly when the planner rests
(`Reachable.measure_run`). The pans are counted in the sup distance to the target
(`Point.supDist`): a pan moves each axis by the pan limit or onto the target, so it takes `L` off
that distance (`supDist_panTarget`), even when the difference saturates at 32 bits. A pan under
way stands at most `L` from its end, so its end is at most one pan further from the target than
the aim point is (`PanOk`).
-/

namespace FaceFraming

/-! ### Validated configurations -/

/-- The largest value of a tier group. -/
def TierValues.largest (v : TierValues) : Nat :=
  max v.fast (max v.medium v.slow)

theorem TierValues.pick_le_largest (v : TierValues) (t : Tier) : t.pick v ≤ v.largest := by
  cases t <;> simp only [Tier.pick, TierValues.largest] <;> omega

/-- A tier group with no zero has every value positive. -/
theorem TierValues.pick_pos {v : TierValues} (h : v.anyZero = false) (t : Tier) : 0 < t.pick v := by
  simp only [TierValues.anyZero, Bool.or_eq_false_iff, decide_eq_false_iff_not] at h
  cases t <;> simp only [Tier.pick] <;> omega

/-- A check that refuses leaves the rest to decide only when it passes. -/
theorem ok_of_ite_error {p : Prop} [Decidable p] {e : EngineError} {x : Except EngineError Unit}
    (h : (if p then .error e else x) = .ok ()) : ¬p ∧ x = .ok () := by
  by_cases hp : p
  · rw [if_pos hp] at h
    cases h
  · rw [if_neg hp] at h
    exact ⟨hp, h⟩

/-- What `validate` guarantees the planner: a positive pan limit and positive zoom steps and pan
frames in every tier. -/
theorem TrackingConfig.validate_ok {c : TrackingConfig} (h : c.validate = .ok ()) :
    0 < c.maxPanStep ∧ (∀ t : Tier, 0 < t.pick c.zoomTierSteps) ∧
      ∀ t : Tier, 0 < t.pick c.panTiltTierFrames := by
  unfold TrackingConfig.validate at h
  dsimp only at h
  -- the checks in order: faces, leaps, window, rate window, tiers, thresholds, pan limit
  obtain ⟨-, h⟩ := ok_of_ite_error h
  obtain ⟨-, h⟩ := ok_of_ite_error h
  obtain ⟨-, h⟩ := ok_of_ite_error h
  obtain ⟨-, h⟩ := ok_of_ite_error h
  obtain ⟨htiers, h⟩ := ok_of_ite_error h
  obtain ⟨-, h⟩ := ok_of_ite_error h
  obtain ⟨hpan, -⟩ := ok_of_ite_error h
  simp only [Bool.or_eq_true, not_or, Bool.not_eq_true] at htiers
  exact ⟨by omega, TierValues.pick_pos htiers.1, TierValues.pick_pos htiers.2⟩

/-! ### Distances and pans -/

/-- The larger of the two axis distances between two points. -/
def Point.supDist (a b : Point) : Nat :=
  max (a.x - b.x).natAbs (a.y - b.y).natAbs

theorem Point.supDist_eq_zero {a b : Point} : a.supDist b = 0 ↔ a = b := by
  cases a
  cases b
  simp only [Point.supDist, Point.mk.injEq]
  omega

/-- The pans of at most `L` pixels per axis that cover a distance `d`, rounded up. -/
def panRounds (d L : Nat) : Nat :=
  (d + L - 1) / L

section Rounds

variable {L : Nat} (hL : 0 < L)
include hL

theorem panRounds_zero : panRounds 0 L = 0 := by
  simp only [panRounds, Nat.zero_add]
  exact Nat.div_eq_of_lt (by omega)

theorem panRounds_pos {d : Nat} (hd : 0 < d) : 0 < panRounds d L := by
  unfold panRounds
  exact Nat.div_pos (by omega) hL

/-- One pan of `L` takes one round off a positive distance. -/
theorem panRounds_sub {d : Nat} (hd : 0 < d) : panRounds (d - L) L = panRounds d L - 1 := by
  unfold panRounds
  by_cases hdL : L ≤ d
  · -- a full pan: one round of `L` comes off the rounded-up quotient
    have h : d + L - 1 = (d - L + L - 1) + 1 * L := by omega
    rw [h, Nat.add_mul_div_right _ _ hL, Nat.add_sub_cancel]
  · -- a last, shorter pan: one round before, none after
    have h0 : (d - L + L - 1) / L = 0 := Nat.div_eq_of_lt (by omega)
    have h1 : (d + L - 1) / L = 1 := Nat.div_eq_of_lt_le (by omega) (by omega)
    omega

/-- The pans counted cover the distance. -/
theorem le_panRounds_mul (d : Nat) : d ≤ panRounds d L * L := by
  unfold panRounds
  have hsplit := Nat.div_add_mod (d + L - 1) L
  have hrem := Nat.mod_lt (d + L - 1) hL
  rw [Nat.mul_comm] at hsplit
  omega

/-- `k` pans of `L` cover every distance up to `k * L`. -/
theorem panRounds_le {d k : Nat} (hd : d ≤ k * L) : panRounds d L ≤ k := by
  unfold panRounds
  rw [Nat.div_le_iff_le_mul_add_pred hL, Nat.mul_comm]
  omega

end Rounds

section PanAxis

variable {l : Int}

/-- Clamped to a 32-bit limit, a difference saturated at 32 bits is the difference clamped:
saturation only ever cuts beyond the limit. -/
theorem clampInt_subSat32 (h2 : l ≤ Word.i32Max) (t a : Int) :
    Word.clampInt (-l) l (Word.subSat32 t a) = Word.clampInt (-l) l (t - a) := by
  unfold Word.i32Max at h2
  simp only [Word.subSat32, Word.clampInt, Word.i32Min, Word.i32Max]
  omega

/-- On one axis, a pan step toward `t` clamped to `l` takes `l` off the distance to `t`. -/
theorem natAbs_panStep (h1 : 1 ≤ l) (h2 : l ≤ Word.i32Max) (t a : Int) :
    (t - (a + Word.clampInt (-l) l (Word.subSat32 t a))).natAbs = (t - a).natAbs - l.toNat := by
  rw [clampInt_subSat32 h2]
  unfold Word.clampInt
  omega

theorem natAbs_clampInt_le (h0 : 0 ≤ l) (x : Int) : (Word.clampInt (-l) l x).natAbs ≤ l.toNat := by
  unfold Word.clampInt
  omega

end PanAxis

/-- A pan from `c` toward `T`, each axis moved by the difference saturated at 32 bits and clamped
to the limit `l`, takes `l` off the distance to `T`. Saturation does not matter: a saturated
difference is still beyond the limit. -/
theorem supDist_panTarget {l : Int} (h1 : 1 ≤ l) (h2 : l ≤ Word.i32Max) (T c : Point) :
    T.supDist ⟨c.x + Word.clampInt (-l) l (Word.subSat32 T.x c.x),
               c.y + Word.clampInt (-l) l (Word.subSat32 T.y c.y)⟩ = T.supDist c - l.toNat := by
  simp only [Point.supDist, natAbs_panStep h1 h2]
  generalize (T.x - c.x).natAbs = dx
  generalize (T.y - c.y).natAbs = dy
  omega

/-- Such a pan ends at most `l` from where it started on each axis. -/
theorem supDist_panTarget_start {l : Int} (h0 : 0 ≤ l) (T c : Point) :
    Point.supDist ⟨c.x + Word.clampInt (-l) l (Word.subSat32 T.x c.x),
                   c.y + Word.clampInt (-l) l (Word.subSat32 T.y c.y)⟩ c ≤ l.toNat := by
  have hx := natAbs_clampInt_le h0 (Word.subSat32 T.x c.x)
  have hy := natAbs_clampInt_le h0 (Word.subSat32 T.y c.y)
  have ex : c.x + Word.clampInt (-l) l (Word.subSat32 T.x c.x) - c.x =
      Word.clampInt (-l) l (Word.subSat32 T.x c.x) := by omega
  have ey : c.y + Word.clampInt (-l) l (Word.subSat32 T.y c.y) - c.y =
      Word.clampInt (-l) l (Word.subSat32 T.y c.y) := by omega
  simp only [Point.supDist, ex, ey]
  omega

namespace PanMove

/-- A point part of the way from `a` to `b` is no farther from `b` than `a` is. -/
theorem between_near_end (a b : Int) {s d : Nat} (hs : s ≤ d) :
    (b - between a b s d).natAbs ≤ (b - a).natAbs := by
  -- the part of the way taken is at most the whole way, in the direction of the whole way
  have hsize : (((b - a) * s).tdiv d).natAbs ≤ (b - a).natAbs := by
    rw [Int.natAbs_tdiv, Int.natAbs_mul, Int.natAbs_natCast, Int.natAbs_natCast]
    exact Nat.div_le_of_le_mul (by rw [Nat.mul_comm d]; exact Nat.mul_le_mul_left _ hs)
  have hup : 0 ≤ b - a → 0 ≤ ((b - a) * s).tdiv d := fun h =>
    Int.tdiv_nonneg (Int.mul_nonneg h (Int.natCast_nonneg s)) (Int.natCast_nonneg d)
  have hdown : b - a ≤ 0 → ((b - a) * s).tdiv d ≤ 0 := by
    intro h
    have hneg : 0 ≤ (-((b - a) * s)).tdiv d :=
      Int.tdiv_nonneg (by have := Int.mul_nonneg (Int.neg_nonneg.mpr h) (Int.natCast_nonneg s)
                          rw [Int.neg_mul] at this
                          exact this) (Int.natCast_nonneg d)
    rw [Int.neg_tdiv] at hneg
    omega
  unfold between
  omega

/-- Wherever a pan stands, it is no farther from its end than its start is. -/
theorem supDist_finish_position (m : PanMove) :
    m.finish.supDist m.position ≤ m.finish.supDist m.start := by
  have hs : min m.step m.duration ≤ max m.duration 1 := by omega
  have hx := between_near_end m.start.x m.finish.x hs
  have hy := between_near_end m.start.y m.finish.y hs
  simp only [Point.supDist, position]
  omega

/-- Frames of a pan left to take. -/
def left (m : PanMove) : Nat :=
  m.duration - m.step

end PanMove

theorem Point.supDist_comm (a b : Point) : a.supDist b = b.supDist a := by
  have hx : (a.x - b.x).natAbs = (b.x - a.x).natAbs := by rw [← Int.natAbs_neg, Int.neg_sub]
  have hy : (a.y - b.y).natAbs = (b.y - a.y).natAbs := by rw [← Int.natAbs_neg, Int.neg_sub]
  simp only [Point.supDist, hx, hy]

/-- One axis at a time: the way from `a` to `d` through `b`. -/
theorem Point.supDist_triangle (a b d : Point) : a.supDist d ≤ a.supDist b + b.supDist d := by
  have hx : (a.x - d.x).natAbs ≤ (a.x - b.x).natAbs + (b.x - d.x).natAbs := by
    rw [show a.x - d.x = (a.x - b.x) + (b.x - d.x) by omega]
    exact Int.natAbs_add_le _ _
  have hy : (a.y - d.y).natAbs ≤ (a.y - b.y).natAbs + (b.y - d.y).natAbs := by
    rw [show a.y - d.y = (a.y - b.y) + (b.y - d.y) by omega]
    exact Int.natAbs_add_le _ _
  unfold Point.supDist
  generalize (a.x - d.x).natAbs = xad at hx ⊢
  generalize (a.y - d.y).natAbs = yad at hy ⊢
  omega

/-! ### Runs of plans for one target -/

namespace PlannerCall

/-- Whether a call plans. -/
def isPlan : PlannerCall → Bool
  | .plan _ => true
  | _ => false

/-- A call that plans with the target `t`, or records a frame. -/
def Plans (t : Option Target) : PlannerCall → Prop
  | .plan t' => t' = t
  | .recordFrame _ => True
  | .resize _ _ => False

end PlannerCall

namespace Planner

variable {c : TrackingConfig} {p : Planner}

/-- Planning and recording frames keep the frame size. -/
theorem run_size {t : Option Target} {calls : List PlannerCall}
    (hcalls : ∀ call ∈ calls, call.Plans t) :
    (p.run calls).width = p.width ∧ (p.run calls).height = p.height := by
  induction calls generalizing p with
  | nil => exact ⟨rfl, rfl⟩
  | cons call calls ih =>
    have hrest := ih (p := p.step call) (fun call' h => hcalls call' (List.mem_cons_of_mem _ h))
    rw [run_cons]
    cases call with
    | plan t' => simpa using hrest
    | recordFrame ms => exact hrest
    | resize width height => exact absurd (hcalls _ List.mem_cons_self) id

/-- A measure that no recorded frame changes and that every plan with the target `t` lowers by one
(or keeps at zero) falls by the number of plans along any run of such calls. -/
theorem Reachable.measure_run {f : Planner → Nat} {t : Option Target}
    (hplan : ∀ q, Reachable c q → f (q.step (.plan t)) ≤ f q - 1)
    (hrecord : ∀ q ms, f (q.step (.recordFrame ms)) = f q)
    (hp : Reachable c p) {calls : List PlannerCall} (hcalls : ∀ call ∈ calls, call.Plans t) :
    f (p.run calls) ≤ f p - calls.countP PlannerCall.isPlan := by
  induction calls generalizing p with
  | nil => simp
  | cons call calls ih =>
    have hrest := ih (hp.step call) (fun call' h => hcalls call' (List.mem_cons_of_mem _ h))
    rw [run_cons, List.countP_cons]
    cases call with
    | plan t' =>
      obtain rfl : t' = t := hcalls _ List.mem_cons_self
      have := hplan p hp
      simp only [PlannerCall.isPlan, if_true]
      omega
    | recordFrame ms =>
      rw [hrecord] at hrest
      simpa [PlannerCall.isPlan] using hrest
    | resize width height => exact absurd (hcalls _ List.mem_cons_self) id

/-! ### Pans under way -/

/-- The pans of a reachable planner, for a configuration with pan frames in every tier: the
planner keeps the configuration's pan limit and pan frames, and a pan under way takes between one
and `P` frames, stands where the planner aims, and ends at most the pan limit from its start on
each axis. -/
structure PanOk (c : TrackingConfig) (p : Planner) : Prop where
  limit : p.maxPanStep = c.maxPanStep
  frames : p.rate.panFrames = c.panTiltTierFrames
  pan : p.phase = .panAndTilt → 0 < p.pan.duration ∧
    p.pan.duration ≤ c.panTiltTierFrames.largest ∧ p.center = p.pan.position ∧
    p.pan.finish.supDist p.pan.start ≤ c.maxPanStep.toNat

theorem PanOk.plan (h : PanOk c p) (hpos : ∀ t : Tier, 0 < t.pick c.panTiltTierFrames)
    (t : Option Target) : PanOk c (p.plan t).2 := by
  refine ⟨by simpa using h.limit, by simpa using h.frames, fun hph => ?_⟩
  cases hp : p.phase with
  | normal =>
    -- `normal` leads to `normal`, `zoomOut` or `zoomIn`
    simp only [Planner.plan, hp] at hph
    cases t with
    | none =>
      rcases Nat.eq_zero_or_pos p.zoomLevel with h0 | hlev
      · rw [planNormal_none_of_zero p h0] at hph
        simp [hp] at hph
      · rw [planNormal_none_of_pos p hlev] at hph
        simp at hph
    | some t =>
      rw [planNormal_some] at hph
      dsimp only at hph
      split_ifs at hph <;> simp_all
  | zoomIn =>
    simp only [Planner.plan, hp] at hph ⊢
    cases t with
    | none => simp [planZoomIn_none] at hph
    | some t =>
      by_cases hc : t.center = p.center
      · rw [planZoomIn_of_eq p hc] at hph
        simp [hp] at hph
      · -- a new pan: its frames come from the configuration, it starts where the planner aims
        rw [planZoomIn_of_ne p hc]
        refine ⟨?_, ?_, by simp [PanMove.position], ?_⟩
        · simp only [RateControl.panFramesNow, RateControl.refreshPan, h.frames]
          exact hpos _
        · simp only [RateControl.panFramesNow, RateControl.refreshPan, h.frames]
          exact TierValues.pick_le_largest _ _
        · refine Nat.le_trans
            (supDist_panTarget_start (Int.le_max_right p.maxPanStep 0) t.center p.center) ?_
          rw [h.limit]
          omega
  | panAndTilt =>
    simp only [Planner.plan, hp] at hph ⊢
    obtain ⟨hd, hP, -, hext⟩ := h.pan hp
    rw [planPan_eq] at hph ⊢
    dsimp only at hph ⊢
    -- a pan that is done returns to `zoomIn`; one that is not keeps its frames and ends
    split_ifs at hph ⊢
    exact ⟨hd, hP, rfl, hext⟩
  | zoomOut =>
    simp only [Planner.plan, hp] at hph
    rw [planZoomOut_eq] at hph
    dsimp only at hph
    split_ifs at hph <;> simp_all

theorem PanOk.step (h : PanOk c p) (hpos : ∀ t : Tier, 0 < t.pick c.panTiltTierFrames)
    (call : PlannerCall) : PanOk c (p.step call) := by
  cases call with
  | plan t => exact h.plan hpos t
  | recordFrame ms => exact ⟨h.limit, h.frames, h.pan⟩
  | resize width height =>
    rcases step_resize p width height with hs | ⟨-, -, hs⟩
    · rw [hs]
      exact h
    · rw [hs]
      exact ⟨h.limit, h.frames, fun hph => absurd hph (by simp)⟩

theorem Reachable.panOk (hpos : ∀ t : Tier, 0 < t.pick c.panTiltTierFrames) (hp : Reachable c p) :
    PanOk c p := by
  induction hp with
  | create hc =>
    obtain ⟨-, -, rfl⟩ := create_eq hc
    exact ⟨rfl, rfl, fun hph => absurd hph (by simp)⟩
  | step call _ ih => exact ih.step hpos call

/-- With zoom steps in every tier, the top level of a reachable planner's curve is at most the
largest zoom steps. -/
theorem Reachable.maxLevel_le (hz : ∀ t : Tier, 0 < t.pick c.zoomTierSteps) (hp : Reachable c p)
    (r : RateControl) (hr : r.zoomSteps = p.rate.zoomSteps) :
    r.zoomCurve.maxLevel ≤ c.zoomTierSteps.largest := by
  have hpos := hz r.zoomTier
  have hle := TierValues.pick_le_largest c.zoomTierSteps r.zoomTier
  simp only [RateControl.zoomCurve, ZoomCurve.eased, ZoomCurve.maxLevel, hr, hp.zoomSteps]
  omega

/-! ### Planning without a target -/

/-- The plans without a target the planner takes to rest in `normal`, unzoomed: what is left of a
pan, one plan to leave `zoomIn` or `normal`, and one per level down. -/
def idleLeft (p : Planner) : Nat :=
  match p.phase with
  | .normal => if p.zoomLevel = 0 then 0 else p.zoomLevel + 1
  | .zoomIn => p.zoomLevel + 1
  | .panAndTilt => p.pan.left + p.zoomLevel + 1
  | .zoomOut => p.zoomLevel

/-- A pan under way has a frame left: the planner's levels and its pans, for a configuration with
pan frames in every tier. -/
theorem pan_step_lt (hl : p.LevelsOk) (hpan : PanOk c p) (hph : p.phase = .panAndTilt) :
    p.pan.step < p.pan.duration := by
  have hd := (hpan.pan hph).1
  have hs := ((phaseLevel_panAndTilt p hph).mp hl.level).2
  omega

/-- Every plan without a target brings the planner one plan nearer to rest. -/
theorem idleLeft_plan (hl : p.LevelsOk) (hpan : PanOk c p) :
    (p.plan none).2.idleLeft = p.idleLeft - 1 := by
  cases hp : p.phase with
  | normal =>
    simp only [Planner.plan, hp]
    rcases Nat.eq_zero_or_pos p.zoomLevel with h0 | hlev
    · rw [planNormal_none_of_zero p h0]
      simp [idleLeft, hp, h0]
    · rw [planNormal_none_of_pos p hlev]
      simp [idleLeft, hp, Nat.pos_iff_ne_zero.mp hlev]
  | zoomIn => simp [Planner.plan, hp, planZoomIn_none, idleLeft]
  | panAndTilt =>
    have hs := pan_step_lt hl hpan hp
    simp only [Planner.plan, hp]
    rw [planPan_eq]
    dsimp only
    split_ifs with hdone
    · -- the last frame of the pan: back in `zoomIn`
      have hlast : p.pan.duration ≤ p.pan.step + 1 := of_decide_eq_true hdone
      simp [idleLeft, hp, PanMove.left]
      omega
    · simp [idleLeft, hp, PanMove.left, PanMove.advance]
      omega
  | zoomOut =>
    have h1 := ((phaseLevel_zoomOut p hp).mp hl.level).1
    simp only [Planner.plan, hp]
    rw [planZoomOut_eq]
    dsimp only
    split_ifs with h0
    · simp [idleLeft, hp, h0]
    · simp [idleLeft, hp]

/-- From a reachable planner, at most `S + P + 1` plans without a target are left. -/
theorem idleLeft_le (hz : ∀ t : Tier, 0 < t.pick c.zoomTierSteps) (hp : Reachable c p)
    (hpan : PanOk c p) :
    p.idleLeft ≤ c.zoomTierSteps.largest + c.panTiltTierFrames.largest + 1 := by
  have hl := hp.levelsOk
  have hM := hp.maxLevel_le hz p.rate rfl
  cases hph : p.phase with
  | normal =>
    have := ((phaseLevel_normal p hph).mp hl.level).1
    simp only [idleLeft, hph]
    split_ifs <;> omega
  | zoomIn =>
    have := (phaseLevel_zoomIn p hph).mp hl.level
    simp only [idleLeft, hph]
    omega
  | panAndTilt =>
    have := ((phaseLevel_panAndTilt p hph).mp hl.level).1
    have hP := (hpan.pan hph).2.1
    simp only [idleLeft, hph, PanMove.left]
    omega
  | zoomOut =>
    have := ((phaseLevel_zoomOut p hph).mp hl.level).2
    simp only [idleLeft, hph]
    omega

/-- No plan without a target is left only at rest: in `normal`, unzoomed. -/
theorem idleLeft_eq_zero (hl : p.LevelsOk) (h : p.idleLeft = 0) :
    p.phase = .normal ∧ p.zoomLevel = 0 := by
  cases hph : p.phase with
  | normal =>
    simp only [idleLeft, hph] at h
    split_ifs at h with h0
    exact ⟨rfl, h0⟩
  | zoomIn => simp [idleLeft, hph] at h
  | panAndTilt => simp [idleLeft, hph] at h
  | zoomOut =>
    have := ((phaseLevel_zoomOut p hph).mp hl.level).1
    simp only [idleLeft, hph] at h
    omega

/-! ### Planning toward one target -/

/-- A bound on the plans toward a target at `T` until the planner rests zoomed in on it, with `S`
the largest zoom steps, `P` the largest pan frames and `L` the pan limit of `c`: the levels left to
zoom in (after those left to zoom out), or the frames left of the pan under way and the pans left
after it, at `P + 1` plans each. -/
def chaseLeft (c : TrackingConfig) (T : Point) (p : Planner) : Nat :=
  match p.phase with
  | .normal => c.zoomTierSteps.largest - p.zoomLevel
  | .zoomIn => panRounds (T.supDist p.center) c.maxPanStep.toNat * (c.panTiltTierFrames.largest + 1)
  | .panAndTilt => p.pan.left +
      panRounds (T.supDist p.pan.finish) c.maxPanStep.toNat * (c.panTiltTierFrames.largest + 1)
  | .zoomOut => p.zoomLevel + c.zoomTierSteps.largest

/-- Zoomed in on the target, no plan is left. -/
theorem chaseLeft_zoomIn_self (hc : c.validate = .ok ()) {T : Point} (hph : p.phase = .zoomIn)
    (hT : p.center = T) : chaseLeft c T p = 0 := by
  have hL := (TrackingConfig.validate_ok hc).1
  have hd : T.supDist p.center = 0 := Point.supDist_eq_zero.mpr hT.symm
  simp only [chaseLeft, hph, hd, panRounds_zero (show 0 < c.maxPanStep.toNat by omega), Nat.zero_mul]

/-- Every plan toward a target at `T` brings the planner one plan nearer to resting on it. -/
theorem chaseLeft_plan (hc : c.validate = .ok ()) (hL : c.maxPanStep ≤ Word.i32Max)
    (hp : Reachable c p) (T : Target) :
    chaseLeft c T.center (p.plan (some T)).2 ≤ chaseLeft c T.center p - 1 := by
  obtain ⟨hLpos, hz, hpf⟩ := TrackingConfig.validate_ok hc
  have hl := hp.levelsOk
  have hpan := hp.panOk hpf
  cases hph : p.phase with
  | normal =>
    have hlt := ((phaseLevel_normal p hph).mp hl.level).1
    have hM := hp.maxLevel_le hz p.rate rfl
    -- the planner once its zoom tier is revised at level zero keeps its phase and level
    have hq : (if p.zoomLevel = 0 then p.takeZoomTier else p).phase = .normal ∧
        (if p.zoomLevel = 0 then p.takeZoomTier else p).zoomLevel = p.zoomLevel ∧
        (if p.zoomLevel = 0 then p.takeZoomTier else p).rate.zoomSteps = p.rate.zoomSteps := by
      split_ifs <;> exact ⟨hph, rfl, rfl⟩
    simp only [Planner.plan, hph]
    rw [planNormal_some]
    generalize (if p.zoomLevel = 0 then p.takeZoomTier else p) = q at hq
    obtain ⟨hqph, hql, hqz⟩ := hq
    dsimp only
    split_ifs with htop
    · -- at the top level, zoomed in on the target
      refine Nat.le_trans (Nat.le_of_eq (chaseLeft_zoomIn_self hc ?_ ?_)) (Nat.zero_le _) <;> rfl
    · -- one level more
      have hqM := hp.maxLevel_le hz q.rate hqz
      simp only [chaseLeft, hph, hqph]
      omega
  | zoomIn =>
    simp only [Planner.plan, hph]
    by_cases heq : T.center = p.center
    · -- already zoomed in on the target: nothing changes and nothing is left
      rw [planZoomIn_of_eq p heq]
      dsimp only
      have h0 := chaseLeft_zoomIn_self hc hph heq.symm
      omega
    · -- a pan toward the target, one round of the pan limit shorter
      rw [planZoomIn_of_ne p heq]
      have hd : 0 < T.center.supDist p.center := by
        have := mt Point.supDist_eq_zero.mp heq
        omega
      have hround := panRounds_pos (show 0 < c.maxPanStep.toNat by omega) hd
      have hfin := supDist_panTarget (l := max p.maxPanStep 0) (by rw [hpan.limit]; omega)
        (by rw [hpan.limit]; omega) T.center p.center
      have hlimit : (max p.maxPanStep 0).toNat = c.maxPanStep.toNat := by
        rw [hpan.limit]
        omega
      have hframes : p.rate.refreshPan.panFramesNow ≤ c.panTiltTierFrames.largest := by
        simp only [RateControl.panFramesNow, RateControl.refreshPan, hpan.frames]
        exact TierValues.pick_le_largest _ _
      have hmul := Nat.sub_one_mul (panRounds (T.center.supDist p.center) c.maxPanStep.toNat)
        (c.panTiltTierFrames.largest + 1)
      have hpos := Nat.le_mul_of_pos_left (c.panTiltTierFrames.largest + 1) hround
      simp only [chaseLeft, hph, PanMove.left, hfin, hlimit,
        panRounds_sub (show 0 < c.maxPanStep.toNat by omega) hd]
      omega
  | panAndTilt =>
    have hs := pan_step_lt hl hpan hph
    have hd := (hpan.pan hph).1
    simp only [Planner.plan, hph]
    rw [planPan_eq]
    dsimp only
    split_ifs with hdone
    · -- the last frame of the pan: zoomed in where the pan ends
      have hlast : p.pan.duration ≤ p.pan.step + 1 := of_decide_eq_true hdone
      have hend : p.pan.advance.position = p.pan.finish := PanMove.position_of_isDone hd hdone
      simp only [chaseLeft, hph, hend, PanMove.left]
      omega
    · simp only [chaseLeft, hph, PanMove.left, PanMove.advance]
      omega
  | zoomOut =>
    have h1 := ((phaseLevel_zoomOut p hph).mp hl.level).1
    simp only [Planner.plan, hph]
    rw [planZoomOut_eq]
    dsimp only
    split_ifs with h0
    · simp only [chaseLeft, hph, takeZoomTier_eq, h0]
      omega
    · simp only [chaseLeft, hph]
      omega

/-- From a reachable planner whose aim point is within `k` pans of the target, at most
`2S + (P + 1)(k + 2)` plans toward it are left. -/
theorem chaseLeft_le (hc : c.validate = .ok ()) (hp : Reachable c p) (T : Point) {k : Nat}
    (hk : T.supDist p.center ≤ k * c.maxPanStep.toNat) :
    chaseLeft c T p ≤
      2 * c.zoomTierSteps.largest + (c.panTiltTierFrames.largest + 1) * (k + 2) := by
  obtain ⟨hLpos, hz, hpf⟩ := TrackingConfig.validate_ok hc
  have hl := hp.levelsOk
  have hpan := hp.panOk hpf
  have hM := hp.maxLevel_le hz p.rate rfl
  have hLpos' : 0 < c.maxPanStep.toNat := by omega
  -- the pans counted in multiples of `P + 1`
  rw [Nat.mul_comm _ (k + 2), Nat.add_mul]
  have hround := Nat.add_mul k 1 (c.panTiltTierFrames.largest + 1)
  cases hph : p.phase with
  | normal =>
    simp only [chaseLeft, hph]
    omega
  | zoomIn =>
    have hr := Nat.mul_le_mul_right (c.panTiltTierFrames.largest + 1) (panRounds_le hLpos' hk)
    simp only [chaseLeft, hph]
    omega
  | panAndTilt =>
    -- the pan ends at most one pan limit beyond where the planner aims
    obtain ⟨-, hP, hcenter, hext⟩ := hpan.pan hph
    have hnear : p.pan.finish.supDist p.center ≤ c.maxPanStep.toNat := by
      rw [hcenter]
      exact Nat.le_trans (PanMove.supDist_finish_position p.pan) hext
    have hfar : T.supDist p.pan.finish ≤ (k + 1) * c.maxPanStep.toNat := by
      have := Point.supDist_triangle T p.center p.pan.finish
      rw [Point.supDist_comm p.center] at this
      rw [Nat.add_mul, Nat.one_mul]
      omega
    have hr := Nat.mul_le_mul_right (c.panTiltTierFrames.largest + 1) (panRounds_le hLpos' hfar)
    simp only [chaseLeft, hph, PanMove.left]
    omega
  | zoomOut =>
    have := ((phaseLevel_zoomOut p hph).mp hl.level).2
    simp only [chaseLeft, hph]
    omega

/-- No plan toward a target is left only at rest: zoomed in on it. -/
theorem chaseLeft_eq_zero (hc : c.validate = .ok ()) (hp : Reachable c p) {T : Point}
    (h : chaseLeft c T p = 0) : p.phase = .zoomIn ∧ p.center = T := by
  obtain ⟨hLpos, hz, hpf⟩ := TrackingConfig.validate_ok hc
  have hl := hp.levelsOk
  cases hph : p.phase with
  | normal =>
    have := ((phaseLevel_normal p hph).mp hl.level).1
    have hM := hp.maxLevel_le hz p.rate rfl
    simp only [chaseLeft, hph] at h
    omega
  | zoomIn =>
    simp only [chaseLeft, hph, Nat.mul_eq_zero, Nat.add_one_ne_zero, or_false] at h
    refine ⟨rfl, Eq.symm (Point.supDist_eq_zero.mp ?_)⟩
    rcases Nat.eq_zero_or_pos (T.supDist p.center) with hd | hd
    · exact hd
    · have := panRounds_pos (show 0 < c.maxPanStep.toNat by omega) hd
      omega
  | panAndTilt =>
    have := pan_step_lt hl (hp.panOk hpf) hph
    simp only [chaseLeft, hph, PanMove.left] at h
    omega
  | zoomOut =>
    have := ((phaseLevel_zoomOut p hph).mp hl.level).1
    simp only [chaseLeft, hph] at h
    omega

/-! ### Settling -/

/-- Planned without a target (frames recorded in between) at least `S + P + 1` times, a reachable
planner rests in `normal`, unzoomed, cutting nothing, and the next plan without a target keeps that
crop. Sides and zoom steps are 32-bit numbers. -/
theorem settles_without_target (hc : c.validate = .ok ()) (hp : Reachable c p)
    (hw : p.width ≤ Word.u32Max) (hh : p.height ≤ Word.u32Max)
    (hs : ∀ t : Tier, t.pick c.zoomTierSteps ≤ Word.u32Max) {calls : List PlannerCall}
    (hcalls : ∀ call ∈ calls, call.Plans none)
    (hn : c.zoomTierSteps.largest + c.panTiltTierFrames.largest + 1 ≤
      calls.countP PlannerCall.isPlan) :
    (p.run calls).phase = .normal ∧ (p.run calls).zoomLevel = 0 ∧
      (p.run calls).crop = Crop.identity ∧ ((p.run calls).plan none).1 = ⟨Crop.identity, false⟩ := by
  obtain ⟨-, hz, hpf⟩ := TrackingConfig.validate_ok hc
  have hq := hp.run calls
  have hfall := hp.measure_run (f := idleLeft)
    (fun q hq => Nat.le_of_eq (idleLeft_plan hq.levelsOk (hq.panOk hpf))) (fun _ _ => rfl) hcalls
  have hbound := idleLeft_le hz hp (hp.panOk hpf)
  obtain ⟨hph, h0⟩ := idleLeft_eq_zero hq.levelsOk (by omega)
  -- at rest the crop cuts nothing: the frame is the one the run started with
  obtain ⟨hqw, hqh⟩ := run_size (p := p) hcalls
  have hsized : (p.run calls).Sized := by
    refine ⟨?_, ?_, fun t => ?_⟩
    · unfold Word.u32Max at hw
      omega
    · unfold Word.u32Max at hh
      omega
    · have := hs t
      unfold Word.u32Max at this
      rw [hq.zoomSteps]
      omega
  have hid := ((phaseLevel_normal _ hph).mp hq.levelsOk.level).2 hsized h0
  refine ⟨hph, h0, hid, ?_⟩
  simp only [Planner.plan, hph, planNormal_none_of_zero _ h0, hid]

/-- Planned toward one target (frames recorded in between) at least `2S + (P + 1)(k + 2)` times,
where `k` pans of the pan limit cover the distance from the aim point to the target, a reachable
planner rests zoomed in at the top level, aimed at the target, and the next plan toward it keeps
the planner and its crop. -/
theorem settles_on_target (hc : c.validate = .ok ()) (hL : c.maxPanStep ≤ Word.i32Max)
    (hp : Reachable c p) (T : Target) {k : Nat}
    (hk : T.center.supDist p.center ≤ k * c.maxPanStep.toNat) {calls : List PlannerCall}
    (hcalls : ∀ call ∈ calls, call.Plans (some T))
    (hn : 2 * c.zoomTierSteps.largest + (c.panTiltTierFrames.largest + 1) * (k + 2) ≤
      calls.countP PlannerCall.isPlan) :
    (p.run calls).phase = .zoomIn ∧
      (p.run calls).zoomLevel = (p.run calls).rate.zoomCurve.maxLevel ∧
      (p.run calls).center = T.center ∧
      (p.run calls).plan (some T) = (⟨(p.run calls).crop, false⟩, p.run calls) := by
  have hq := hp.run calls
  have hfall := hp.measure_run (f := chaseLeft c T.center)
    (fun q hq => chaseLeft_plan hc hL hq T) (fun _ _ => rfl) hcalls
  have hbound := chaseLeft_le hc hp T.center hk
  have hzero : chaseLeft c T.center (p.run calls) = 0 := by omega
  obtain ⟨hph, hcenter⟩ := chaseLeft_eq_zero hc hq hzero
  refine ⟨hph, (phaseLevel_zoomIn _ hph).mp hq.levelsOk.level, hcenter, ?_⟩
  simp only [Planner.plan, hph, planZoomIn_of_eq _ hcenter.symm]

/-- For a configuration that `validate` accepts, with `S` the largest zoom steps, `P` the largest
pan frames and `L` the (32-bit) pan limit, and a reachable planner with 32-bit sides and zoom steps
aiming at `c₀`: planned at least `S + P + 1` times without a target, it rests in `normal`,
unzoomed, cutting nothing, and the next plan without a target is unchanged; planned at least
`2S + (P + 1)(⌈d / L⌉ + 2)` times toward a target `T`, with `d` the larger axis distance from `c₀`
to `T`'s center, it rests zoomed in at the top level on that center, and the next plan toward `T`
changes neither the planner nor its crop. Frames may be recorded between the plans. -/
theorem plans_settle (hc : c.validate = .ok ()) (hL : c.maxPanStep ≤ Word.i32Max)
    (hp : Reachable c p) (hw : p.width ≤ Word.u32Max) (hh : p.height ≤ Word.u32Max)
    (hs : ∀ t : Tier, t.pick c.zoomTierSteps ≤ Word.u32Max) :
    (∀ calls : List PlannerCall, (∀ call ∈ calls, call.Plans none) →
      c.zoomTierSteps.largest + c.panTiltTierFrames.largest + 1 ≤
        calls.countP PlannerCall.isPlan →
      (p.run calls).phase = .normal ∧ (p.run calls).zoomLevel = 0 ∧
        (p.run calls).crop = Crop.identity ∧
        ((p.run calls).plan none).1 = ⟨Crop.identity, false⟩) ∧
    (∀ (T : Target) (calls : List PlannerCall), (∀ call ∈ calls, call.Plans (some T)) →
      2 * c.zoomTierSteps.largest + (c.panTiltTierFrames.largest + 1) *
          (panRounds (T.center.supDist p.center) c.maxPanStep.toNat + 2) ≤
        calls.countP PlannerCall.isPlan →
      (p.run calls).phase = .zoomIn ∧
        (p.run calls).zoomLevel = (p.run calls).rate.zoomCurve.maxLevel ∧
        (p.run calls).center = T.center ∧
        (p.run calls).plan (some T) = (⟨(p.run calls).crop, false⟩, p.run calls)) := by
  have hLpos : 0 < c.maxPanStep.toNat := by
    have := (TrackingConfig.validate_ok hc).1
    omega
  exact ⟨fun _ hcalls hn => settles_without_target hc hp hw hh hs hcalls hn,
    fun T _ hcalls hn => settles_on_target hc hL hp T (le_panRounds_mul hLpos _) hcalls hn⟩

/-- A planner with two zoom steps and three pan frames per tier, zoomed in on a face at
`(210, 170)`, is not at rest. Six plans without a target (the bound `2 + 3 + 1`) bring it back to
`normal`, unzoomed and cutting nothing; twenty-eight plans toward a face at `(400, 300)` (the
bound `2 · 2 + (3 + 1) · (⌈190 / 60⌉ + 2)`) leave it zoomed in on that face, where the next plan
changes nothing. -/
theorem plans_settle_zoomed :
    ∃ p₀ p, Planner.create { zoomTierSteps := ⟨2, 2, 2⟩, panTiltTierFrames := ⟨3, 3, 3⟩ } 640 480 =
        .ok p₀ ∧
      p₀.run [.plan (some ⟨⟨210, 170⟩, 100, 100⟩), .plan (some ⟨⟨210, 170⟩, 100, 100⟩)] = p ∧
      TrackingConfig.validate { zoomTierSteps := ⟨2, 2, 2⟩, panTiltTierFrames := ⟨3, 3, 3⟩ } =
        .ok () ∧
      TrackingConfig.maxPanStep { zoomTierSteps := ⟨2, 2, 2⟩, panTiltTierFrames := ⟨3, 3, 3⟩ } ≤
        Word.i32Max ∧
      Reachable { zoomTierSteps := ⟨2, 2, 2⟩, panTiltTierFrames := ⟨3, 3, 3⟩ } p ∧
      p.width ≤ Word.u32Max ∧ p.height ≤ Word.u32Max ∧
      (∀ t : Tier, t.pick (⟨2, 2, 2⟩ : TierValues) ≤ Word.u32Max) ∧
      p.phase = .zoomIn ∧ p.center = ⟨210, 170⟩ ∧ p.crop ≠ Crop.identity ∧
      ((p.run (List.replicate 6 (.plan none))).phase = .normal ∧
        (p.run (List.replicate 6 (.plan none))).zoomLevel = 0 ∧
        (p.run (List.replicate 6 (.plan none))).crop = Crop.identity ∧
        ((p.run (List.replicate 6 (.plan none))).plan none).1 = ⟨Crop.identity, false⟩) ∧
      ((p.run (List.replicate 28 (.plan (some ⟨⟨400, 300⟩, 100, 100⟩)))).phase = .zoomIn ∧
        (p.run (List.replicate 28 (.plan (some ⟨⟨400, 300⟩, 100, 100⟩)))).center = ⟨400, 300⟩ ∧
        (p.run (List.replicate 28 (.plan (some ⟨⟨400, 300⟩, 100, 100⟩)))).plan
            (some ⟨⟨400, 300⟩, 100, 100⟩) =
          (⟨(p.run (List.replicate 28 (.plan (some ⟨⟨400, 300⟩, 100, 100⟩)))).crop, false⟩,
            p.run (List.replicate 28 (.plan (some ⟨⟨400, 300⟩, 100, 100⟩))))) :=
  have hc : TrackingConfig.validate
      { zoomTierSteps := ⟨2, 2, 2⟩, panTiltTierFrames := ⟨3, 3, 3⟩ } = .ok () := rfl
  have hp := (@Reachable.create _ 640 480 _ rfl).run
    [.plan (some ⟨⟨210, 170⟩, 100, 100⟩), .plan (some ⟨⟨210, 170⟩, 100, 100⟩)]
  have hs : ∀ t : Tier, t.pick (⟨2, 2, 2⟩ : TierValues) ≤ Word.u32Max := fun t => by
    cases t <;> decide
  have hsettle := plans_settle hc (by decide) hp (by decide +kernel) (by decide +kernel) hs
  have hrest := hsettle.1 (List.replicate 6 (.plan none))
    (fun _ h => by rw [List.eq_of_mem_replicate h]; exact rfl) (by decide)
  have haim := hsettle.2 ⟨⟨400, 300⟩, 100, 100⟩
    (List.replicate 28 (.plan (some ⟨⟨400, 300⟩, 100, 100⟩)))
    (fun _ h => by rw [List.eq_of_mem_replicate h]; exact rfl) (by decide +kernel)
  ⟨_, _, rfl, rfl, hc, by decide, hp, by decide +kernel, by decide +kernel, hs, by decide +kernel,
    by decide +kernel, by decide +kernel, hrest, haim.1, haim.2.2.1, haim.2.2.2⟩

end Planner

end FaceFraming
