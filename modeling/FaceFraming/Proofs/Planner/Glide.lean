import FaceFraming.Proofs.Planner.Settling

/-!
# A pan glides to its end

Zoomed in, a target whose center is elsewhere makes the planner capture a pan and say that
nothing changed yet: the pan starts at the aim point and ends at most the pan limit `L` away on
each axis, in the direction of the target (the difference saturated at 32 bits), over the `D`
frames of the pan tier just revised. The `D` plans that follow, whatever their targets, move the
aim point along the pan: after the `k`-th the aim point is `start + (finish - start) · k / D` on
each axis, rounded toward zero, each of them recomputes the crop, and the `D`-th puts the aim
point on the end and returns to `zoomIn` (`pan_glide`).

The interpolation is looked at one axis at a time. Going up by `m` pixels, the aim point after
`s` frames is `start + m · s / D` rounded down (`between_up`), and going down it is the mirror
image (`between_down`). So each frame moves toward the end, never past it, by at most `m / D`
rounded up (`between_glideStep`), which is at most `m` and so at most the pan limit.

The frames themselves follow from one step lemma (`plan_panAndTilt`: a plan while panning ignores
its target) and the run lemma built on it (`run_plans_of_panning`).
-/

namespace FaceFraming

namespace PanMove

/-! ### One axis of a pan -/

/-- Going up by `m`, the point after `s` of `d` frames is the start plus the share `m · s / d`,
rounded down. -/
theorem between_up (a : Int) (m s d : Nat) : between a (a + m) s d = a + (m * s / d : Nat) := by
  rw [between, add_sub_cancel_left, ← Int.natCast_mul, ← Int.ofNat_tdiv]

/-- Going down by `m`, the point after `s` of `d` frames is the start less the share
`m · s / d`, rounded down: truncation rounds toward the start on both sides. -/
theorem between_down (a : Int) (m s d : Nat) : between a (a - m) s d = a - (m * s / d : Nat) := by
  rw [between, show a - m - a = -(m : Int) by omega, Int.neg_mul, Int.neg_tdiv, ← Int.natCast_mul,
    ← Int.ofNat_tdiv]
  omega

/-- One more frame adds at most the way over the frames, rounded up, to the share taken. -/
theorem share_succ_le (m s : Nat) {d : Nat} (hd : 0 < d) :
    m * (s + 1) / d ≤ m * s / d + m ⌈/⌉ d := by
  have hsplit : m * (s + 1) = (m * s % d + m) + d * (m * s / d) := by
    rw [Nat.mul_succ]
    have := Nat.mod_add_div (m * s) d
    omega
  have hrem : m * s % d + m ≤ m + d - 1 := by
    have := Nat.mod_lt (m * s) hd
    omega
  rw [hsplit, Nat.add_mul_div_left _ _ hd, Nat.ceilDiv_eq_add_pred_div]
  have := Nat.div_le_div_right (c := d) hrem
  omega

/-- The share taken grows frame by frame. -/
theorem share_le_succ (m s d : Nat) : m * s / d ≤ m * (s + 1) / d :=
  Nat.div_le_div_right (Nat.mul_le_mul_left m (Nat.le_succ s))

/-- Within the frames of the move, the share taken is at most the whole way. -/
theorem share_le (m : Nat) {s d : Nat} (hs : s ≤ d) : m * s / d ≤ m := by
  rcases Nat.eq_zero_or_pos d with rfl | hd
  · simp
  · exact Nat.div_le_of_le_mul (by rw [Nat.mul_comm d]; exact Nat.mul_le_mul_left m hs)

/-- The way over at least one frame, rounded up, is at most the way. -/
theorem ceilDiv_le_self (m : Nat) {d : Nat} (hd : 0 < d) : m ⌈/⌉ d ≤ m :=
  (ceilDiv_le_iff_le_mul hd).mpr (Nat.le_mul_of_pos_left m hd)

/-- One frame of a glide on an axis from `a` to `b` over `d` frames, which takes the aim from `u`
to `v`: it moves toward `b` and never past it, by at most the way over the frames, rounded up. -/
def GlideStep (a b : Int) (d : Nat) (u v : Int) : Prop :=
  (a ≤ b → u ≤ v ∧ v ≤ b) ∧ (b ≤ a → b ≤ v ∧ v ≤ u) ∧ (v - u).natAbs ≤ (b - a).natAbs ⌈/⌉ d

/-- Every frame of a move along an axis is a glide step. -/
theorem between_glideStep (a b : Int) {k d : Nat} (hk : k < d) :
    GlideStep a b d (between a b k d) (between a b (k + 1) d) := by
  have hd : 0 < d := by omega
  rcases Int.le_total a b with hab | hba
  · -- going up by `m`: the shares taken, `u` then `v`, grow toward `m`
    obtain ⟨m, rfl⟩ : ∃ m : Nat, b = a + m := ⟨(b - a).toNat, by omega⟩
    have hstep := share_succ_le m k hd
    have hmono := share_le_succ m k d
    have hend := share_le m (show k + 1 ≤ d by omega)
    unfold GlideStep
    rw [between_up, between_up, add_sub_cancel_left, Int.natAbs_natCast]
    generalize m * k / d = u at *
    generalize m * (k + 1) / d = v at *
    refine ⟨fun _ => ⟨by omega, by omega⟩, fun _ => ⟨by omega, by omega⟩, by omega⟩
  · -- going down by `m`: the mirror image
    obtain ⟨m, rfl⟩ : ∃ m : Nat, b = a - m := ⟨(a - b).toNat, by omega⟩
    have hstep := share_succ_le m k hd
    have hmono := share_le_succ m k d
    have hend := share_le m (show k + 1 ≤ d by omega)
    unfold GlideStep
    rw [between_down, between_down, show a - m - a = -(m : Int) by omega, Int.natAbs_neg,
      Int.natAbs_natCast]
    generalize m * k / d = u at *
    generalize m * (k + 1) / d = v at *
    refine ⟨fun _ => ⟨by omega, by omega⟩, fun _ => ⟨by omega, by omega⟩, by omega⟩

/-- Within its frames, a move of at least one frame stands where its share of the way puts it on
each axis. -/
theorem position_eq {m : PanMove} (hd : 0 < m.duration) (hs : m.step ≤ m.duration) :
    m.position = ⟨between m.start.x m.finish.x m.step m.duration,
      between m.start.y m.finish.y m.step m.duration⟩ := by
  simp only [position, Nat.min_eq_left hs, Nat.max_eq_left hd]

end PanMove

namespace Planner

open PanMove

variable {p : Planner}

/-! ### Plans while panning -/

/-- A plan while panning, whatever its target: the pan takes a frame, the aim point goes where the
pan then stands, the crop is recomputed, and a pan that is done returns to `zoomIn`. -/
theorem plan_panAndTilt (hph : p.phase = .panAndTilt) (t : Option Target) :
    (p.plan t).1.changed = true ∧ (p.plan t).2.pan = p.pan.advance ∧
      (p.plan t).2.center = p.pan.advance.position ∧
      (p.plan t).2.phase = if p.pan.advance.isDone then .zoomIn else .panAndTilt := by
  simp only [plan, hph]
  rw [planPan_eq]
  dsimp only
  split_ifs <;> simp [hph]

/-- Plans while the pan has frames left, whatever their targets: after `k` of them the pan has
taken `k` frames more, the aim point stands where the pan does, and the planner is still panning. -/
theorem run_plans_of_panning (hph : p.phase = .panAndTilt) (hc : p.center = p.pan.position)
    (ts : List (Option Target)) (hk : p.pan.step + ts.length < p.pan.duration) :
    (p.run (ts.map .plan)).phase = .panAndTilt ∧
      (p.run (ts.map .plan)).pan = { p.pan with step := p.pan.step + ts.length } ∧
      (p.run (ts.map .plan)).center = (p.run (ts.map .plan)).pan.position := by
  induction ts generalizing p with
  | nil => exact ⟨hph, rfl, hc⟩
  | cons t ts ih =>
    obtain ⟨-, hpan, hcen, hph'⟩ := plan_panAndTilt hph t
    -- the pan is not done after this plan: frames are left for the rest
    have hnot : p.pan.advance.isDone = false := by
      simp only [List.length_cons] at hk
      exact decide_eq_false (by simp only [advance]; omega)
    rw [hnot, if_neg Bool.false_ne_true] at hph'
    have hk' : (p.plan t).2.pan.step + ts.length < (p.plan t).2.pan.duration := by
      simp only [hpan, advance, List.length_cons] at hk ⊢
      omega
    obtain ⟨h1, h2, h3⟩ := ih hph' (hcen.trans (congrArg position hpan.symm)) hk'
    refine ⟨h1, ?_, h3⟩
    rw [List.map_cons, run_cons, step_plan, h2, hpan]
    simp only [advance, List.length_cons]
    congr 1
    omega

/-! ### The glide -/

/-- Zoomed in, a target elsewhere makes the planner capture a pan and report no change: the pan
starts at the aim point and ends, on each axis, the difference to the target (saturated at
32 bits) clamped to the pan limit `L = max maxPanStep 0` further, over the `D` frames of the pan
tier just revised. When `D ≥ 1`, the `k`-th of the next `D` plans, whatever their targets,
recomputes the crop and puts the aim point at `start + (finish - start) · k / D` on each axis,
rounded toward zero; the `D`-th puts it on the end and returns to `zoomIn`. Each frame moves each
axis toward the end and never past it, by at most the way over `D` rounded up, which is at most
`L`. -/
theorem pan_glide (hph : p.phase = .zoomIn) {T : Target} (hT : T.center ≠ p.center) :
    let L := max p.maxPanStep 0
    let D := p.rate.refreshPan.panFramesNow
    let start := p.center
    let finish : Point := ⟨p.center.x + Word.clampInt (-L) L (Word.subSat32 T.center.x p.center.x),
      p.center.y + Word.clampInt (-L) L (Word.subSat32 T.center.y p.center.y)⟩
    let q := (p.plan (some T)).2
    (p.plan (some T)).1 = ⟨p.crop, false⟩ ∧ q.center = start ∧ q.phase = .panAndTilt ∧
      q.pan = { start, finish, duration := D, step := 0 } ∧ q.panTier = p.rate.refreshPan.panTier ∧
      (1 ≤ D → ∀ (ts : List (Option Target)) (u : Option Target), ts.length < D →
        ((q.run (ts.map .plan)).plan u).1.changed = true ∧
          ((q.run (ts.map .plan)).plan u).2.center =
            ⟨between start.x finish.x (ts.length + 1) D, between start.y finish.y (ts.length + 1) D⟩ ∧
          ((q.run (ts.map .plan)).plan u).2.phase =
            (if ts.length + 1 = D then .zoomIn else .panAndTilt) ∧
          (ts.length + 1 = D → ((q.run (ts.map .plan)).plan u).2.center = finish)) ∧
      (∀ k < D, GlideStep start.x finish.x D (between start.x finish.x k D)
          (between start.x finish.x (k + 1) D) ∧
        GlideStep start.y finish.y D (between start.y finish.y k D)
          (between start.y finish.y (k + 1) D)) ∧
      (finish.x - start.x).natAbs ⌈/⌉ D ≤ L.toNat ∧ (finish.y - start.y).natAbs ⌈/⌉ D ≤ L.toNat := by
  intro L D start finish q
  have hplan : p.plan (some T) = _ := (show p.plan (some T) = p.planZoomIn (some T) by
    simp only [plan, hph]).trans (planZoomIn_of_ne p hT)
  have hq : q = _ := congrArg Prod.snd hplan
  have hpan : q.pan = { start, finish, duration := D, step := 0 } := by rw [hq]
  -- each axis of the pan is at most `L` long
  have hL : 0 ≤ L := Int.le_max_right _ _
  have hway : (finish.x - start.x).natAbs ≤ L.toNat ∧ (finish.y - start.y).natAbs ≤ L.toNat := by
    have hx := natAbs_clampInt_le hL (Word.subSat32 T.center.x p.center.x)
    have hy := natAbs_clampInt_le hL (Word.subSat32 T.center.y p.center.y)
    simp only [finish, start, add_sub_cancel_left]
    exact ⟨hx, hy⟩
  have hstride : ∀ n : Nat, n ≤ L.toNat → n ⌈/⌉ D ≤ L.toNat := by
    intro n hn
    rcases Nat.eq_zero_or_pos D with hD | hD
    · simp [hD]
    · exact (ceilDiv_le_self n hD).trans hn
  refine ⟨congrArg Prod.fst hplan, by rw [hq], by rw [hq], hpan, by rw [hq],
    fun hD ts u hts => ?_, fun k hk => ⟨between_glideStep _ _ hk, between_glideStep _ _ hk⟩,
    hstride _ hway.1, hstride _ hway.2⟩
  -- the plans before the last one of interest leave the planner panning, `k - 1` frames in
  have hqph : q.phase = .panAndTilt := by rw [hq]
  have hqc : q.center = q.pan.position := by
    rw [hpan, show q.center = start by rw [hq]]
    simp [position]
  obtain ⟨hph₁, hpan₁, -⟩ := run_plans_of_panning hqph hqc ts (by rw [hpan]; simpa using hts)
  obtain ⟨hch, hpan₂, hcen₂, hph₂⟩ := plan_panAndTilt hph₁ u
  have hadv : (q.run (ts.map .plan)).pan.advance =
      { start, finish, duration := D, step := ts.length + 1 } := by
    rw [hpan₁, hpan]
    simp [advance]
  have hcen : ((q.run (ts.map .plan)).plan u).2.center =
      ⟨between start.x finish.x (ts.length + 1) D, between start.y finish.y (ts.length + 1) D⟩ := by
    rw [hcen₂, hadv, position_eq (by exact hD) (by exact hts)]
  refine ⟨hch, hcen, ?_, fun hlast => ?_⟩
  · -- the pan is done exactly on its last frame
    have hdone : ({ start, finish, duration := D, step := ts.length + 1 } : PanMove).isDone = true ↔
        ts.length + 1 = D := by
      simp only [isDone, decide_eq_true_eq]
      omega
    rw [hph₂, hadv]
    by_cases hlast : ts.length + 1 = D
    · rw [if_pos (hdone.mpr hlast), if_pos hlast]
    · rw [if_neg (mt hdone.mp hlast), if_neg hlast]
  · rw [hcen, hlast, between_self _ _ hD, between_self _ _ hD]

/-- Zoomed in at `(320, 240)` on a 640 × 480 frame with the default settings, a target centered at
`(500, 240)` starts a pan of 60 pixels to the right over the 10 frames of the fast tier. -/
theorem pan_glide_vga :
    let p : Planner :=
      { width := 640, height := 480, maxPanStep := 60, faceFrameRatio := 3.0, maxZoom := 2.0,
        rate := RateControl.create {}, phase := .zoomIn, zoomLevel := 40, center := ⟨320, 240⟩ }
    let T : Target := ⟨⟨500, 240⟩, 100, 100⟩
    p.phase = .zoomIn ∧ T.center ≠ p.center ∧
      (p.plan (some T)).2.pan = { start := ⟨320, 240⟩, finish := ⟨380, 240⟩, duration := 10 } :=
  ⟨rfl, by decide, (pan_glide rfl (by decide)).2.2.2.1⟩

end Planner

end FaceFraming
