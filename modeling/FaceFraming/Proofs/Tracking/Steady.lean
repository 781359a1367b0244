import FaceFraming.Proofs.Tracking.Countdown

/-!
# A steady scene

Shown frame after frame of one size `W × H` with the same faces `F`, the tracker settles: its
target stops changing, and then its planner comes to rest and the crop stops changing for good.
This module bounds how long each takes (`Run.steady_scene`), from any state a run reaches, for
timestamps and switches of any kind and crops handed out or overlays drawn in between.

The target settles within `decisionThreshold + L · capacity` frames, with `L` the larger leap and
`capacity` the window's. The count of faces of `F` is accepted once it has held for
`decisionThreshold` frames and a decision frame comes, at most `L` frames later; from then on every
decision frame, at most `L` frames apart, is accepted and pushes the crop around the tracked face
(`sceneCrop`), and `capacity` such pushes leave nothing else in the window, whose average is then
that crop. The count-down (`settleLeft`) is the smoother's (`Smoother.framesLeft`) until the
tracker has settled (`Settled`): the count selected, only the scene's crop in the window, the
scene's target (`sceneTarget`) aimed at and a planner for the size. Every frame of the scene
lowers it by one (`settleLeft_update`), and a settled tracker stays settled (`Settled.update`).

Once settled, the planner is planned toward the scene's target frame after frame, and the bounds
of the planner's own settling apply (`Planner.settleBound`): it rests in `normal`, unzoomed and
cutting nothing, without a target, and zoomed in on the target's center with one
(`Planner.Rests`); at rest every further frame keeps the crop.
-/

namespace FaceFraming

/-- What `validate` guarantees the smoother: positive leaps and a positive window capacity. -/
theorem TrackingConfig.validate_pace {c : TrackingConfig} (h : c.validate = .ok ()) :
    0 < c.leap ∧ 0 < c.lowFpsLeap ∧ 0 < c.smoothingCapacity := by
  unfold TrackingConfig.validate at h
  dsimp only at h
  obtain ⟨-, h⟩ := ok_of_ite_error h
  obtain ⟨hleaps, h⟩ := ok_of_ite_error h
  obtain ⟨hcap, -⟩ := ok_of_ite_error h
  omega

/-! ### The planner at rest -/

namespace Planner

variable {c : TrackingConfig} {p : Planner}

/-- The plans after which a reachable planner rests for a target, by its settling bounds, with `S`
the largest zoom steps and `P` the largest pan frames: `S + P + 1` without a target, and
`2S + (P + 1)(k + 2)` with one, `k` the pans of the pan limit from the aim point to its center. -/
def settleBound (c : TrackingConfig) (p : Planner) : Option Target → Nat
  | none => c.zoomTierSteps.largest + c.panTiltTierFrames.largest + 1
  | some T => 2 * c.zoomTierSteps.largest + (c.panTiltTierFrames.largest + 1) *
      (panRounds (T.center.supDist p.center) c.maxPanStep.toNat + 2)

/-- A planner at rest for a target: without one, in `normal`, unzoomed and cutting nothing; with
one, zoomed in at the top level on its center. -/
def Rests (p : Planner) : Option Target → Prop
  | none => p.phase = .normal ∧ p.zoomLevel = 0 ∧ p.crop = Crop.identity
  | some T => p.phase = .zoomIn ∧ p.zoomLevel = p.rate.zoomCurve.maxLevel ∧ p.center = T.center

/-- At rest, a plan for the target and a recorded frame keep the planner at rest and its crop. -/
theorem Rests.step {τ : Option Target} (h : p.Rests τ) {call : PlannerCall}
    (hcall : call.Plans τ) :
    (p.step call).Rests τ ∧ (p.step call).crop = p.crop := by
  cases call with
  | plan t =>
    obtain rfl : t = τ := hcall
    cases t with
    | none =>
      obtain ⟨hph, h0, hid⟩ := h
      simp only [step_plan, Planner.plan, hph, planNormal_none_of_zero _ h0]
      exact ⟨⟨hph, h0, hid⟩, rfl⟩
    | some T =>
      -- zoomed in on the target, a plan changes nothing
      obtain ⟨hph, hl, hc⟩ := h
      have hkeep : p.step (.plan (some T)) = p := by
        simp only [step_plan, Planner.plan, hph, planZoomIn_of_eq _ hc.symm]
      rw [hkeep]
      exact ⟨⟨hph, hl, hc⟩, rfl⟩
  | recordFrame ms =>
    cases τ with
    | none => exact ⟨h, rfl⟩
    | some T => exact ⟨by simpa [Rests] using h, rfl⟩
  | resize width height => exact absurd hcall id

/-- At rest, plans for the target and recorded frames keep the planner at rest and its crop. -/
theorem Rests.run {τ : Option Target} (h : p.Rests τ) {calls : List PlannerCall}
    (hcalls : ∀ call ∈ calls, call.Plans τ) :
    (p.run calls).Rests τ ∧ (p.run calls).crop = p.crop := by
  induction calls generalizing p with
  | nil => exact ⟨h, rfl⟩
  | cons call calls ih =>
    obtain ⟨hstep, hcrop⟩ := h.step (hcalls call List.mem_cons_self)
    obtain ⟨hrest, hcrop'⟩ :=
      ih hstep (fun call' h' => hcalls call' (List.mem_cons_of_mem _ h'))
    exact ⟨hrest, hcrop'.trans hcrop⟩

/-- Planned for one target at least `settleBound` times, frames recorded in between, a reachable
planner of a configuration that `validate` accepts, with 32-bit sides, zoom steps and pan limit,
rests for it. -/
theorem Reachable.rests (hc : c.validate = .ok ()) (hL : c.maxPanStep ≤ Word.i32Max)
    (hp : Reachable c p) (hw : p.width ≤ Word.u32Max) (hh : p.height ≤ Word.u32Max)
    (hs : ∀ t : Tier, t.pick c.zoomTierSteps ≤ Word.u32Max) {τ : Option Target}
    {calls : List PlannerCall} (hcalls : ∀ call ∈ calls, call.Plans τ)
    (hn : settleBound c p τ ≤ calls.countP PlannerCall.isPlan) : (p.run calls).Rests τ := by
  cases τ with
  | none =>
    obtain ⟨hph, h0, hid, -⟩ := settles_without_target hc hp hw hh hs hcalls hn
    exact ⟨hph, h0, hid⟩
  | some T =>
    have hLpos : 0 < c.maxPanStep.toNat := by
      have := (TrackingConfig.validate_ok hc).1
      omega
    obtain ⟨hph, hl, hcenter, -⟩ :=
      settles_on_target hc hL hp T (le_panRounds_mul hLpos _) hcalls hn
    exact ⟨hph, hl, hcenter⟩

end Planner

/-! ### Frames of one scene -/

namespace TrackerCall

/-- Whether a call is a frame. -/
def isUpdate : TrackerCall → Bool
  | .update .. => true
  | _ => false

/-- A call that is a frame of size `W × H` whose detection document gives the faces `F` under the
configuration `cfg`, or that is no frame. -/
def Shows (cfg : TrackingConfig) (W H : Nat) (F : List FaceBox) : TrackerCall → Prop
  | .update document width height _ =>
    width = W ∧ height = H ∧
      Detection.readFaces document cfg.confidenceThreshold cfg.maxFaces = F
  | .take => True
  | .drawOverlay _ => True

/-- The calls a call makes on a planner that has the frame size, planning toward `τ`. -/
def plannerCalls (τ : Option Target) : TrackerCall → List PlannerCall
  | .update _ _ _ ms => [.recordFrame ms, .plan τ]
  | .take => []
  | .drawOverlay _ => []

theorem countP_plannerCalls (τ : Option Target) (calls : List TrackerCall) :
    (calls.flatMap (plannerCalls τ)).countP PlannerCall.isPlan = calls.countP isUpdate := by
  induction calls with
  | nil => rfl
  | cons call calls ih =>
    cases call <;> simp [plannerCalls, isUpdate, PlannerCall.isPlan, ih, List.countP_cons]

theorem plans_plannerCalls (τ : Option Target) (calls : List TrackerCall) :
    ∀ call ∈ calls.flatMap (plannerCalls τ), call.Plans τ := by
  intro call hcall
  obtain ⟨c, -, hc⟩ := List.mem_flatMap.mp hcall
  cases c with
  | update _ _ _ ms =>
    simp only [plannerCalls, List.mem_cons, List.mem_nil_iff, or_false] at hc
    rcases hc with rfl | rfl
    · trivial
    · rfl
  | take => simp [plannerCalls] at hc
  | drawOverlay _ => simp [plannerCalls] at hc

end TrackerCall

/-! ### The tracker settles -/

namespace Tracker

open Smoother

variable {cfg : TrackingConfig} {sw : Switches} {t t₁ : Tracker} {h : List Shown} {p : Planner}
  {W H ms : Nat} {F : List FaceBox} {document : List UInt8}

/-- The configuration of a run validates. -/
theorem Run.validate (hr : Run cfg sw t h) : cfg.validate = .ok () := by
  induction hr with
  | create hc => exact (create_eq hc).1
  | frame _ _ _ _ _ _ ih => exact ih
  | skip _ _ _ _ _ _ ih => exact ih
  | take _ ih => exact ih

/-- Only without faces is no face tracked. -/
theorem select_eq_none_iff : t.select = none ↔ t.faces = [] := by
  unfold select
  split
  · simp_all
  · simp_all
  · split_ifs
    · simp_all
    · simp_all [FaceBox.union_eq_none_iff]

/-- The face tracked depends on the faces and the switches only. -/
theorem select_eq_of {u : Tracker} (hf : u.faces = F) (hs : u.switches = t.switches) :
    u.select = { t with faces := F }.select := by
  simp only [select, hf, hs]

/-- The crop that a frame of size `W × H` showing the faces `F` adds to the window: around the
face tracked among them, the whole frame when there is none. -/
def sceneCrop (t : Tracker) (F : List FaceBox) (W H : Nat) : Crop :=
  Crop.around ({ t with faces := F }.select.getD (FaceBox.wholeFrame W H)) W H

/-- The target that such frames settle on: the visible region of the crop around the face tracked
among `F`; none without faces, or when that region is centered on the origin. -/
def sceneTarget (t : Tracker) (F : List FaceBox) (W H : Nat) : Option Target :=
  { t with faces := F }.select.bind fun f => Target.ofCrop? (Crop.around f W H) W H

theorem sceneCrop_congr {t' : Tracker} (hs : t'.switches = t.switches) :
    t'.sceneCrop F W H = t.sceneCrop F W H := by
  simp only [sceneCrop, select_eq_of (u := { t' with faces := F }) rfl hs]

theorem sceneTarget_congr {t' : Tracker} (hs : t'.switches = t.switches) :
    t'.sceneTarget F W H = t.sceneTarget F W H := by
  simp only [sceneTarget, select_eq_of (u := { t' with faces := F }) rfl hs]

/-- The scene's target is none without faces, and otherwise the one of the scene's crop. -/
theorem sceneTarget_eq :
    t.sceneTarget F W H = if F = [] then none else Target.ofCrop? (t.sceneCrop F W H) W H := by
  by_cases hF : F = []
  · subst hF
    have hnone : { t with faces := [] }.select = none := select_eq_none_iff.mpr rfl
    simp [sceneTarget, hnone]
  · obtain ⟨f, hf⟩ := Option.ne_none_iff_exists'.mp
      (mt (select_eq_none_iff (t := { t with faces := F })).mp hF)
    simp [sceneTarget, sceneCrop, hf, hF]

/-- Settled on a scene of size `W × H` with the faces `F`: the count of `F` selected, nothing but
the scene's crop left in the window, the scene's target aimed at, and a planner for the size. -/
def Settled (t : Tracker) (F : List FaceBox) (W H : Nat) : Prop :=
  t.smoother.selectedCount = F.length ∧ t.smoother.window.pushesLeft (t.sceneCrop F W H) = 0 ∧
    t.target = t.sceneTarget F W H ∧ t.planner.map (fun p => (p.width, p.height)) = some (W, H)

instance (t : Tracker) (F : List FaceBox) (W H : Nat) : Decidable (t.Settled F W H) :=
  inferInstanceAs (Decidable (_ ∧ _ ∧ _ ∧ _))

/-- At most how many more frames of the scene come before the tracker has settled on it. -/
def settleLeft (t : Tracker) (F : List FaceBox) (W H : Nat) : Nat :=
  if t.Settled F W H then 0 else t.smoother.framesLeft F.length (t.sceneCrop F W H)

/-- A frame of the scene, for a tracker along a run: its rate adapts the leap (`s`), its faces are
counted, and on a yes the window, restarted when faces appear or vanish, takes the scene's crop and
the target becomes the window's average, none without faces; the planner records the frame and
plans toward the target. -/
theorem update_scene (hr : Run cfg sw t h) (hp : t.plannerFor W H = some (p, t₁))
    (hF : Detection.readFaces document cfg.confidenceThreshold cfg.maxFaces = F) (ms : Nat)
    (s : Smoother) (hs : s = t.smoother.adaptLeap (p.recordFrame ms).fps?) :
    (t.update document W H ms).switches = t.switches ∧
      (t.update document W H ms).planner =
        some ((p.recordFrame ms).plan (t.update document W H ms).target).2 ∧
      (t.update document W H ms).smoother =
        (if (s.needsUpdate F.length).1 then
          (if (s.selectedCount == 0) == F.isEmpty then (s.needsUpdate F.length).2
          else (s.needsUpdate F.length).2.clearWindow).push (t.sceneCrop F W H)
        else (s.needsUpdate F.length).2) ∧
      (t.update document W H ms).target =
        (if (s.needsUpdate F.length).1 then
          (if F.isEmpty then none
          else Target.ofCrop? (t.update document W H ms).smoother.average W H)
        else t₁.target) := by
  obtain ⟨hc₁, hsw₁, hs₁⟩ := plannerFor_keeps hp
  have hfaces : (t₁.readFrame (p.recordFrame ms) document).faces = F := by
    rw [readFrame_faces, hc₁, hr.config.1, hF]
  have hcrop : Crop.around ((t₁.readFrame (p.recordFrame ms) document).select.getD
      (FaceBox.wholeFrame W H)) W H = t.sceneCrop F W H := by
    rw [select_eq_of (t := t) hfaces (by rw [readFrame_switches, hsw₁])]
    rfl
  subst hs
  rw [update_of_plannerFor hp]
  refine ⟨by rw [planFrame_switches, retarget_switches, readFrame_switches, hsw₁], rfl, ?_, ?_⟩
  · rw [planFrame_smoother, retarget_smoother, hfaces, readFrame_smoother, hs₁, hcrop]
  · rw [planFrame_target, retarget_target, planFrame_smoother, hfaces, readFrame_smoother, hs₁,
      readFrame_target]

/-- The smoother of a tracker along a run keeps its bounds. -/
theorem Run.inBounds (hr : Run cfg sw t h) : InBounds cfg t.smoother := by
  obtain ⟨hg, hs⟩ := hr.smootherRun
  exact hs.inBounds

theorem Run.threshold (hr : Run cfg sw t h) (hT : cfg.decisionThreshold ≤ Word.u32Max) :
    t.smoother.decisionThreshold = cfg.decisionThreshold := by
  obtain ⟨hg, hs⟩ := hr.smootherRun
  exact (hs.tracks hT).threshold

/-- An accepted frame of the scene that leaves nothing but the scene's crop in the window settles
the tracker: the window averages to that crop, so the target becomes the scene's. -/
theorem settled_of_filled (hr : Run cfg sw t h) (hp : t.plannerFor W H = some (p, t₁))
    (hF : Detection.readFaces document cfg.confidenceThreshold cfg.maxFaces = F)
    (hacc : ((t.smoother.adaptLeap (p.recordFrame ms).fps?).needsUpdate F.length).1 = true)
    (hfull : (t.update document W H ms).smoother.window.pushesLeft (t.sceneCrop F W H) = 0) :
    (t.update document W H ms).Settled F W H := by
  obtain ⟨-, -, hpw, hph, -, -, -⟩ := plannerFor_some hp
  obtain ⟨hsw, hplan, hsm, htarget⟩ := update_scene hr hp hF ms _ rfl
  set s := t.smoother.adaptLeap (p.recordFrame ms).fps?
  obtain ⟨hsel, -⟩ := needsUpdate_accepted hacc
  rw [if_pos hacc] at hsm htarget
  have hbounds := (Run.frame document W H ms hp hr).inBounds
  refine ⟨?_, by rw [sceneCrop_congr hsw]; exact hfull, ?_, ?_⟩
  · rw [hsm]
    split_ifs <;> simpa using hsel
  · -- the window holds the scene's crop only, and at least once
    have hne : (t.update document W H ms).smoother.window.crops ≠ [] := by
      rw [hsm]
      split_ifs <;> simp [CropWindow.crops_push]
    have havg := CropWindow.average_of_staleCount hbounds.sums
      (CropWindow.staleCount_of_pushesLeft hfull) hne
    rw [htarget, Smoother.average, havg, sceneTarget_congr hsw, sceneTarget_eq]
    by_cases hF0 : F = [] <;> simp [hF0]
  · rw [hplan]
    simp [Planner.recordFrame, hpw, hph]

/-- A selected count of `F`'s length is of the kind of `F`: zero exactly when `F` is empty. -/
theorem same_kind {c : Nat} (h : c = F.length) : ((c == 0) == F.isEmpty) = true := by
  subst h
  cases F <;> rfl

/-- A frame of the scene comes with a planner for its size. -/
theorem plannerFor_scene (hW : 0 < W) (hH : 0 < H) :
    ∃ p t₁, t.plannerFor W H = some (p, t₁) := by
  rcases hpf : t.plannerFor W H with _ | ⟨p, t₁⟩
  · exact absurd (plannerFor_eq_none_iff.mp hpf) (by omega)
  · exact ⟨p, t₁, rfl⟩

/-- A settled tracker stays settled over a frame of the scene, and its planner records the frame
and plans toward the scene's target. -/
theorem Settled.update (hr : Run cfg sw t h) (hW : 0 < W) (hH : 0 < H)
    (hF : Detection.readFaces document cfg.confidenceThreshold cfg.maxFaces = F)
    (hs : t.Settled F W H) (ms : Nat) :
    (t.update document W H ms).Settled F W H ∧ ∃ q, t.planner = some q ∧
      (t.update document W H ms).planner =
        some ((q.recordFrame ms).plan (t.sceneTarget F W H)).2 := by
  obtain ⟨hsel, hpush, htarget, hsized⟩ := hs
  obtain ⟨q, hq, hqs⟩ := Option.map_eq_some_iff.mp hsized
  obtain ⟨hqw, hqh⟩ := Prod.mk.inj hqs
  -- the planner has the size: nothing is reset
  have hp := plannerFor_of_sized hW hH hq ⟨hqw, hqh⟩
  obtain ⟨hsw, hplan, hsm, htg⟩ := update_scene hr hp hF ms _ rfl
  set s := t.smoother.adaptLeap (q.recordFrame ms).fps?
  -- the count of the scene is the selected one, so the window is not restarted
  have hkind := same_kind (c := s.selectedCount) (by rw [adaptLeap_selectedCount, hsel])
  have hsettled : (t.update document W H ms).Settled F W H := by
    by_cases hacc : (s.needsUpdate F.length).1
    · apply settled_of_filled hr hp hF hacc
      rw [hsm, if_pos hacc, if_pos hkind, push_window, needsUpdate_window, adaptLeap_window,
        CropWindow.pushesLeft_push hr.inBounds.size_le hr.inBounds.capacity_pos, hpush]
    · rw [if_neg hacc] at hsm htg
      refine ⟨?_, ?_, ?_, ?_⟩
      · rw [hsm, needsUpdate_refused (by simpa using hacc), adaptLeap_selectedCount, hsel]
      · rw [sceneCrop_congr hsw, hsm, needsUpdate_window, adaptLeap_window, hpush]
      · rw [htg, sceneTarget_congr hsw, htarget]
      · rw [hplan]
        simp [Planner.recordFrame, hqw, hqh]
  refine ⟨hsettled, q, hq, ?_⟩
  rw [hplan, hsettled.2.2.1, sceneTarget_congr hsw]

/-- Every frame of the scene brings the tracker a frame nearer to settling, until it has. -/
theorem settleLeft_update (hr : Run cfg sw t h) (hW : 0 < W) (hH : 0 < H)
    (hT : cfg.decisionThreshold ≤ Word.u32Max)
    (hF : Detection.readFaces document cfg.confidenceThreshold cfg.maxFaces = F) (ms : Nat) :
    (t.update document W H ms).settleLeft F W H ≤ t.settleLeft F W H - 1 := by
  by_cases hs : t.Settled F W H
  · simp [settleLeft, (hs.update hr hW hH hF ms).1]
  by_cases hs' : (t.update document W H ms).Settled F W H
  · simp [settleLeft, hs']
  obtain ⟨p, t₁, hp⟩ := plannerFor_scene (t := t) hW hH
  obtain ⟨hsw, -, hsm, -⟩ := update_scene hr hp hF ms _ rfl
  set s := t.smoother.adaptLeap (p.recordFrame ms).fps?
  have hb := hr.inBounds.adaptLeap (p.recordFrame ms).fps?
  have hleft : t.smoother.framesLeft F.length (t.sceneCrop F W H) =
      s.framesLeft F.length (t.sceneCrop F W H) :=
    (framesLeft_adaptLeap _).symm
  rw [settleLeft, if_neg hs', settleLeft, if_neg hs, sceneCrop_congr hsw, hsm, hleft]
  by_cases hacc : (s.needsUpdate F.length).1
  · -- accepted: the window takes the scene's crop, restarted only if the count was not selected
    rw [if_pos hacc]
    apply hb.framesLeft_accepted hacc
    · split_ifs
      · exact Or.inl rfl
      · exact Or.inr rfl
    · intro hn
      rw [if_pos (same_kind hn)]
    · exact fun h0 => hs' (settled_of_filled hr hp hF hacc (by rw [hsm, if_pos hacc]; exact h0))
  · -- refused: only the counters move
    rw [if_neg hacc]
    have hthr : s.decisionThreshold ≤ Word.u32Max := by
      rw [adaptLeap_decisionThreshold, hr.threshold hT]
      exact hT
    exact hb.framesLeft_refused hthr (by simpa using hacc)

/-- Handing out the crop changes nothing of the scene's count-down. -/
theorem settleLeft_take : t.take.2.settleLeft F W H = t.settleLeft F W H := by
  unfold Tracker.take
  split <;> rfl

theorem Settled.take (hs : t.Settled F W H) : t.take.2.Settled F W H := by
  unfold Tracker.take
  split
  · exact hs
  · exact hs

/-- A tracker with nothing left to count down has settled. -/
theorem settled_of_settleLeft_eq_zero (hr : Run cfg sw t h) (h0 : t.settleLeft F W H = 0) :
    t.Settled F W H := by
  by_contra hs
  have hpos := hr.inBounds.acceptLeft_pos (n := F.length)
  rw [settleLeft, if_neg hs, framesLeft] at h0
  omega

/-- Along frames of the scene, with crops handed out and overlays drawn in between, the count-down
falls by the number of frames. -/
theorem Run.settleLeft_run (hr : Run cfg sw t h) (hW : 0 < W) (hH : 0 < H)
    (hT : cfg.decisionThreshold ≤ Word.u32Max) {calls : List TrackerCall}
    (hcalls : ∀ call ∈ calls, call.Shows cfg W H F) :
    (t.run calls).settleLeft F W H ≤ t.settleLeft F W H - calls.countP TrackerCall.isUpdate := by
  induction calls generalizing t h with
  | nil => simp
  | cons call calls ih =>
    have hr' := hr.step_recorded call
    have hrest := ih hr' (fun c hc => hcalls c (List.mem_cons_of_mem _ hc))
    rw [run_cons, List.countP_cons]
    cases call with
    | update document width height ms =>
      obtain ⟨rfl, rfl, hF⟩ := hcalls _ List.mem_cons_self
      have hstep := settleLeft_update hr hW hH hT hF ms
      simp only [Tracker.step, TrackerCall.isUpdate, if_true] at hrest ⊢
      omega
    | take =>
      simp only [Tracker.step, settleLeft_take] at hrest ⊢
      simpa [TrackerCall.isUpdate] using hrest
    | drawOverlay frame => simpa [Tracker.step, TrackerCall.isUpdate] using hrest

/-- Settled, the tracker stays settled along frames of the scene, and its planner takes exactly
the frames recorded and the plans toward the scene's target. -/
theorem Settled.run (hr : Run cfg sw t h) (hW : 0 < W) (hH : 0 < H) (hs : t.Settled F W H)
    {calls : List TrackerCall} (hcalls : ∀ call ∈ calls, call.Shows cfg W H F) :
    (t.run calls).Settled F W H ∧ ∃ q, t.planner = some q ∧
      (t.run calls).planner =
        some (q.run (calls.flatMap (TrackerCall.plannerCalls (t.sceneTarget F W H)))) := by
  induction calls generalizing t h with
  | nil =>
    obtain ⟨q, hq, -⟩ := Option.map_eq_some_iff.mp hs.2.2.2
    exact ⟨hs, q, hq, by simp [hq]⟩
  | cons call calls ih =>
    have hrest := fun c hc => hcalls c (List.mem_cons_of_mem _ hc)
    have hr' := hr.step_recorded call
    have hτ : (t.step call).sceneTarget F W H = t.sceneTarget F W H :=
      sceneTarget_congr (step_switches t call)
    cases call with
    | update document width height ms =>
      obtain ⟨rfl, rfl, hF⟩ := hcalls _ List.mem_cons_self
      obtain ⟨hs', q, hq, hplan⟩ := hs.update hr hW hH hF ms
      obtain ⟨hset, q', hq', hplan'⟩ := ih hr' hs' hrest
      simp only [Tracker.step] at hq' hτ hplan' hset
      rw [hplan] at hq'
      cases hq'
      refine ⟨hset, q, hq, ?_⟩
      rw [run_cons, Tracker.step, hplan', hτ]
      rfl
    | take =>
      obtain ⟨hset, q, hq, hplan⟩ := ih hr' hs.take hrest
      simp only [Tracker.step] at hq hτ hplan hset
      refine ⟨hset, q, take_planner.symm.trans hq, ?_⟩
      rw [run_cons, Tracker.step, hplan, hτ]
      rfl
    | drawOverlay frame =>
      obtain ⟨hset, q, hq, hplan⟩ := ih hr' hs hrest
      simp only [Tracker.step] at hq hτ hplan hset
      exact ⟨hset, q, hq, by rw [run_cons, Tracker.step, hplan]; rfl⟩

/-- From any state of a run, the count-down to settling is at most
`decisionThreshold + max leap lowFpsLeap · smoothingCapacity` frames. -/
theorem Run.settleLeft_le (hr : Run cfg sw t h) (hT : cfg.decisionThreshold ≤ Word.u32Max) :
    t.settleLeft F W H ≤
      cfg.decisionThreshold + max cfg.leap cfg.lowFpsLeap * cfg.smoothingCapacity := by
  obtain ⟨hleap, hlow, hcap⟩ := TrackingConfig.validate_pace hr.validate
  have hb := hr.inBounds
  have hM : t.smoother.maxLeap = max cfg.leap cfg.lowFpsLeap := by
    simp only [maxLeap, hb.baseLeap, hb.lowLeap]
    omega
  have hle := hb.framesLeft_le (n := F.length) (r := t.sceneCrop F W H)
  rw [hr.threshold hT, hb.capacity, hM, Nat.max_eq_left hcap, Nat.mul_comm] at hle
  unfold settleLeft
  split_ifs
  · omega
  · exact hle

/-- That many frames of the scene settle the tracker. -/
theorem Run.settled_after (hr : Run cfg sw t h) (hW : 0 < W) (hH : 0 < H)
    (hT : cfg.decisionThreshold ≤ Word.u32Max) {calls : List TrackerCall}
    (hcalls : ∀ call ∈ calls, call.Shows cfg W H F)
    (hn : cfg.decisionThreshold + max cfg.leap cfg.lowFpsLeap * cfg.smoothingCapacity ≤
      calls.countP TrackerCall.isUpdate) :
    (t.run calls).Settled F W H := by
  have hr' := hr.run_recorded calls
  apply settled_of_settleLeft_eq_zero hr'
  have hfall := hr.settleLeft_run hW hH hT hcalls
  have hstart := hr.settleLeft_le (F := F) (W := W) (H := H) hT
  omega

/-- Settled, with a planner `p₁`, the tracker shown at least `settleBound` more frames of the scene
stays settled with a planner at rest for the scene's target. -/
theorem Settled.rests (hr : Run cfg sw t h) (hW : 0 < W) (hH : 0 < H) (hW' : p.width ≤ Word.u32Max)
    (hH' : p.height ≤ Word.u32Max) (hL : cfg.maxPanStep ≤ Word.i32Max)
    (hs : ∀ tier : Tier, tier.pick cfg.zoomTierSteps ≤ Word.u32Max) (hset : t.Settled F W H)
    (hp : t.planner = some p) {calls : List TrackerCall}
    (hcalls : ∀ call ∈ calls, call.Shows cfg W H F)
    (hn : Planner.settleBound cfg p (t.sceneTarget F W H) ≤ calls.countP TrackerCall.isUpdate) :
    ∃ q, (t.run calls).planner = some q ∧ q.Rests (t.sceneTarget F W H) ∧
      (t.run calls).Settled F W H := by
  obtain ⟨hset', q, hq, hplan⟩ := hset.run hr hW hH hcalls
  rw [hp] at hq
  cases hq
  refine ⟨_, hplan, ?_, hset'⟩
  exact (hr.plannerFits.reachable hp).rests hr.validate hL hW' hH' hs
    (TrackerCall.plans_plannerCalls _ calls) (by rw [TrackerCall.countP_plannerCalls]; exact hn)

/-- Settled, with a planner at rest for the scene's target, the tracker keeps its crop over
frames of the scene. -/
theorem Settled.crop_run (hr : Run cfg sw t h) (hW : 0 < W) (hH : 0 < H) (hset : t.Settled F W H)
    (hp : t.planner = some p) (hrest : p.Rests (t.sceneTarget F W H)) {calls : List TrackerCall}
    (hcalls : ∀ call ∈ calls, call.Shows cfg W H F) : (t.run calls).crop = p.crop := by
  obtain ⟨-, q, hq, hplan⟩ := hset.run hr hW hH hcalls
  rw [hp] at hq
  cases hq
  rw [crop, hplan, Option.map_some, Option.getD_some]
  exact (hrest.run (TrackerCall.plans_plannerCalls _ calls)).2

/-- For every tracker along a run with a validated configuration, shown frames of one size `W × H`
(32-bit sides, with a 32-bit decision threshold, zoom steps and pan limit) whose detection
documents all give the faces `F`, with crops handed out and overlays drawn in between and
timestamps of any kind:

* after at least `decisionThreshold + max leap lowFpsLeap · smoothingCapacity` such frames the
  target is the scene's (`sceneTarget`): none without faces, and otherwise the target framing the
  crop around the face tracked among `F`, the largest or the box around all of them as the switches
  say (none as well if that crop's center is the origin), so it no longer changes;
* from then on, after the frames the planner's settling bounds ask for (`Planner.settleBound`,
  from its aim point at that moment), the planner rests for that target (`Planner.Rests`): in
  `normal`, unzoomed and cutting nothing without one, zoomed in at the top level on its center
  with one; and no further frame of the scene changes the crop. -/
theorem Run.steady_scene (hr : Run cfg sw t h) (hW : 0 < W) (hH : 0 < H) (hW' : W ≤ Word.u32Max)
    (hH' : H ≤ Word.u32Max) (hT : cfg.decisionThreshold ≤ Word.u32Max)
    (hL : cfg.maxPanStep ≤ Word.i32Max)
    (hs : ∀ tier : Tier, tier.pick cfg.zoomTierSteps ≤ Word.u32Max)
    (calls₁ : List TrackerCall) (hcalls₁ : ∀ call ∈ calls₁, call.Shows cfg W H F)
    (hn : cfg.decisionThreshold + max cfg.leap cfg.lowFpsLeap * cfg.smoothingCapacity ≤
      calls₁.countP TrackerCall.isUpdate) :
    (t.run calls₁).target = t.sceneTarget F W H ∧
      ∃ p₁, (t.run calls₁).planner = some p₁ ∧ p₁.width = W ∧ p₁.height = H ∧
        ∀ calls₂ : List TrackerCall, (∀ call ∈ calls₂, call.Shows cfg W H F) →
          Planner.settleBound cfg p₁ (t.sceneTarget F W H) ≤
            calls₂.countP TrackerCall.isUpdate →
          ∃ p₂, ((t.run calls₁).run calls₂).planner = some p₂ ∧
            p₂.Rests (t.sceneTarget F W H) ∧
            ∀ calls₃ : List TrackerCall, (∀ call ∈ calls₃, call.Shows cfg W H F) →
              (((t.run calls₁).run calls₂).run calls₃).crop = p₂.crop := by
  have hset := hr.settled_after hW hH hT hcalls₁ hn
  have hτ₁ := sceneTarget_congr (F := F) (W := W) (H := H) (run_switches t calls₁)
  refine ⟨hset.2.2.1.trans hτ₁, ?_⟩
  obtain ⟨p₁, hp₁, hps⟩ := Option.map_eq_some_iff.mp hset.2.2.2
  obtain ⟨hpw, hph⟩ := Prod.mk.inj hps
  refine ⟨p₁, hp₁, hpw, hph, fun calls₂ hcalls₂ hn₂ => ?_⟩
  -- the target stays, so the planner settles toward it and then keeps its crop
  have hr₁ := hr.run_recorded calls₁
  obtain ⟨p₂, hp₂, hrests, hset₂⟩ := hset.rests hr₁ hW hH (hpw ▸ hW') (hph ▸ hH') hL hs hp₁
    hcalls₂ (by rwa [hτ₁])
  have hr₂ := hr₁.run_recorded calls₂
  have hτ₂ := sceneTarget_congr (F := F) (W := W) (H := H) (run_switches (t.run calls₁) calls₂)
  rw [hτ₁] at hrests
  exact ⟨p₂, hp₂, hrests, fun calls₃ hcalls₃ =>
    hset₂.crop_run hr₂ hW hH hp₂ (by rwa [hτ₂, hτ₁]) hcalls₃⟩

/-- A tracker deciding on every frame, asking a new count to hold one frame more, with a window of
two crops and short zoom and pan tiers, has zoomed in on a face at one place of a 640×480 frame
when the face moves and stays. Three frames of the new scene bring the target onto it; twenty more
leave the planner zoomed in on its center. -/
theorem steady_scene_moved :
    ∃ (cfg : TrackingConfig) (docA docB : List UInt8) (F : List FaceBox)
      (calls₁ calls₂ : List TrackerCall) (t₀ t : Tracker) (h : List Shown),
      cfg = { leap := 1, lowFpsLeap := 1, decisionThreshold := 1, smoothingCapacity := 2,
              zoomTierSteps := ⟨2, 2, 2⟩, panTiltTierFrames := ⟨3, 3, 3⟩ } ∧
      docA = "\x7b\"faces\":[[90,160,120,100,100]]\x7d".toUTF8.toList ∧
      docB = "\x7b\"faces\":[[90,400,300,100,100]]\x7d".toUTF8.toList ∧
      F = Detection.readFaces docB cfg.confidenceThreshold cfg.maxFaces ∧
      calls₁ = [100, 133, 166].map (fun ms => .update docB 640 480 ms) ∧
      calls₂ = (List.range 20).map (fun i => .update docB 640 480 (200 + 33 * i)) ∧
      Tracker.create cfg {} = .ok t₀ ∧
      t₀.run ([0, 33, 66].map (fun ms => .update docA 640 480 ms)) = t ∧
      Run cfg {} t h ∧
      t.target = some ⟨⟨210, 170⟩, 100, 100⟩ ∧ t.phase = .zoomIn ∧
      t.sceneTarget F 640 480 = some ⟨⟨450, 350⟩, 100, 100⟩ ∧
      ((t.run calls₁).run calls₂).planner.map (fun p => (p.phase, p.center)) =
        some (.zoomIn, ⟨450, 350⟩) ∧
      (∀ call ∈ calls₁, call.Shows cfg 640 480 F) ∧
      cfg.decisionThreshold + max cfg.leap cfg.lowFpsLeap * cfg.smoothingCapacity ≤
        calls₁.countP TrackerCall.isUpdate ∧
      ((t.run calls₁).target = t.sceneTarget F 640 480 ∧
        ∃ p₁, (t.run calls₁).planner = some p₁ ∧ p₁.width = 640 ∧ p₁.height = 480 ∧
          ∀ calls₂ : List TrackerCall, (∀ call ∈ calls₂, call.Shows cfg 640 480 F) →
            Planner.settleBound cfg p₁ (t.sceneTarget F 640 480) ≤
              calls₂.countP TrackerCall.isUpdate →
            ∃ p₂, ((t.run calls₁).run calls₂).planner = some p₂ ∧
              p₂.Rests (t.sceneTarget F 640 480) ∧
              ∀ calls₃ : List TrackerCall, (∀ call ∈ calls₃, call.Shows cfg 640 480 F) →
                (((t.run calls₁).run calls₂).run calls₃).crop = p₂.crop) := by
  refine ⟨_, _, _, _, _, _, _, _, _, rfl, rfl, rfl, rfl, rfl, rfl, rfl, rfl,
    (Run.create rfl).run_recorded _, by decide +kernel, by decide +kernel, by decide +kernel,
    by decide +kernel, ?shows, ?count,
    Run.steady_scene ((Run.create rfl).run_recorded _) (by decide) (by decide) (by decide)
      (by decide) (by decide) (by decide) (fun tier => by cases tier <;> decide) _ ?shows ?count⟩
  case shows =>
    intro call hc
    obtain ⟨ms, -, rfl⟩ := List.mem_map.mp hc
    exact ⟨rfl, rfl, rfl⟩
  case count => decide

end Tracker

end FaceFraming
