import FaceFraming.Proofs.Tracking.Bounds
import FaceFraming.Proofs.Tracking.Steady
import FaceFraming.Proofs.Tracking.Reporting

/-!
# Tracking without overflow

An overflow-checked build of the tracker stops on frames `2^31` pixels wide or high: the side read
as a signed 32-bit word is negative, and the visible width of the first crop around a face leaves
its word (`visibleWidth?_wide`). Below that size, and on a configuration whose values are words of
the program's types with at most `65537` faces and a window of at most `2^32` crops
(`TrackingConfig.Bounded`), no call stops it: every sequence of calls made with overflow checks
gives what the unchecked calls give (`calls_never_overflow`).

The proof is an invariant along the runs of `Tracker.Run` (`Tracker.InWords`): the faces have
16-bit parts and are at most `maxFaces`, the smoothing window is narrow (`CropWindow.Narrow`), the
target is aimed at a 32-bit point, the planner is in words (`Planner.InWords`) and the crop last
taken is narrow. An update keeps it step by step (`InWords.frame`, `InWords.retarget`,
`InWords.planFrame`), and the same facts make each checked step equal to the unchecked one
(`retarget?_eq`, `update?_eq`, `drawOverlay?_eq`).
-/

namespace FaceFraming

open Word

/-- A configuration in the safe region: its values are words of the program's types, it keeps at
most `65537` faces, so that their 16-bit confidences add up in 32 bits, and its window holds at
most `2^32` crops, so that their edges add up in 64 bits. -/
structure TrackingConfig.Bounded (c : TrackingConfig) : Prop where
  planner : c.PlannerInWords
  leap : c.leap ≤ u32Max
  lowFpsLeap : c.lowFpsLeap ≤ u32Max
  maxFaces : c.maxFaces ≤ 65537
  smoothingCapacity : c.smoothingCapacity ≤ 4294967296

theorem TrackingConfig.default_bounded : TrackingConfig.Bounded {} :=
  ⟨⟨by decide, by decide, by decide⟩, by decide, by decide, by decide, by decide⟩

/-- A call on a frame of sides below `2^31`; the calls that take no frame size always are. -/
def TrackerCall.Fits : TrackerCall → Prop
  | .update _ width height _ => width < 2147483648 ∧ height < 2147483648
  | .take => True
  | .drawOverlay _ => True

instance (call : TrackerCall) : Decidable call.Fits :=
  match call with
  | .update _ _ _ _ => inferInstanceAs (Decidable (_ ∧ _))
  | .take => inferInstanceAs (Decidable True)
  | .drawOverlay _ => inferInstanceAs (Decidable True)

/-- A recorded frame of sides below `2^31`. -/
abbrev Shown.Fits (f : Shown) : Prop :=
  f.width < 2147483648 ∧ f.height < 2147483648

namespace Tracker

/-- A call as an overflow-checked build makes it; drawing reads the tracker but remaps its faces. -/
def step? (t : Tracker) : TrackerCall → Checked Tracker
  | .update document width height ms => t.update? document width height ms
  | .take => pure t.take.2
  | .drawOverlay frame => do
    let _ ← t.drawOverlay? frame
    pure t

/-- A sequence of calls as an overflow-checked build makes them, stopping at the first panic. -/
def run? (t : Tracker) (calls : List TrackerCall) : Checked Tracker :=
  calls.foldlM step? t

variable {cfg : TrackingConfig} {sw : Switches} {t t₁ u : Tracker} {h : List Shown} {p : Planner}
  {W H : Nat}

/-! ### The frame of `2^31` pixels -/

/-- On a frame `2^31` pixels wide, read as the least signed 32-bit word, any crop that cuts
columns on the left leaves a visible width below the least word. -/
theorem visibleWidth?_wide {c : Crop} (hl : 0 < c.left) :
    c.visibleWidth? 2147483648 = .error .subOverflow := by
  have hw : wrap32 ((2147483648 : Nat) : Int) = -2147483648 := by decide
  unfold Crop.visibleWidth?
  rw [hw]
  unfold IntType.sub IntType.fit
  rw [if_neg (by rw [IntType.holds_i32]; omega)]
  rfl

/-- The target around a face off the left edge of a frame `2^31` pixels wide cannot be computed. -/
theorem checkedOfCrop_wide (f : FaceBox) (hx : 0 < f.x) (hx' : f.x < 2147483648) (H : Nat) :
    Target.checkedOfCrop (Crop.around f 2147483648 H) 2147483648 H = .error .subOverflow := by
  have hl : 0 < (Crop.around f 2147483648 H).left := by
    simp only [Crop.around]
    rw [wrap32_of_mem (by omega) (by omega)]
    omega
  simp only [Target.checkedOfCrop, Crop.center?, visibleWidth?_wide hl]
  rfl

/-! ### The invariant -/

/-- What a tracker keeps in words along a run on frames of sides below `2^31`: faces of 16-bit
parts, at most `maxFaces` of them; a narrow window; a target and a planner in words; a narrow crop
last taken. -/
structure InWords (cfg : TrackingConfig) (t : Tracker) : Prop where
  faces : ∀ f ∈ t.faces, f.Fits16
  count : t.faces.length ≤ cfg.maxFaces
  window : t.smoother.window.Narrow
  target : ∀ u ∈ t.target, u.center.InWords
  planner : ∀ p, t.planner = some p → p.InWords
  applied : t.applied.Narrow

theorem InWords.create (hc : cfg.Bounded) (h₀ : Tracker.create cfg sw = .ok t) : InWords cfg t := by
  obtain ⟨-, rfl⟩ := create_eq h₀
  exact
    { faces := fun _ hf => absurd hf List.not_mem_nil
      count := Nat.zero_le _
      window := CropWindow.Narrow.create hc.smoothingCapacity
      target := fun _ hu => absurd hu (Option.not_mem_none _)
      planner := fun _ hp => by cases hp
      applied := Crop.identity_narrow }

/-- The planner handed out for a frame of 32-bit sides is in words, and so is the tracker handed
back: the tracker itself, or the tracker with its target forgotten. -/
theorem InWords.plannerFor (hI : InWords cfg t) (hc : t.config.PlannerInWords)
    (hp : t.plannerFor W H = some (p, t₁)) (hW : W ≤ u32Max) (hH : H ≤ u32Max) :
    InWords cfg t₁ ∧ p.InWords := by
  obtain ⟨-, -, -, -, ht₁, hnone, hsome⟩ := plannerFor_some hp
  refine ⟨?_, ?_⟩
  · rcases ht₁ with ⟨rfl, -⟩ | rfl
    · exact hI
    · exact { hI with target := fun _ hu => absurd hu (Option.not_mem_none _) }
  · rcases hq : t.planner with _ | q
    · exact Planner.InWords.create hc (hnone hq) hW hH
    · rw [hsome q hq]
      exact (hI.planner q hq).step ⟨hW, hH⟩

/-- Reading a frame: the faces of any document have 16-bit parts and are at most `maxFaces`. -/
theorem InWords.readFrame (hI : InWords cfg t) (hc : t.config = cfg) (p : Planner)
    (document : List UInt8) : InWords cfg (t.readFrame p document) :=
  { hI with
    faces := by
      rw [readFrame_faces]
      exact (Detection.readFaces_fits16 _ _ _).1
    count := by
      rw [readFrame_faces, hc]
      exact (Detection.readFaces_fits16 _ _ _).2
    window := by
      rw [readFrame_smoother, Smoother.adaptLeap_window]
      exact hI.window }

/-- A window narrow before a restart is narrow after it. -/
theorem restart_narrow {s : Smoother} (hs : s.window.Narrow) (c : Prop) [Decidable c] :
    (if c then s else s.clearWindow).window.Narrow := by
  split_ifs
  · exact hs
  · exact hs.clear

/-- The window after revising the target on a frame of sides below `2^31` is narrow: the crop
pushed is around a face of the frame. -/
theorem retarget_window (hI : InWords cfg u) (hW : W < 2147483648) (hH : H < 2147483648) :
    (u.retarget W H).smoother.window.Narrow := by
  have hwin : (u.smoother.needsUpdate u.faces.length).2.window.Narrow := by
    rw [Smoother.needsUpdate_window]
    exact hI.window
  rw [retarget_smoother]
  by_cases hacc : (u.smoother.needsUpdate u.faces.length).1 = true
  · rw [if_pos hacc]
    exact (restart_narrow hwin _).push (Crop.around_narrow _ hW hH)
  · rw [if_neg hacc]
    exact hwin

theorem InWords.retarget (hI : InWords cfg u) (hW : W < 2147483648) (hH : H < 2147483648) :
    InWords cfg (u.retarget W H) where
  faces := by
    rw [retarget_faces]
    exact hI.faces
  count := by
    rw [retarget_faces]
    exact hI.count
  window := retarget_window hI hW hH
  target := by
    rw [retarget_target]
    split_ifs
    · exact fun _ hv => absurd hv (Option.not_mem_none _)
    · exact (Target.checkedOfCrop_eq (Smoother.average_narrow (retarget_window hI hW hH)) hW hH).2
    · exact hI.target
  planner := by
    rw [retarget_planner]
    exact hI.planner
  applied := by
    rw [retarget_applied]
    exact hI.applied

theorem InWords.planFrame (hI : InWords cfg t) (hp : p.InWords) : InWords cfg (t.planFrame p) :=
  { hI with
    planner := fun q hq => by
      rw [planFrame_planner, Option.some.injEq] at hq
      exact hq ▸ hp.plan hI.target }

theorem InWords.take (hI : InWords cfg t) (hcrop : t.crop.Narrow) : InWords cfg t.take.2 := by
  unfold Tracker.take
  split
  · exact { hI with applied := hcrop }
  · exact hI

/-- What an update with a planner meets before it revises the target: the frame read keeps the
invariant and the smoother its bounds, and the planner, with the frame's time recorded, is in
words. -/
theorem InWords.frame (hI : InWords cfg t) (hc : cfg.Bounded) (hr : Run cfg sw t h)
    (hp : t.plannerFor W H = some (p, t₁)) (hW : W < 2147483648) (hH : H < 2147483648)
    (document : List UInt8) (ms : Nat) :
    InWords cfg (t₁.readFrame (p.recordFrame ms) document) ∧
      Smoother.InBounds cfg (t₁.readFrame (p.recordFrame ms) document).smoother ∧
      (p.recordFrame ms).InWords := by
  obtain ⟨hcfg, -, hs₁⟩ := plannerFor_keeps hp
  obtain ⟨hI₁, hpw⟩ := hI.plannerFor (hr.config.1 ▸ hc.planner) hp (by unfold u32Max; omega)
    (by unfold u32Max; omega)
  refine ⟨hI₁.readFrame (hcfg.trans hr.config.1) _ _, ?_,
    hpw.step (show (PlannerCall.recordFrame ms).InWords from trivial)⟩
  rw [readFrame_smoother, hs₁]
  exact hr.inBounds.adaptLeap _

/-- An update on a frame of sides below `2^31` keeps the invariant. -/
theorem InWords.update (hI : InWords cfg t) (hc : cfg.Bounded) (hr : Run cfg sw t h)
    (document : List UInt8) (hW : W < 2147483648) (hH : H < 2147483648) (ms : Nat) :
    InWords cfg (t.update document W H ms) := by
  rcases hp : t.plannerFor W H with _ | ⟨p, t₁⟩
  · rw [update_of_plannerFor_none hp]
    exact hI
  · obtain ⟨hI₂, -, hpw⟩ := hI.frame hc hr hp hW hH document ms
    rw [update_of_plannerFor hp]
    exact (hI₂.retarget hW hH).planFrame hpw

/-- The crop of a tracker along a run on frames of sides below `2^31` is narrow. -/
theorem crop_narrow (hf : PlannerFits cfg t h) (hh : ∀ f ∈ h, f.Fits) : t.crop.Narrow := by
  have hcrop := hf.cropFits
  cases h with
  | nil =>
    unfold CropFitsNewest at hcrop
    rw [hcrop]
    exact Crop.identity_narrow
  | cons f h =>
    obtain ⟨hw, hh'⟩ := hh f List.mem_cons_self
    exact Crop.narrow_of_isValidFor hw hh' (hcrop hw hh')

/-- The planner of a tracker along a run on frames of sides below `2^31` has sides below `2^31`:
those of the newest frame. -/
theorem planner_lt (hf : PlannerFits cfg t h) (hh : ∀ f ∈ h, f.Fits) (hp : t.planner = some p) :
    p.width < 2147483648 ∧ p.height < 2147483648 := by
  cases h with
  | nil =>
    unfold PlannerFits at hf
    rw [hp] at hf
    cases hf
  | cons f h =>
    obtain ⟨q, hq, -, hw, hh'⟩ := hf
    rw [hp, Option.some.injEq] at hq
    subst hq
    obtain ⟨h1, h2⟩ := hh f List.mem_cons_self
    exact ⟨hw ▸ h1, hh' ▸ h2⟩

/-- The invariant holds along every run on frames of sides below `2^31`. -/
theorem Run.inWords (hc : cfg.Bounded) (hr : Run cfg sw t h) (hh : ∀ f ∈ h, f.Fits) :
    InWords cfg t := by
  induction hr with
  | create h₀ => exact InWords.create hc h₀
  | frame document width height ms hp hr ih =>
    -- the frame recorded has the size of the update
    obtain ⟨hW, hH⟩ := hh _ List.mem_cons_self
    exact (ih fun f hf => hh f (List.mem_cons_of_mem _ hf)).update hc hr document hW hH ms
  | skip document width height ms hz _ ih =>
    rw [update_of_zero hz]
    exact ih hh
  | take hr ih => exact (ih hh).take (crop_narrow hr.plannerFits hh)

/-! ### Each checked call -/

/-- The frame counter of a smoother within its bounds is below the largest 32-bit word: it stays
below the larger leap, itself a 32-bit word. -/
theorem since_lt_u32Max (hc : cfg.Bounded) {s : Smoother} (hb : Smoother.InBounds cfg s) :
    s.sinceDecision < u32Max := by
  have h1 := hb.since_lt
  have h2 := hb.baseLeap
  have h3 := hb.lowLeap
  have h4 := hc.leap
  have h5 := hc.lowFpsLeap
  unfold Smoother.maxLeap at h1
  unfold u32Max at h4 h5 ⊢
  omega

/-- Revising the target on a frame of sides below `2^31` never overflows. -/
theorem retarget?_eq (hc : cfg.Bounded) (hI : InWords cfg u) (hs : u.smoother.sinceDecision < u32Max)
    (hW : W < 2147483648) (hH : H < 2147483648) : u.retarget? W H = .ok (u.retarget W H) := by
  rw [retarget?, retarget, Smoother.needsUpdate?_eq hs, Checked.ok_bind]
  rcases hn : u.smoother.needsUpdate u.faces.length with ⟨accept, s⟩
  have hwin : s.window.Narrow := by
    have hw := Smoother.needsUpdate_window u.smoother u.faces.length
    rw [hn] at hw
    exact hw ▸ hI.window
  cases accept with
  | false => rfl
  | true =>
    -- the window takes the crop around the face, and on faces the target is its average
    have hpushed : ((if ((u.smoother.selectedCount == 0) == u.faces.isEmpty) = true then s
        else s.clearWindow).push (Crop.around (u.select.getD (FaceBox.wholeFrame W H)) W H)).window.Narrow :=
      (restart_narrow hwin _).push (Crop.around_narrow _ hW hH)
    have hkeep : ¬((!true) = true) := Bool.false_ne_true
    dsimp only
    rw [if_neg hkeep, if_neg hkeep, select?_eq hI.faces (hI.count.trans hc.maxFaces),
      Checked.ok_bind, Smoother.push?_eq (restart_narrow hwin _) (Crop.around_narrow _ hW hH),
      Checked.ok_bind]
    by_cases he : u.faces.isEmpty = true
    · rw [if_pos he, if_pos he]
      rfl
    · rw [if_neg he, if_neg he, Smoother.average?_eq hpushed, Checked.ok_bind,
        (Target.checkedOfCrop_eq (Smoother.average_narrow hpushed) hW hH).1, Checked.ok_bind]
      rfl

/-- A checked update with a planner for the frame: read the frame, revise the target, plan, each
in checked words. -/
theorem update?_of_plannerFor {document : List UInt8} {ms : Nat}
    (hp : t.plannerFor W H = some (p, t₁)) :
    t.update? document W H ms = (do
      let t ← (t₁.readFrame (p.recordFrame ms) document).retarget? W H
      let (d, p') ← (p.recordFrame ms).plan? t.target
      pure { t with planner := some p', dirty := t.dirty || d.changed,
                    tally := t.tally.notePlan (p.recordFrame ms).phase p'.phase d.changed }) := by
  simp only [update?, hp]
  rfl

/-- An update on a frame of sides below `2^31` never overflows. -/
theorem update?_eq (hc : cfg.Bounded) (hr : Run cfg sw t h) (hh : ∀ f ∈ h, f.Fits)
    (document : List UInt8) (hW : W < 2147483648) (hH : H < 2147483648) (ms : Nat) :
    t.update? document W H ms = .ok (t.update document W H ms) := by
  rcases hp : t.plannerFor W H with _ | ⟨p, t₁⟩
  · simp only [update?, update, hp]
    rfl
  · obtain ⟨hI₂, hb₂, hpw⟩ := (hr.inWords hc hh).frame hc hr hp hW hH document ms
    have hreach := (hr.plannerFits.plannerFor hr.config.1 hp).step (.recordFrame ms)
    have hI₃ := hI₂.retarget hW hH
    rw [update_of_plannerFor hp, update?_of_plannerFor hp,
      retarget?_eq hc hI₂ (since_lt_u32Max hc hb₂) hW hH, Checked.ok_bind,
      Planner.plan?_eq hpw hreach.levelsOk hreach.size_pos.1 hreach.size_pos.2 hI₃.target,
      Checked.ok_bind]
    rfl

/-- The faces remapped through the crop last taken, in checked words: the crop is narrow and the
planner's frame has sides below `2^31`. -/
theorem remap?_eq (hI : InWords cfg t) (hf : PlannerFits cfg t h) (hh : ∀ f ∈ h, f.Fits) :
    t.remap? t.applied = .ok (t.remap t.applied) := by
  unfold remap? remap
  rcases hp : t.planner with _ | p
  · rfl
  · obtain ⟨hw, hh'⟩ := planner_lt hf hh hp
    exact remapFaces?_eq hI.applied hw hh' hI.faces

/-- Drawing the faces, remapped through the crop last taken, never overflows. -/
theorem drawOverlay?_eq (hc : cfg.Bounded) (hr : Run cfg sw t h) (hh : ∀ f ∈ h, f.Fits)
    (b : FrameBuffer) :
    t.drawOverlay? b = .ok (t.drawOverlay b) := by
  unfold drawOverlay? drawOverlay
  split_ifs
  · rw [remap?_eq (hr.inWords hc hh) hr.plannerFits hh, Checked.ok_bind]
    rfl
  · rfl

/-- Every call on a frame of sides below `2^31` is made without overflow, and continues the run
with frames of sides below `2^31`. -/
theorem Run.step?_eq (hc : cfg.Bounded) (hr : Run cfg sw t h) (hh : ∀ f ∈ h, f.Fits)
    {call : TrackerCall} (hcall : call.Fits) :
    t.step? call = .ok (t.step call) ∧ ∃ h', Run cfg sw (t.step call) h' ∧ ∀ f ∈ h', f.Fits := by
  cases call with
  | update document width height ms =>
    obtain ⟨hW, hH⟩ := hcall
    refine ⟨update?_eq hc hr hh document hW hH ms, ?_⟩
    rcases hr.update_cases document width height ms with ⟨-, -, f, hfw, hfh, hr'⟩ | ⟨-, hr'⟩
    · refine ⟨_, hr', fun g hg => ?_⟩
      rcases List.mem_cons.mp hg with rfl | hg
      · exact ⟨hfw ▸ hW, hfh ▸ hH⟩
      · exact hh g hg
    · exact ⟨h, hr', hh⟩
  | take => exact ⟨rfl, h, .take hr, hh⟩
  | drawOverlay b =>
    refine ⟨?_, h, hr, hh⟩
    rw [step?, drawOverlay?_eq hc hr hh b, Checked.ok_bind]
    rfl

/-- A sequence of calls on frames of sides below `2^31`, from any tracker along such a run, is made
without overflow. -/
theorem Run.run?_eq (hc : cfg.Bounded) (hr : Run cfg sw t h) (hh : ∀ f ∈ h, f.Fits)
    {calls : List TrackerCall} (hcalls : ∀ call ∈ calls, call.Fits) :
    t.run? calls = .ok (t.run calls) := by
  induction calls generalizing t h with
  | nil => rfl
  | cons call calls ih =>
    obtain ⟨hstep, h', hr', hh'⟩ := hr.step?_eq hc hh (hcalls call List.mem_cons_self)
    rw [run?, List.foldlM_cons, hstep, Checked.ok_bind]
    exact ih hr' hh' fun c hc' => hcalls c (List.mem_cons_of_mem _ hc')

/-- On a configuration in the safe region, every sequence of calls on frames of sides below `2^31`
is made without overflow: the checked calls give what the unchecked ones give. -/
theorem calls_never_overflow (hc : cfg.Bounded) (h₀ : Tracker.create cfg sw = .ok t)
    {calls : List TrackerCall} (hcalls : ∀ call ∈ calls, call.Fits) :
    t.run? calls = .ok (t.run calls) :=
  (Run.create h₀).run?_eq hc (fun _ hf => absurd hf List.not_mem_nil) hcalls

theorem calls_never_overflow_vga :
    ∃ t, Tracker.create {} {} = .ok t ∧
      t.run? [.update [] 640 480 0, .take, .update [] 1920 1080 40] =
        .ok (t.run [.update [] 640 480 0, .take, .update [] 1920 1080 40]) :=
  ⟨_, rfl, calls_never_overflow TrackingConfig.default_bounded rfl (by decide)⟩

end Tracker

end FaceFraming
