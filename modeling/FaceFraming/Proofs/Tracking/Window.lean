import FaceFraming.Proofs.Tracking.Run

/-!
# What the smoothing window holds

The window of the tracker's smoother is only ever restarted and pushed by frames the smoother
accepts. This module reads its contents off the frames recorded along a run (`Tracker.Run`):

* `Shown.selected h` is the face count of the newest accepted frame, and `Shown.sinceRestart h` the
  accepted frames since the window last restarted, newest first; an accepted frame restarts it when
  faces appear after a selected count of zero, or vanish after a positive one;
* the window holds the crops of the newest of these frames, at most its capacity of them, oldest
  first (`Shown.windowed`), each the crop around the face the frame framed, for the frame's own size,
  and the smoother's selected count is `Shown.selected h` (`Run.windowOf`, from one step lemma per
  call and `take_reverse_push`, which says what a push does to such a list).

Two consequences follow. The frames behind the window are all of one kind, with faces or without,
and without exactly when the selected count is zero, so a target averaged from the window averages
faces only (`Run.window_kinds`). Every crop of the window was computed for the size of the frame
that pushed it (`Run.window_sizes`); a change of frame size does not restart the window, so crops
of the old size stay in it until a restart or enough newer crops push them out, and only when the
frames recorded all have one size are the crops averaged all for that size.
-/

namespace FaceFraming

/-- What a push does to the newest `cap` entries of a list, kept oldest first and read through
`g`: when `cap` are kept the oldest goes, and the new one comes last. -/
theorem take_reverse_push {α β : Type} (g : α → β) (L : List α) (a : α) {cap : Nat}
    (hcap : 0 < cap) :
    (if ((L.take cap).reverse.map g).length = cap then ((L.take cap).reverse.map g).drop 1
      else (L.take cap).reverse.map g) ++ [g a] = ((a :: L).take cap).reverse.map g := by
  obtain ⟨k, rfl⟩ : ∃ k, cap = k + 1 := ⟨cap - 1, by omega⟩
  rw [List.take_succ_cons, List.reverse_cons, List.take_add_one, List.reverse_append,
    List.map_append, List.map_append]
  rcases hk : L[k]? with _ | x
  · -- at most `k` entries: none goes
    have hlen : L.length ≤ k := List.getElem?_eq_none_iff.mp hk
    simp only [Option.toList_none, List.reverse_nil, List.nil_append, List.length_map,
      List.length_reverse, List.length_take, List.map_cons, List.map_nil]
    rw [if_neg (by omega)]
  · -- `k + 1` entries: the oldest goes
    have hlen : k < L.length := (List.getElem?_eq_some_iff.mp hk).1
    simp only [Option.toList_some, List.reverse_singleton, List.singleton_append, List.map_cons,
      List.length_cons, List.length_map, List.length_reverse, List.length_take, List.drop_one,
      List.tail_cons, List.map_nil]
    rw [if_pos (by omega)]

namespace Shown

/-- The face count of the newest accepted frame; zero before any. -/
def selected : List Shown → Nat
  | [] => 0
  | f :: h => if f.accepted then f.faces.length else selected h

/-- The accepted frames since the window last restarted, newest first, the restarting frame
included: an accepted frame restarts the window when faces appear after a selected count of zero,
or vanish after a positive one. -/
def sinceRestart : List Shown → List Shown
  | [] => []
  | f :: h =>
    if f.accepted then
      if (selected h == 0) == f.faces.isEmpty then f :: sinceRestart h else [f]
    else sinceRestart h

/-- The frames whose crops a window of capacity `cap` holds, oldest first: the newest `cap` accepted
frames since the window last restarted. -/
def windowed (cap : Nat) (h : List Shown) : List Shown :=
  ((sinceRestart h).take cap).reverse

/-- The frames since the last restart are accepted frames of the history. -/
theorem mem_sinceRestart {h : List Shown} {f : Shown} (hf : f ∈ sinceRestart h) :
    f ∈ h ∧ f.accepted = true := by
  induction h with
  | nil => simp [sinceRestart] at hf
  | cons g h ih =>
    unfold sinceRestart at hf
    split_ifs at hf with hacc hkind
    · rcases List.mem_cons.mp hf with rfl | hf
      · exact ⟨List.mem_cons_self, hacc⟩
      · exact ⟨List.mem_cons_of_mem g (ih hf).1, (ih hf).2⟩
    · rw [List.mem_singleton.mp hf]
      exact ⟨List.mem_cons_self, hacc⟩
    · exact ⟨List.mem_cons_of_mem g (ih hf).1, (ih hf).2⟩

/-- The frames since the last restart are all of one kind: without faces exactly when the selected
count is zero. -/
theorem sinceRestart_kind {h : List Shown} {f : Shown} (hf : f ∈ sinceRestart h) :
    f.faces.isEmpty = (selected h == 0) := by
  induction h with
  | nil => simp [sinceRestart] at hf
  | cons g h ih =>
    unfold sinceRestart at hf
    -- an accepted frame's own count becomes the selected one
    have hown : g.faces.isEmpty = (g.faces.length == 0) := by
      cases g.faces <;> rfl
    split_ifs at hf with hacc hkind
    · rcases List.mem_cons.mp hf with rfl | hf
      · simp [selected, hacc, hown]
      · rw [ih hf, selected, if_pos hacc, ← hown]
        exact beq_iff_eq.mp hkind
    · rw [List.mem_singleton.mp hf]
      simp [selected, hacc, hown]
    · rw [ih hf, selected, if_neg hacc]

theorem sinceRestart_of_keep {f : Shown} {h : List Shown} (hacc : f.accepted = true)
    (hkind : (selected h == 0) == f.faces.isEmpty) : sinceRestart (f :: h) = f :: sinceRestart h := by
  rw [sinceRestart, if_pos hacc, if_pos hkind]

theorem sinceRestart_of_restart {f : Shown} {h : List Shown} (hacc : f.accepted = true)
    (hkind : ((selected h == 0) == f.faces.isEmpty) = false) : sinceRestart (f :: h) = [f] := by
  rw [sinceRestart, if_pos hacc, if_neg (by simp [hkind])]

theorem sinceRestart_of_refused {f : Shown} {h : List Shown} (hacc : f.accepted = false) :
    sinceRestart (f :: h) = sinceRestart h := by
  rw [sinceRestart, if_neg (by simp [hacc])]

theorem selected_of_accepted {f : Shown} {h : List Shown} (hacc : f.accepted = true) :
    selected (f :: h) = f.faces.length := by
  rw [selected, if_pos hacc]

theorem selected_of_refused {f : Shown} {h : List Shown} (hacc : f.accepted = false) :
    selected (f :: h) = selected h := by
  rw [selected, if_neg (by simp [hacc])]

theorem mem_windowed {cap : Nat} {h : List Shown} {f : Shown} (hf : f ∈ windowed cap h) :
    f ∈ sinceRestart h :=
  List.mem_of_mem_take (List.mem_reverse.mp hf)

end Shown

namespace CropWindow

@[simp] theorem push_capacity (w : CropWindow) (crop : Crop) : (w.push crop).capacity = w.capacity :=
  rfl

@[simp] theorem clear_capacity (w : CropWindow) : w.clear.capacity = w.capacity := rfl

end CropWindow

namespace Smoother

variable (s : Smoother) (c : Nat)

@[simp] theorem adaptLeap_window (fps : Option Float) : (s.adaptLeap fps).window = s.window := by
  cases fps <;> rfl

@[simp] theorem adaptLeap_selectedCount (fps : Option Float) :
    (s.adaptLeap fps).selectedCount = s.selectedCount := by
  cases fps <;> rfl

@[simp] theorem needsUpdate_window : (s.needsUpdate c).2.window = s.window := by
  unfold needsUpdate
  dsimp only
  split_ifs <;> rfl

@[simp] theorem push_window (crop : Crop) : (s.push crop).window = s.window.push crop := rfl

@[simp] theorem push_selectedCount (crop : Crop) : (s.push crop).selectedCount = s.selectedCount :=
  rfl

@[simp] theorem clearWindow_window : s.clearWindow.window = s.window.clear := rfl

@[simp] theorem clearWindow_selectedCount : s.clearWindow.selectedCount = s.selectedCount := rfl

end Smoother

namespace Tracker

variable {cfg : TrackingConfig} {sw : Switches} {t t₁ : Tracker} {h : List Shown}

/-- Without faces nothing is tracked. -/
theorem select_of_nil (hf : t.faces = []) : t.select = none := by
  simp [select, hf]

@[simp] theorem shown_crop (t : Tracker) (width height : Nat) :
    (t.shown width height).crop = Crop.around (t.select.getD (FaceBox.wholeFrame width height))
      width height := rfl

@[simp] theorem shown_accepted (t : Tracker) (width height : Nat) :
    (t.shown width height).accepted = (t.smoother.needsUpdate t.faces.length).1 := rfl

@[simp] theorem shown_faces (t : Tracker) (width height : Nat) :
    (t.shown width height).faces = t.faces := rfl

/-- The window of a smoother holds the crops of the newest accepted frames since it last restarted,
at most its capacity of them, oldest first, and the selected count is that of the newest accepted
frame. -/
structure WindowOf (cfg : TrackingConfig) (s : Smoother) (h : List Shown) : Prop where
  capacity : s.window.capacity = max cfg.smoothingCapacity 1
  crops : s.window.crops = (Shown.windowed (max cfg.smoothingCapacity 1) h).map Shown.crop
  selected : s.selectedCount = Shown.selected h

/-- A recorded frame: refused, it leaves the window; accepted, it restarts the window or pushes out
its oldest crop once full, and adds its own. -/
theorem WindowOf.frame {p : Planner} {document : List UInt8} {width height ms : Nat}
    (hw : WindowOf cfg t.smoother h) (hp : t.plannerFor width height = some (p, t₁)) :
    WindowOf cfg (t.update document width height ms).smoother
      ((t₁.readFrame (p.recordFrame ms) document).shown width height :: h) := by
  have hs₁ : t₁.smoother = t.smoother := (plannerFor_keeps hp).2.2
  rw [update_of_plannerFor hp]
  set t₂ := t₁.readFrame (p.recordFrame ms) document
  have hwin : t₂.smoother.window = t.smoother.window := by simp [t₂, hs₁]
  have hsel : t₂.smoother.selectedCount = Shown.selected h := by simp [t₂, hs₁, hw.selected]
  have hcap : 0 < max cfg.smoothingCapacity 1 := by omega
  rw [planFrame_smoother, retarget_smoother]
  by_cases hacc : (t₂.smoother.needsUpdate t₂.faces.length).1
  · -- accepted: the frame's count is selected and its crop pushed
    have hsel' : (t₂.smoother.needsUpdate t₂.faces.length).2.selectedCount =
        Shown.selected (t₂.shown width height :: h) := by
      rw [Smoother.needsUpdate_selectedCount, if_pos hacc, Shown.selected_of_accepted hacc]
      rfl
    rw [if_pos hacc]
    by_cases hkind : (Shown.selected h == 0) == t₂.faces.isEmpty
    · -- the same kind: the window goes on
      rw [if_pos (hsel ▸ hkind)]
      refine ⟨by simpa [hwin] using hw.capacity, ?_, hsel'⟩
      have hpush := take_reverse_push Shown.crop (Shown.sinceRestart h) (t₂.shown width height) hcap
      rw [← Shown.sinceRestart_of_keep hacc hkind] at hpush
      simp only [Smoother.push_window, CropWindow.crops_push, Smoother.needsUpdate_window, hwin,
        hw.crops, hw.capacity, List.length_map, Shown.windowed, ← List.map_drop]
      simpa using hpush
    · -- faces appeared or vanished: the window restarts with this frame
      have hkind' : ((Shown.selected h == 0) == t₂.faces.isEmpty) = false := by simpa using hkind
      rw [if_neg (hsel ▸ hkind)]
      refine ⟨by simpa [hwin] using hw.capacity, ?_, hsel'⟩
      rw [Shown.windowed, Shown.sinceRestart_of_restart hacc hkind',
        List.take_of_length_le (by simp)]
      simp [CropWindow.crops_push, CropWindow.clear]
  · -- refused: nothing changes but the counters
    have hrefused : (t₂.shown width height).accepted = false := by simpa using hacc
    rw [if_neg hacc]
    refine ⟨by simpa [hwin] using hw.capacity, ?_, ?_⟩
    · rw [Smoother.needsUpdate_window, hwin, hw.crops, Shown.windowed, Shown.windowed,
        Shown.sinceRestart_of_refused hrefused]
    · rw [Smoother.needsUpdate_selectedCount, if_neg hacc, hsel, Shown.selected_of_refused hrefused]

/-- Along every run, the window holds the crops of the newest accepted frames since it last
restarted, and the selected count is that of the newest accepted frame. -/
theorem Run.windowOf (hr : Run cfg sw t h) : WindowOf cfg t.smoother h := by
  induction hr with
  | create hc =>
    obtain ⟨-, rfl⟩ := create_eq hc
    exact ⟨rfl, by simp [Smoother.create, CropWindow.create, Shown.windowed, Shown.sinceRestart], rfl⟩
  | frame document width height ms hp _ ih => exact ih.frame hp
  | skip document width height ms hz _ ih =>
    rw [update_of_zero hz]
    exact ih
  | take _ ih => simpa using ih

/-- A recorded frame without faces frames the whole frame. -/
theorem Run.face_of_nil (hr : Run cfg sw t h) :
    ∀ f ∈ h, f.faces = [] → f.face = FaceBox.wholeFrame f.width f.height := by
  induction hr with
  | create => simp
  | @frame t t₁ p h document width height ms hp _ ih =>
    intro f hf hnil
    rcases List.mem_cons.mp hf with rfl | hf
    · simp only [shown] at hnil ⊢
      rw [select_of_nil hnil]
      rfl
    · exact ih f hf hnil
  | skip document width height ms hz _ ih => exact ih
  | take _ ih => exact ih

/-- Along every run the window holds the crops of accepted frames of the run, the newest since it
last restarted (at most its capacity of them, oldest first); these frames are all of one kind,
either all without faces, each then framing the whole frame, or all with faces, and without
exactly when the selected count is zero. So when the newest frame revised the target with faces
in view, every crop averaged for it was pushed by a frame with faces. -/
theorem Run.window_kinds (hr : Run cfg sw t h) :
    t.smoother.window.crops = (Shown.windowed (max cfg.smoothingCapacity 1) h).map Shown.crop ∧
      (∀ f ∈ Shown.windowed (max cfg.smoothingCapacity 1) h, f ∈ h ∧ f.accepted = true ∧
        (f.faces = [] ↔ t.smoother.selectedCount = 0) ∧
        (f.faces = [] → f.face = FaceBox.wholeFrame f.width f.height)) ∧
      ∀ f h', h = f :: h' → f.accepted = true → f.faces ≠ [] →
        ∀ g ∈ Shown.windowed (max cfg.smoothingCapacity 1) h, g.faces ≠ [] := by
  have hw := hr.windowOf
  -- each frame behind the window has the kind the selected count gives
  have hkind : ∀ f ∈ Shown.windowed (max cfg.smoothingCapacity 1) h,
      (f.faces = [] ↔ t.smoother.selectedCount = 0) := by
    intro f hf
    have := Shown.sinceRestart_kind (Shown.mem_windowed hf)
    rw [hw.selected, ← List.isEmpty_iff, this, beq_iff_eq]
  refine ⟨hw.crops, fun f hf => ?_, ?_⟩
  · obtain ⟨hmem, hacc⟩ := Shown.mem_sinceRestart (Shown.mem_windowed hf)
    exact ⟨hmem, hacc, hkind f hf, hr.face_of_nil f hmem⟩
  · rintro f h' rfl hacc hfaces g hg hnil
    have hsel : t.smoother.selectedCount = f.faces.length := by
      rw [hw.selected, Shown.selected, if_pos hacc]
    have hzero := (hkind g hg).mp hnil
    rw [hsel, List.length_eq_zero_iff] at hzero
    exact hfaces hzero

/-- A tracker deciding on every frame, asking a new face count to hold for one frame more, shown
two 640×480 frames without faces and then three with one face. The first frame with the face is
refused; the second is accepted and restarts the window, so only crops around the face remain. -/
theorem window_kinds_after_empty :
    ∃ (cfg : TrackingConfig) (empty doc : List UInt8) (t₀ t : Tracker) (h : List Shown),
      cfg = { leap := 1, decisionThreshold := 1 } ∧
      empty = "\x7b\"faces\":[]\x7d".toUTF8.toList ∧
      doc = "\x7b\"faces\":[[90,160,120,100,100]]\x7d".toUTF8.toList ∧
      Tracker.create cfg {} = .ok t₀ ∧
      t₀.run ([0, 33].map (fun ms => .update empty 640 480 ms) ++
        [66, 100, 133].map (fun ms => .update doc 640 480 ms)) = t ∧
      Run cfg {} t h ∧
      h.map (fun f => (f.faces.length, f.accepted)) =
        [(1, true), (1, true), (1, false), (0, true), (0, true)] ∧
      t.smoother.window.crops = [⟨120, 260, 160, 380⟩, ⟨120, 260, 160, 380⟩] ∧
      t.smoother.selectedCount = 1 ∧
      (t.smoother.window.crops = (Shown.windowed (max cfg.smoothingCapacity 1) h).map Shown.crop ∧
        (∀ f ∈ Shown.windowed (max cfg.smoothingCapacity 1) h, f ∈ h ∧ f.accepted = true ∧
          (f.faces = [] ↔ t.smoother.selectedCount = 0) ∧
          (f.faces = [] → f.face = FaceBox.wholeFrame f.width f.height)) ∧
        ∀ f h', h = f :: h' → f.accepted = true → f.faces ≠ [] →
          ∀ g ∈ Shown.windowed (max cfg.smoothingCapacity 1) h, g.faces ≠ []) := by
  refine ⟨_, _, _, _, _, _, rfl, rfl, rfl, rfl, rfl, (Run.create rfl).run_recorded _, ?_⟩
  exact ⟨by decide +kernel, by decide +kernel, by decide +kernel,
    Run.window_kinds ((Run.create rfl).run_recorded _)⟩

/-- When the newest recorded frame revised the target with faces in view, the target is the window's
average, aimed in a frame of that frame's size. -/
theorem Run.target_of_accepted (hr : Run cfg sw t h) :
    ∀ f h', h = f :: h' → f.accepted = true → f.faces ≠ [] →
      t.target = Target.ofCrop? t.smoother.average f.width f.height := by
  induction hr with
  | create => simp
  | @frame t t₁ p h document width height ms hp _ _ =>
    rintro f h' hh hacc hfaces
    obtain ⟨rfl, -⟩ := List.cons.inj hh
    set t₂ := t₁.readFrame (p.recordFrame ms) document
    have hacc' : (t₂.smoother.needsUpdate t₂.faces.length).1 = true := hacc
    have hne : t₂.faces.isEmpty = false := List.isEmpty_eq_false_iff.mpr hfaces
    rw [update_of_plannerFor hp, planFrame_target, planFrame_smoother, retarget_target,
      if_pos hacc', if_neg (ne_true_of_eq_false hne)]
    rfl
  | skip document width height ms hz _ ih =>
    rw [update_of_zero hz]
    exact ih
  | take _ ih => simpa using ih

/-- Along every run, each crop of the window is the crop around the face that an accepted frame of
the run framed, computed for that frame's own size, and when the newest frame revised the target
with faces in view the target is the window's average aimed in a frame of that frame's size. So
when every frame recorded has one size, every crop averaged into a target was computed for that
size; a change of size in between does not restart the window. -/
theorem Run.window_sizes (hr : Run cfg sw t h) :
    t.smoother.window.crops = (Shown.windowed (max cfg.smoothingCapacity 1) h).map
        (fun f => Crop.around f.face f.width f.height) ∧
      (∀ f ∈ Shown.windowed (max cfg.smoothingCapacity 1) h, f ∈ h ∧ f.accepted = true) ∧
      (∀ f h', h = f :: h' → f.accepted = true → f.faces ≠ [] →
        t.target = Target.ofCrop? t.smoother.average f.width f.height) ∧
      ∀ W H, (∀ f ∈ h, f.width = W ∧ f.height = H) →
        ∀ f ∈ Shown.windowed (max cfg.smoothingCapacity 1) h, f.width = W ∧ f.height = H := by
  have hmem : ∀ f ∈ Shown.windowed (max cfg.smoothingCapacity 1) h, f ∈ h ∧ f.accepted = true :=
    fun f hf => Shown.mem_sinceRestart (Shown.mem_windowed hf)
  exact ⟨hr.windowOf.crops, hmem, hr.target_of_accepted, fun W H hsize f hf => hsize f (hmem f hf).1⟩

/-- A tracker deciding on every frame and accepting every face count at once, shown one face on a
640×480 frame and then on a 1280×720 frame. The change of size does not restart the window: the
second target averages the crop around the face in the small frame with the one in the large
frame, each computed for its own frame's size. -/
theorem window_sizes_resized :
    ∃ (cfg : TrackingConfig) (doc : List UInt8) (t₀ t : Tracker) (h : List Shown),
      cfg = { leap := 1, decisionThreshold := 0 } ∧
      doc = "\x7b\"faces\":[[90,160,120,100,100]]\x7d".toUTF8.toList ∧
      Tracker.create cfg {} = .ok t₀ ∧
      t₀.run [.update doc 640 480 0, .update doc 1280 720 33] = t ∧
      Run cfg {} t h ∧
      h.map (fun f => (f.width, f.height, f.accepted)) = [(1280, 720, true), (640, 480, true)] ∧
      t.smoother.window.crops = [⟨120, 260, 160, 380⟩, ⟨120, 500, 160, 1020⟩] ∧
      t.target = some ⟨⟨370, 230⟩, 420, 220⟩ ∧
      (t.smoother.window.crops = (Shown.windowed (max cfg.smoothingCapacity 1) h).map
          (fun f => Crop.around f.face f.width f.height) ∧
        (∀ f ∈ Shown.windowed (max cfg.smoothingCapacity 1) h, f ∈ h ∧ f.accepted = true) ∧
        (∀ f h', h = f :: h' → f.accepted = true → f.faces ≠ [] →
          t.target = Target.ofCrop? t.smoother.average f.width f.height) ∧
        ∀ W H, (∀ f ∈ h, f.width = W ∧ f.height = H) →
          ∀ f ∈ Shown.windowed (max cfg.smoothingCapacity 1) h, f.width = W ∧ f.height = H) := by
  refine ⟨_, _, _, _, _, rfl, rfl, rfl, rfl, (Run.create rfl).run_recorded _, ?_⟩
  exact ⟨by decide +kernel, by decide +kernel, by decide +kernel,
    Run.window_sizes ((Run.create rfl).run_recorded _)⟩

end Tracker

end FaceFraming
