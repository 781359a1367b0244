import FaceFraming.Smoothing.Smoother
import Mathlib.Tactic.SplitIfs

/-!
# The update gate of the smoother, read off the history of frames

`Smoother.needsUpdate` keeps three counters: the frames since the last decision, the count of the
previous frame and how long that count has held. This module says what they amount to, as a rule
on the history of the frames the smoother has been shown (`GateFrame`, newest first):

* a frame is a *decision frame* when the frames since the previous decision frame, itself
  included, reach the leap in force (`GateFrame.isDecision`);
* a decision frame is accepted when its count is the selected one, or when it was the count of each
  of the last `decisionThreshold + 1` frames (`GateFrame.accepts`);
* the selected count is the count of the newest accepted frame, zero before any
  (`GateFrame.selected`).

`Smoother.Run c s h` says that some sequence of calls (updates, leap changes, pushes and clears)
takes the smoother created for `c` to `s` and shows it the frames `h`. `Run.tracks` proves, one
call at a time, that the counters of `s` are functions of `h` (`Tracks`); `Run.gate_rule` then gives
every answer of `needsUpdate` by the rule. The rule's consequences are proved of any history it
records (`Recorded`): with one leap `L` throughout, the decision frames are the `L`-th, `2L`-th, ...
(`Recorded.decided_iff_dvd`), and a count is selected only once it has held for
`decisionThreshold + 1` frames (`Recorded.selected_held`).

What the counter of held frames stands for is the streak of the previous count, less one and
saturated at the 32-bit limit (`Tracks.stable`), but only while the previous count is not the
selected one. Accepting resets the counter while the count goes on, and the first frame meets a
previous count of zero that no frame had; both happen only while the previous count is the
selected one, where a frame is accepted without reading the counter.
-/

namespace FaceFraming

/-- A frame as the update gate saw it. -/
structure GateFrame where
  /-- The face count shown. -/
  count : Nat
  /-- The leap in force. -/
  leap : Nat
  /-- Whether it was a decision frame. -/
  decided : Bool
  /-- Whether the update was accepted. -/
  accepted : Bool
  deriving Repr, DecidableEq

namespace GateFrame

/-! ### The rule, on the history of frames -/

/-- How many of the newest counts, in a row, are `c`. -/
def streak (c : Nat) : List Nat → Nat
  | [] => 0
  | x :: r => if x = c then streak c r + 1 else 0

/-- `c` was each of the last `n` counts. -/
def HeldFor (n c : Nat) (counts : List Nat) : Prop :=
  counts.take n = List.replicate n c

instance (n c : Nat) (counts : List Nat) : Decidable (HeldFor n c counts) :=
  inferInstanceAs (Decidable (_ = _))

/-- The frames shown since the newest decision frame. -/
def sinceDecision : List GateFrame → Nat
  | [] => 0
  | f :: h => if f.decided then 0 else sinceDecision h + 1

/-- The count of the newest accepted frame; zero before any. -/
def selected : List GateFrame → Nat
  | [] => 0
  | f :: h => if f.accepted then f.count else selected h

/-- A frame shown under the leap `L` after the frames `h` is a decision frame when the frames since
the newest decision frame, itself included, reach `L`. -/
def isDecision (L : Nat) (h : List GateFrame) : Bool :=
  decide (L ≤ sinceDecision h + 1)

/-- With the threshold `T`, a frame of count `c` shown under the leap `L` after the frames `h` is
accepted when it is a decision frame and its count is the selected one or was the count of each of
the last `T + 1` frames. -/
def accepts (T L c : Nat) (h : List GateFrame) : Bool :=
  isDecision L h && decide (c = selected h ∨ HeldFor (T + 1) c (c :: h.map count))

/-- A history as the gate records it with the threshold `T`: each frame shown under a positive leap,
and decided and answered by the rule given the frames before it. -/
def Recorded (T : Nat) : List GateFrame → Prop
  | [] => True
  | f :: h => 0 < f.leap ∧ f.decided = isDecision f.leap h ∧
      f.accepted = accepts T f.leap f.count h ∧ Recorded T h

@[simp] theorem streak_nil (c : Nat) : streak c [] = 0 := rfl

@[simp] theorem streak_cons (c x : Nat) (r : List Nat) :
    streak c (x :: r) = if x = c then streak c r + 1 else 0 := rfl

@[simp] theorem sinceDecision_cons (f : GateFrame) (h : List GateFrame) :
    sinceDecision (f :: h) = if f.decided then 0 else sinceDecision h + 1 := rfl

@[simp] theorem selected_cons (f : GateFrame) (h : List GateFrame) :
    selected (f :: h) = if f.accepted then f.count else selected h := rfl

/-- The last `n` counts are all `c` exactly when the streak of `c` is at least `n`. -/
theorem heldFor_iff_le_streak {n c : Nat} {counts : List Nat} :
    HeldFor n c counts ↔ n ≤ streak c counts := by
  induction counts generalizing n with
  | nil => cases n <;> simp [HeldFor]
  | cons x r ih =>
    cases n with
    | zero => simp [HeldFor]
    | succ n =>
      have step : HeldFor (n + 1) c (x :: r) ↔ x = c ∧ HeldFor n c r := by
        simp [HeldFor, List.replicate_succ]
      rw [step, ih]
      by_cases hx : x = c <;> simp [hx]

/-- A frame's own count starts its streak, so it has held for `n + 1` frames exactly when it held
for `n` frames before. -/
theorem heldFor_succ_cons_iff {n c : Nat} {counts : List Nat} :
    HeldFor (n + 1) c (c :: counts) ↔ n ≤ streak c counts := by
  simp [heldFor_iff_le_streak]

/-! ### What the rule implies of a recorded history -/

/-- One more frame advances the count since the last decision modulo the leap, passing the leap
at zero. -/
theorem succ_mod_eq {L : Nat} (hL : 0 < L) (n : Nat) :
    (n + 1) % L = if L ≤ n % L + 1 then 0 else n % L + 1 := by
  have hlt : n % L < L := Nat.mod_lt n hL
  rw [← Nat.mod_add_mod]
  split_ifs with hle
  · have heq : n % L + 1 = L := by omega
    rw [heq, Nat.mod_self]
  · exact Nat.mod_eq_of_lt (by omega)

variable {T : Nat} {h : List GateFrame}

theorem Recorded.append_right {h₁ : List GateFrame} (hr : Recorded T (h₁ ++ h)) : Recorded T h := by
  induction h₁ with
  | nil => exact hr
  | cons f h₁ ih => exact ih hr.2.2.2

/-- Only decision frames are accepted. -/
theorem Recorded.decided_of_accepted (hr : Recorded T h) :
    ∀ f ∈ h, f.accepted = true → f.decided = true := by
  induction h with
  | nil => simp
  | cons f h ih =>
    obtain ⟨-, hdec, hacc, hrest⟩ := hr
    intro g hg hg_acc
    rcases List.mem_cons.mp hg with rfl | hg
    · rw [hacc, accepts, Bool.and_eq_true] at hg_acc
      rw [hdec]
      exact hg_acc.1
    · exact ih hrest g hg hg_acc

/-- Under one leap `L`, the frames since the last decision are the frames shown, modulo `L`. -/
theorem Recorded.sinceDecision_eq_mod {L : Nat} (hr : Recorded T h) (hL : ∀ f ∈ h, f.leap = L) :
    sinceDecision h = h.length % L := by
  induction h with
  | nil => simp [sinceDecision]
  | cons f h ih =>
    obtain ⟨hpos, hdec, -, hrest⟩ := hr
    have hfL : f.leap = L := hL f List.mem_cons_self
    have hmod := ih hrest (fun g hg => hL g (List.mem_cons_of_mem f hg))
    rw [sinceDecision_cons, hdec, isDecision, hfL, hmod, List.length_cons,
      succ_mod_eq (hfL ▸ hpos)]
    simp

/-- Under one leap `L`, the decision frames are the `L`-th, the `2L`-th, and so on. -/
theorem Recorded.decided_iff_dvd {L : Nat} (hr : Recorded T h) (hL : ∀ f ∈ h, f.leap = L)
    {h₁ h₂ : List GateFrame} {f : GateFrame} (hsplit : h = h₁ ++ f :: h₂) :
    f.decided = true ↔ L ∣ h₂.length + 1 := by
  subst hsplit
  obtain ⟨hpos, hdec, -, hrest⟩ := (Recorded.append_right hr : Recorded T (f :: h₂))
  have hfL : f.leap = L := hL f (by simp)
  have hmod := hrest.sinceDecision_eq_mod (fun g hg => hL g (by simp [hg]))
  rw [hdec, isDecision, hfL, hmod, Nat.dvd_iff_mod_eq_zero, succ_mod_eq (hfL ▸ hpos)]
  split_ifs with hle <;> simp [hle]

/-- A selected count other than the first zero has held for `T + 1` frames in a row. -/
theorem Recorded.selected_held (hr : Recorded T h) :
    selected h = 0 ∨ ∃ k, HeldFor (T + 1) (selected h) ((h.drop k).map count) := by
  induction h with
  | nil => exact Or.inl rfl
  | cons f h ih =>
    obtain ⟨-, -, hacc, hrest⟩ := hr
    -- an earlier streak is found again one frame further back
    have later : selected h = 0 ∨ ∃ k, HeldFor (T + 1) (selected h) (((f :: h).drop k).map count) := by
      rcases ih hrest with h0 | ⟨k, hk⟩
      · exact Or.inl h0
      · exact Or.inr ⟨k + 1, hk⟩
    rw [selected_cons]
    cases hf : f.accepted with
    | false => exact later
    | true =>
      rw [hf, eq_comm, accepts, Bool.and_eq_true, decide_eq_true_iff] at hacc
      rcases hacc.2 with hsel | hheld
      · simpa only [if_true, hsel] using later
      · exact Or.inr ⟨0, by simpa using hheld⟩

end GateFrame

namespace Smoother

/-! ### What `needsUpdate` does to each counter -/

/-- The frames the current count has held once a frame of count `c` is counted, before any
decision resets it. -/
def counted (s : Smoother) (c : Nat) : Nat :=
  if c = s.previousCount then min (s.stableFrames + 1) Word.u32Max else 0

variable (s : Smoother) (c : Nat)

/-- The answer: on a decision frame, yes for the selected count or for one that has held long
enough. -/
theorem needsUpdate_fst :
    (s.needsUpdate c).1 = (decide (s.leap ≤ s.sinceDecision + 1) &&
      (decide (c = s.selectedCount) || decide (s.decisionThreshold ≤ s.counted c))) := by
  unfold needsUpdate counted
  dsimp only
  split_ifs <;> grind

/-- The selected count changes only on a yes, and then to the count shown. -/
theorem needsUpdate_selectedCount :
    (s.needsUpdate c).2.selectedCount = if (s.needsUpdate c).1 then c else s.selectedCount := by
  unfold needsUpdate
  dsimp only
  split_ifs <;> simp_all

theorem needsUpdate_stableFrames :
    (s.needsUpdate c).2.stableFrames = if (s.needsUpdate c).1 then 0 else s.counted c := by
  unfold needsUpdate counted
  dsimp only
  split_ifs <;> simp_all

@[simp] theorem needsUpdate_previousCount : (s.needsUpdate c).2.previousCount = c := by
  unfold needsUpdate
  dsimp only
  split_ifs <;> simp_all

@[simp] theorem needsUpdate_sinceDecision :
    (s.needsUpdate c).2.sinceDecision =
      if s.leap ≤ s.sinceDecision + 1 then 0 else s.sinceDecision + 1 := by
  unfold needsUpdate
  dsimp only
  split_ifs <;> simp_all <;> omega

/-- An update keeps the leaps and the threshold. -/
theorem needsUpdate_keeps :
    (s.needsUpdate c).2.leap = s.leap ∧ (s.needsUpdate c).2.baseLeap = s.baseLeap ∧
      (s.needsUpdate c).2.lowLeap = s.lowLeap ∧
      (s.needsUpdate c).2.decisionThreshold = s.decisionThreshold := by
  unfold needsUpdate
  dsimp only
  split_ifs <;> exact ⟨rfl, rfl, rfl, rfl⟩

@[simp] theorem needsUpdate_leap : (s.needsUpdate c).2.leap = s.leap :=
  (needsUpdate_keeps s c).1

@[simp] theorem needsUpdate_baseLeap : (s.needsUpdate c).2.baseLeap = s.baseLeap :=
  (needsUpdate_keeps s c).2.1

@[simp] theorem needsUpdate_lowLeap : (s.needsUpdate c).2.lowLeap = s.lowLeap :=
  (needsUpdate_keeps s c).2.2.1

@[simp] theorem needsUpdate_decisionThreshold :
    (s.needsUpdate c).2.decisionThreshold = s.decisionThreshold :=
  (needsUpdate_keeps s c).2.2.2

/-! ### Runs of calls and the frames they show -/

/-- The frame the gate records for `needsUpdate s c` shown after the frames `h`. -/
def gateFrame (h : List GateFrame) : GateFrame :=
  ⟨c, s.leap, GateFrame.isDecision s.leap h, (s.needsUpdate c).1⟩

@[simp] theorem gateFrame_count (h : List GateFrame) : (s.gateFrame c h).count = c := rfl

@[simp] theorem gateFrame_leap (h : List GateFrame) : (s.gateFrame c h).leap = s.leap := rfl

@[simp] theorem gateFrame_decided (h : List GateFrame) :
    (s.gateFrame c h).decided = GateFrame.isDecision s.leap h := rfl

@[simp] theorem gateFrame_accepted (h : List GateFrame) :
    (s.gateFrame c h).accepted = (s.needsUpdate c).1 := rfl

/-- The smoothers that some sequence of calls makes of the one created for `cfg`, with the frames
shown on the way, newest first. -/
inductive Run (cfg : TrackingConfig) : Smoother → List GateFrame → Prop
  /-- The smoother just created, shown nothing. -/
  | create : Run cfg (create cfg) []
  /-- A frame of count `c`, with the answer given. -/
  | needsUpdate {s : Smoother} {h : List GateFrame} (c : Nat) :
      Run cfg s h → Run cfg (s.needsUpdate c).2 (s.gateFrame c h :: h)
  /-- A measured rate, or none. -/
  | adaptLeap {s : Smoother} {h : List GateFrame} (fps : Option Float) :
      Run cfg s h → Run cfg (s.adaptLeap fps) h
  /-- A crop added to the window. -/
  | push {s : Smoother} {h : List GateFrame} (crop : Crop) : Run cfg s h → Run cfg (s.push crop) h
  /-- The window emptied. -/
  | clearWindow {s : Smoother} {h : List GateFrame} : Run cfg s h → Run cfg s.clearWindow h

/-- What the counters of a smoother amount to once it has been shown the frames `h`. -/
structure Tracks (cfg : TrackingConfig) (s : Smoother) (h : List GateFrame) : Prop where
  threshold : s.decisionThreshold = cfg.decisionThreshold
  leap_pos : 0 < s.baseLeap ∧ 0 < s.lowLeap ∧ 0 < s.leap
  since : s.sinceDecision = GateFrame.sinceDecision h
  selected : s.selectedCount = GateFrame.selected h
  previous : s.previousCount = (h.map GateFrame.count).headD 0
  stable : s.selectedCount ≠ s.previousCount →
    s.stableFrames = min (GateFrame.streak s.previousCount (h.map GateFrame.count) - 1) Word.u32Max

variable {cfg : TrackingConfig} {s} {h : List GateFrame}

/-- Unless the count is the selected one, counting it gives its streak among the frames before,
saturated: the one step where the phantom first frame and the reset on accepting must be excluded. -/
theorem Tracks.counted (ht : Tracks cfg s h) (hc : s.selectedCount ≠ c) :
    s.counted c = min (GateFrame.streak c (h.map GateFrame.count)) Word.u32Max := by
  unfold Smoother.counted
  split_ifs with hp
  · -- the count goes on, and it is not the selected one, so at least one frame was shown
    subst hp
    cases h with
    | nil =>
      have hsel : s.selectedCount = 0 := ht.selected
      have hprev : s.previousCount = 0 := ht.previous
      exact absurd (hsel.trans hprev.symm) hc
    | cons f h =>
      have hf : f.count = s.previousCount := by simpa using ht.previous.symm
      rw [ht.stable hc]
      simp only [List.map_cons, GateFrame.streak_cons, hf, if_true]
      omega
  · -- a new count: the newest earlier frame had the previous count, so the streak is empty
    cases h with
    | nil => simp
    | cons f h =>
      have hf : f.count ≠ c := by
        have : f.count = s.previousCount := by simpa using ht.previous.symm
        omega
      simp [hf]

/-- The answer of `needsUpdate` is the rule's, the threshold being a 32-bit count. -/
theorem Tracks.answer (ht : Tracks cfg s h) (hT : cfg.decisionThreshold ≤ Word.u32Max) :
    (s.needsUpdate c).1 = GateFrame.accepts cfg.decisionThreshold s.leap c h := by
  rw [needsUpdate_fst, GateFrame.accepts, GateFrame.isDecision, ht.since, ← ht.selected]
  by_cases hc : c = s.selectedCount
  · simp [hc]
  · -- a new count: the saturated counter reaches the threshold exactly when the streak does
    have hheld : cfg.decisionThreshold ≤ min (GateFrame.streak c (h.map GateFrame.count))
        Word.u32Max ↔
        GateFrame.HeldFor (cfg.decisionThreshold + 1) c (c :: h.map GateFrame.count) := by
      rw [GateFrame.heldFor_succ_cons_iff]
      omega
    rw [ht.counted c (Ne.symm hc), ht.threshold]
    simp [hc, hheld]

theorem Tracks.needsUpdate (ht : Tracks cfg s h) (hT : cfg.decisionThreshold ≤ Word.u32Max) :
    Tracks cfg (s.needsUpdate c).2 (s.gateFrame c h :: h) := by
  have hans := ht.answer c hT
  refine ⟨?_, ?_, ?_, ?_, ?_, ?_⟩
  · simpa using ht.threshold
  · simpa using ht.leap_pos
  · simp [GateFrame.isDecision, ht.since]
  · rw [needsUpdate_selectedCount, ht.selected]
    rfl
  · simp
  · -- a refused frame: the selected count stays, and the counter is the new count's streak
    intro hne
    have hno : (s.needsUpdate c).1 = false := by
      cases hr : (s.needsUpdate c).1
      · rfl
      · simp [needsUpdate_selectedCount, hr] at hne
    have hsel : s.selectedCount ≠ c := by
      simpa [needsUpdate_selectedCount, hno] using hne
    rw [needsUpdate_stableFrames, hno, if_neg Bool.false_ne_true, ht.counted c hsel]
    simp

theorem Tracks.adaptLeap (ht : Tracks cfg s h) (fps : Option Float) :
    Tracks cfg (s.adaptLeap fps) h := by
  cases fps with
  | none => exact ht
  | some fps =>
    obtain ⟨hb, hl, -⟩ := ht.leap_pos
    refine ⟨ht.threshold, ⟨hb, hl, ?_⟩, ht.since, ht.selected, ht.previous, ht.stable⟩
    dsimp only [Smoother.adaptLeap]
    split_ifs <;> assumption

/-- The counters do not look at the window. -/
theorem Tracks.window (ht : Tracks cfg s h) (w : CropWindow) : Tracks cfg { s with window := w } h :=
  { ht with }

theorem Tracks.create (cfg : TrackingConfig) : Tracks cfg (Smoother.create cfg) [] where
  threshold := rfl
  leap_pos := by
    simp only [Smoother.create]
    omega
  since := rfl
  selected := rfl
  previous := rfl
  stable := fun h => absurd rfl h

/-- Along every run, the counters are functions of the frames shown. -/
theorem Run.tracks (hT : cfg.decisionThreshold ≤ Word.u32Max) (hr : Run cfg s h) :
    Tracks cfg s h := by
  induction hr with
  | create => exact Tracks.create cfg
  | needsUpdate c _ ih => exact ih.needsUpdate c hT
  | adaptLeap fps _ ih => exact ih.adaptLeap fps
  | push crop _ ih => exact ih.window _
  | clearWindow _ ih => exact ih.window _

/-- Every frame of a run was decided and answered by the rule. -/
theorem Run.recorded (hT : cfg.decisionThreshold ≤ Word.u32Max) (hr : Run cfg s h) :
    GateFrame.Recorded cfg.decisionThreshold h := by
  induction hr with
  | create => trivial
  | needsUpdate c hr ih =>
    have ht := hr.tracks hT
    exact ⟨ht.leap_pos.2.2, rfl, ht.answer c hT, ih⟩
  | adaptLeap _ _ ih => exact ih
  | push _ _ ih => exact ih
  | clearWindow _ ih => exact ih

/-- Along any sequence of calls, `needsUpdate` answers by the rule on the frames shown so far, under
the leap in force, and its selected count changes only on a yes and then to the count shown. Every
earlier frame was answered so; with one leap `L` throughout, the decision frames are the `L`-th,
`2L`-th, ... and only they are accepted; and a selected count other than the first zero has held
for `decisionThreshold + 1` frames in a row. -/
theorem Run.gate_rule (hT : cfg.decisionThreshold ≤ Word.u32Max) (hr : Run cfg s h) :
    (∀ c, (s.needsUpdate c).1 = GateFrame.accepts cfg.decisionThreshold s.leap c h ∧
      (s.needsUpdate c).2.selectedCount = if (s.needsUpdate c).1 then c else s.selectedCount) ∧
    s.selectedCount = GateFrame.selected h ∧ GateFrame.Recorded cfg.decisionThreshold h ∧
    (∀ L, (∀ f ∈ h, f.leap = L) → ∀ h₁ f h₂, h = h₁ ++ f :: h₂ →
      (f.decided = true ↔ L ∣ h₂.length + 1) ∧ (f.accepted = true → f.decided = true)) ∧
    (s.selectedCount = 0 ∨ ∃ k, GateFrame.HeldFor (cfg.decisionThreshold + 1) s.selectedCount
      ((h.drop k).map GateFrame.count)) := by
  have ht := hr.tracks hT
  have hrec := hr.recorded hT
  refine ⟨fun c => ⟨ht.answer c hT, needsUpdate_selectedCount s c⟩, ht.selected, hrec, ?_, ?_⟩
  · intro L hL h₁ f h₂ hsplit
    have hf : f ∈ h := by simp [hsplit]
    exact ⟨hrec.decided_iff_dvd hL hsplit, hrec.decided_of_accepted f hf⟩
  · rw [ht.selected]
    exact hrec.selected_held

/-- A smoother with leap 2 and threshold 1 shown the counts 1, 1, 2 and 3, then told of a rate low
enough to raise the leap to 3, then shown 3 three times. The second frame is a decision and
accepts 1, held for two frames; the fourth is a decision and refuses 3, held for one frame after
the flicker to 2; the seventh, three frames after that decision, accepts 3. -/
theorem gate_rule_flicker :
    ∃ (cfg : TrackingConfig) (s : Smoother) (h : List GateFrame),
      cfg = { leap := 2, lowFpsLeap := 3, decisionThreshold := 1 } ∧
      Run cfg s h ∧ cfg.decisionThreshold ≤ Word.u32Max ∧
      h.map (fun f => (f.count, f.leap, f.decided, f.accepted)) =
        [(3, 3, true, true), (3, 3, false, false), (3, 3, false, false), (3, 2, true, false),
          (2, 2, false, false), (1, 2, true, true), (1, 2, false, false)] ∧
      s.selectedCount = 3 ∧ s.leap = 3 ∧
      (∀ c, (s.needsUpdate c).1 = GateFrame.accepts cfg.decisionThreshold s.leap c h ∧
        (s.needsUpdate c).2.selectedCount = if (s.needsUpdate c).1 then c else s.selectedCount) ∧
      s.selectedCount = GateFrame.selected h ∧ GateFrame.Recorded cfg.decisionThreshold h ∧
      (∀ L, (∀ f ∈ h, f.leap = L) → ∀ h₁ f h₂, h = h₁ ++ f :: h₂ →
        (f.decided = true ↔ L ∣ h₂.length + 1) ∧ (f.accepted = true → f.decided = true)) ∧
      (s.selectedCount = 0 ∨ ∃ k, GateFrame.HeldFor (cfg.decisionThreshold + 1) s.selectedCount
        ((h.drop k).map GateFrame.count)) := by
  have hr : Run { leap := 2, lowFpsLeap := 3, decisionThreshold := 1 } _ _ :=
    .needsUpdate 3 <| .needsUpdate 3 <| .needsUpdate 3 <| .adaptLeap (some 10.0) <|
      .needsUpdate 3 <| .needsUpdate 2 <| .needsUpdate 1 <| .needsUpdate 1 .create
  exact ⟨_, _, _, rfl, hr, by decide, by decide +kernel, by decide +kernel, by decide +kernel,
    Run.gate_rule (by decide) hr⟩

end Smoother

end FaceFraming
