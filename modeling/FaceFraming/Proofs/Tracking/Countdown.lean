import FaceFraming.Proofs.Tracking.Window

/-!
# Counting down to a steady window

Frames that keep showing `n` faces, each adding the crop `r` when accepted, eventually get `n`
selected and leave nothing but `r` in the smoothing window. This module measures how long that
takes, for a smoother along any run (`Smoother.InBounds`: leaps, frames since the last decision
and the window stay within what the configuration allows):

* `Smoother.acceptLeft` bounds the frames until one is accepted: while `n` is not selected it must
  first hold for the decision threshold (`waitFor`), and then a decision frame comes within the
  larger leap; every refused frame lowers it by one (`InBounds.acceptLeft_refused`);
* `CropWindow.pushesLeft` counts the pushes of `r` after which the window holds only `r`: the room
  left before it is full and then one push for each older crop to go (`staleCount`); every push of
  `r` lowers it by one (`CropWindow.pushesLeft_push`), and at zero the window averages to `r`
  (`CropWindow.average_of_staleCount`);
* `Smoother.framesLeft` adds a leap for each push still needed after the next accepted frame, and
  every frame lowers it by one until the window holds only `r` (`InBounds.framesLeft_refused`,
  `InBounds.framesLeft_accepted`). From any smoother it is at most
  `decisionThreshold + capacity · L`, with `L` the larger leap (`InBounds.framesLeft_le`).
-/

namespace FaceFraming


/-- Arithmetic of the count-down: `M` frames and `a` more rounds of `M` fit in `b > a` rounds. -/
theorem add_mul_le_of_lt {a b M : Nat} (h : a < b) : M + a * M ≤ b * M :=
  calc M + a * M = (a + 1) * M := by rw [Nat.succ_mul, Nat.add_comm]
    _ ≤ b * M := Nat.mul_le_mul_right M h

/-! ### A window filling with one crop -/

/-- The sums over `k` copies of a crop are `k` times its edges. -/
theorem EdgeSums.ofList_replicate (k : Nat) (c : Crop) :
    EdgeSums.ofList (List.replicate k c) =
      ⟨k * c.top, k * c.bottom, k * c.left, k * c.right⟩ := by
  induction k with
  | zero => simp [EdgeSums.ofList]
  | succ k ih =>
    simp only [List.replicate_succ, EdgeSums.ofList, ih, EdgeSums.add, EdgeSums.mk.injEq]
    push_cast
    refine ⟨?_, ?_, ?_, ?_⟩ <;> ring

namespace CropWindow

/-- How many of the oldest crops must leave a list before only `r` is left. -/
def staleCount (r : Crop) : List Crop → Nat
  | [] => 0
  | c :: cs => if staleCount r cs = 0 ∧ c = r then 0 else staleCount r cs + 1

variable {r : Crop}

@[simp] theorem staleCount_nil : staleCount r [] = 0 := rfl

/-- Adding `r` at the newest end leaves the same crops to go. -/
@[simp] theorem staleCount_append_self (cs : List Crop) :
    staleCount r (cs ++ [r]) = staleCount r cs := by
  induction cs with
  | nil => simp [staleCount]
  | cons c cs ih => simp only [List.cons_append, staleCount, ih]

/-- Dropping the oldest crop leaves one fewer to go. -/
@[simp] theorem staleCount_drop_one (cs : List Crop) :
    staleCount r (cs.drop 1) = staleCount r cs - 1 := by
  cases cs with
  | nil => rfl
  | cons c cs =>
    simp only [List.drop_succ_cons, List.drop_zero, staleCount]
    split_ifs <;> omega

theorem staleCount_le_length (cs : List Crop) : staleCount r cs ≤ cs.length := by
  induction cs with
  | nil => simp
  | cons c cs ih =>
    simp only [staleCount, List.length_cons]
    split_ifs <;> omega

/-- With none to go, every crop is `r`. -/
theorem eq_of_staleCount_eq_zero {cs : List Crop} (h : staleCount r cs = 0) :
    ∀ c ∈ cs, c = r := by
  induction cs with
  | nil => simp
  | cons c cs ih =>
    simp only [staleCount] at h
    -- the other branch counts at least one crop to go
    split_ifs at h with hc
    intro d hd
    rcases List.mem_cons.mp hd with rfl | hd
    · exact hc.2
    · exact ih hc.1 d hd

/-- The pushes of `r` after which the window holds only `r`: none if it already does, else the
room left before it is full and then one push for each crop to go. -/
def pushesLeft (r : Crop) (w : CropWindow) : Nat :=
  if staleCount r w.crops = 0 then 0 else w.capacity - w.crops.length + staleCount r w.crops

variable {w : CropWindow}

theorem staleCount_of_pushesLeft (h : w.pushesLeft r = 0) : staleCount r w.crops = 0 := by
  unfold pushesLeft at h
  split_ifs at h with hs
  · exact hs
  · omega

theorem pushesLeft_le (hsize : w.crops.length ≤ w.capacity) : w.pushesLeft r ≤ w.capacity := by
  have := staleCount_le_length (r := r) w.crops
  unfold pushesLeft
  split_ifs <;> omega

/-- Every push of `r` takes one push off what is left. -/
theorem pushesLeft_push (hsize : w.crops.length ≤ w.capacity) (hcap : 0 < w.capacity) :
    (w.push r).pushesLeft r = w.pushesLeft r - 1 := by
  have hs := staleCount_le_length (r := r) w.crops
  have hcap' : (w.push r).capacity = w.capacity := rfl
  unfold pushesLeft
  rw [crops_push, hcap']
  by_cases hfull : w.crops.length = w.capacity
  · -- full: the oldest crop goes, one fewer to go
    rw [if_pos hfull, staleCount_append_self, staleCount_drop_one, List.length_append,
      List.length_drop, List.length_singleton]
    split_ifs <;> omega
  · -- room left: one less room
    rw [if_neg hfull, staleCount_append_self, List.length_append, List.length_singleton]
    split_ifs <;> omega

/-- After a push of `r` less than a full window of pushes is left. -/
theorem pushesLeft_push_le (hsize : w.crops.length ≤ w.capacity) (hcap : 0 < w.capacity) :
    (w.push r).pushesLeft r ≤ w.capacity - 1 := by
  rw [pushesLeft_push hsize hcap]
  have := pushesLeft_le (r := r) hsize
  omega

@[simp] theorem pushesLeft_clear : w.clear.pushesLeft r = 0 := rfl

/-- A window holding only `r`, at least once, with its sums kept, averages to `r`. -/
theorem average_of_staleCount (hsums : w.sums = EdgeSums.ofList w.crops)
    (h : staleCount r w.crops = 0) (hne : w.crops ≠ []) : w.average = r := by
  have hrep : w.crops = List.replicate w.crops.length r :=
    List.eq_replicate_iff.mpr ⟨rfl, eq_of_staleCount_eq_zero h⟩
  have hk : (w.crops.length : Int) ≠ 0 := by
    have := List.length_pos_iff.mpr hne
    omega
  unfold average
  rw [if_neg (by simpa using hne), hsums, hrep, EdgeSums.ofList_replicate, List.length_replicate]
  simp only [Int.mul_tdiv_cancel_left _ hk]

end CropWindow

/-! ### The gate, counted down -/

namespace Smoother

/-- The larger of the two leaps: decision frames come at least this often. -/
def maxLeap (s : Smoother) : Nat :=
  max s.baseLeap s.lowLeap

variable {cfg : TrackingConfig} {s : Smoother} {n : Nat} {r : Crop}

@[simp] theorem maxLeap_adaptLeap (fps : Option Float) : (s.adaptLeap fps).maxLeap = s.maxLeap := by
  cases fps <;> rfl

@[simp] theorem maxLeap_needsUpdate : (s.needsUpdate n).2.maxLeap = s.maxLeap := by
  simp [maxLeap]

@[simp] theorem maxLeap_push : (s.push r).maxLeap = s.maxLeap := rfl

@[simp] theorem maxLeap_clearWindow : s.clearWindow.maxLeap = s.maxLeap := rfl

@[simp] theorem push_sinceDecision : (s.push r).sinceDecision = s.sinceDecision := rfl

@[simp] theorem clearWindow_sinceDecision : s.clearWindow.sinceDecision = s.sinceDecision := rfl

/-- What the calls keep of a smoother made for `cfg`: its leaps, the current one at most the
larger, fewer frames since the last decision than the larger leap, and a window of the configured
capacity, never overfull, whose sums are those of its crops. -/
structure InBounds (cfg : TrackingConfig) (s : Smoother) : Prop where
  baseLeap : s.baseLeap = max cfg.leap 1
  lowLeap : s.lowLeap = max cfg.lowFpsLeap 1
  leap_le : s.leap ≤ s.maxLeap
  since_lt : s.sinceDecision < s.maxLeap
  capacity : s.window.capacity = max cfg.smoothingCapacity 1
  size_le : s.window.crops.length ≤ s.window.capacity
  sums : s.window.sums = EdgeSums.ofList s.window.crops

theorem InBounds.create (cfg : TrackingConfig) : InBounds cfg (Smoother.create cfg) where
  baseLeap := rfl
  lowLeap := rfl
  leap_le := by
    simp only [Smoother.create, maxLeap]
    omega
  since_lt := by
    simp only [Smoother.create, maxLeap]
    omega
  capacity := rfl
  size_le := by simp [Smoother.create, CropWindow.create]
  sums := rfl

theorem InBounds.maxLeap_pos (hb : InBounds cfg s) : 0 < s.maxLeap := by
  simp only [maxLeap, hb.baseLeap]
  omega

theorem InBounds.capacity_pos (hb : InBounds cfg s) : 0 < s.window.capacity := by
  rw [hb.capacity]
  omega

/-- A counted frame either decides, starting the count again, or comes before the leap. -/
theorem InBounds.needsUpdate (hb : InBounds cfg s) (c : Nat) :
    InBounds cfg (s.needsUpdate c).2 where
  baseLeap := by simpa using hb.baseLeap
  lowLeap := by simpa using hb.lowLeap
  leap_le := by simpa using hb.leap_le
  since_lt := by
    have := hb.leap_le
    have := hb.maxLeap_pos
    simp only [needsUpdate_sinceDecision, maxLeap_needsUpdate]
    split_ifs <;> omega
  capacity := by simpa using hb.capacity
  size_le := by simpa using hb.size_le
  sums := by simpa using hb.sums

theorem InBounds.adaptLeap (hb : InBounds cfg s) (fps : Option Float) :
    InBounds cfg (s.adaptLeap fps) := by
  cases fps with
  | none => exact hb
  | some fps =>
    refine { hb with leap_le := ?_ }
    dsimp only [Smoother.adaptLeap, maxLeap]
    split_ifs <;> omega

theorem InBounds.push (hb : InBounds cfg s) (c : Crop) : InBounds cfg (s.push c) :=
  { hb with
    size_le := CropWindow.size_push_le s.window c hb.size_le hb.capacity_pos
    sums := CropWindow.sums_push hb.sums c }

theorem InBounds.clearWindow (hb : InBounds cfg s) : InBounds cfg s.clearWindow :=
  { hb with
    size_le := by simp [Smoother.clearWindow, CropWindow.clear]
    sums := CropWindow.sums_clear s.window }

/-- Every smoother along a run keeps the bounds. -/
theorem Run.inBounds {hg : List GateFrame} (hr : Run cfg s hg) : InBounds cfg s := by
  induction hr with
  | create => exact InBounds.create cfg
  | needsUpdate c _ ih => exact ih.needsUpdate c
  | adaptLeap fps _ ih => exact ih.adaptLeap fps
  | push crop _ ih => exact ih.push crop
  | clearWindow _ ih => exact ih.clearWindow

/-- A refused frame keeps the selected count. -/
theorem needsUpdate_refused (hno : (s.needsUpdate n).1 = false) :
    (s.needsUpdate n).2.selectedCount = s.selectedCount := by
  rw [needsUpdate_selectedCount, hno]
  rfl

/-- Frames of `n` faces still to be shown before the count `n` has held for the decision
threshold: one more than the threshold while it is not the previous count. -/
def waitFor (s : Smoother) (n : Nat) : Nat :=
  if s.previousCount = n then s.decisionThreshold - s.stableFrames else s.decisionThreshold + 1

/-- At most how many more frames of `n` faces come before one is accepted: while `n` is not the
selected count and has not held long enough, the wait and then at most one leap less one frame;
otherwise until the next decision frame. -/
def acceptLeft (s : Smoother) (n : Nat) : Nat :=
  if s.selectedCount ≠ n ∧ 0 < s.waitFor n then s.waitFor n + (s.maxLeap - 1)
  else s.maxLeap - s.sinceDecision

@[simp] theorem adaptLeap_decisionThreshold (fps : Option Float) :
    (s.adaptLeap fps).decisionThreshold = s.decisionThreshold := by
  cases fps <;> rfl

@[simp] theorem acceptLeft_adaptLeap (fps : Option Float) :
    (s.adaptLeap fps).acceptLeft n = s.acceptLeft n := by
  cases fps <;> rfl

theorem InBounds.acceptLeft_pos (hb : InBounds cfg s) : 0 < s.acceptLeft n := by
  have := hb.since_lt
  unfold acceptLeft
  split_ifs <;> omega

theorem InBounds.acceptLeft_le (hb : InBounds cfg s) :
    s.acceptLeft n ≤ s.decisionThreshold + s.maxLeap := by
  have := hb.maxLeap_pos
  unfold acceptLeft waitFor
  split_ifs <;> omega

/-- A refused frame of `n` faces counts one frame off the wait (the threshold being a 32-bit
count, which the saturated counter reaches). -/
theorem waitFor_refused (hT : s.decisionThreshold ≤ Word.u32Max)
    (hno : (s.needsUpdate n).1 = false) : (s.needsUpdate n).2.waitFor n = s.waitFor n - 1 := by
  simp only [waitFor, needsUpdate_previousCount, needsUpdate_stableFrames, hno,
    needsUpdate_decisionThreshold, counted, if_true, Bool.false_eq_true, if_false]
  split_ifs <;> omega

/-- The frames counted reach the threshold exactly when at most one frame of the wait is left. -/
theorem counted_held_iff (hT : s.decisionThreshold ≤ Word.u32Max) :
    s.decisionThreshold ≤ s.counted n ↔ s.waitFor n ≤ 1 := by
  unfold counted waitFor
  split_ifs <;> omega

/-- A refused frame of `n` faces brings the next accepted one a frame nearer. -/
theorem InBounds.acceptLeft_refused (hb : InBounds cfg s) (hT : s.decisionThreshold ≤ Word.u32Max)
    (hno : (s.needsUpdate n).1 = false) :
    (s.needsUpdate n).2.acceptLeft n ≤ s.acceptLeft n - 1 := by
  have hwait := waitFor_refused hT hno
  have hsel := needsUpdate_refused hno
  have hlt := hb.since_lt
  -- a decision frame would have accepted a selected count, or one that has held
  rw [needsUpdate_fst] at hno
  simp only [Bool.and_eq_false_iff, decide_eq_false_iff_not, Bool.or_eq_false_iff,
    counted_held_iff hT] at hno
  unfold acceptLeft
  simp only [hsel, hwait, maxLeap_needsUpdate, needsUpdate_sinceDecision]
  split_ifs <;> omega

/-- An accepted frame of `n` faces selects `n` and starts the count to the next decision. -/
theorem needsUpdate_accepted (hacc : (s.needsUpdate n).1 = true) :
    (s.needsUpdate n).2.selectedCount = n ∧ (s.needsUpdate n).2.sinceDecision = 0 := by
  refine ⟨by rw [needsUpdate_selectedCount, hacc, if_pos rfl], ?_⟩
  have hfst := needsUpdate_fst s n
  rw [hacc] at hfst
  simp only [needsUpdate_sinceDecision]
  simp only [Bool.true_eq, Bool.and_eq_true, decide_eq_true_eq] at hfst
  rw [if_pos hfst.1]

/-- The pushes of `r` still needed after the next accepted frame: those the window needs once
`n` is selected, and otherwise at most a full window less that frame's. -/
def pushesAfter (s : Smoother) (n : Nat) (r : Crop) : Nat :=
  if s.selectedCount = n then s.window.pushesLeft r - 1 else s.window.capacity - 1

/-- At most how many more frames of `n` faces, each adding `r`, before `n` is selected and the
window holds only `r`: the frames until the next accepted one, then a leap for each push after
it. -/
def framesLeft (s : Smoother) (n : Nat) (r : Crop) : Nat :=
  s.acceptLeft n + s.pushesAfter n r * s.maxLeap

@[simp] theorem framesLeft_adaptLeap (fps : Option Float) :
    (s.adaptLeap fps).framesLeft n r = s.framesLeft n r := by
  cases fps <;> rfl

theorem InBounds.framesLeft_le (hb : InBounds cfg s) :
    s.framesLeft n r ≤ s.decisionThreshold + s.window.capacity * s.maxLeap := by
  have hpush := CropWindow.pushesLeft_le (r := r) hb.size_le
  have hcap := hb.capacity_pos
  have hafter : s.pushesAfter n r < s.window.capacity := by
    unfold pushesAfter
    split_ifs <;> omega
  have := add_mul_le_of_lt (M := s.maxLeap) hafter
  have := hb.acceptLeft_le (n := n)
  unfold framesLeft
  omega

/-- A refused frame brings the end one frame nearer. -/
theorem InBounds.framesLeft_refused (hb : InBounds cfg s) (hT : s.decisionThreshold ≤ Word.u32Max)
    (hno : (s.needsUpdate n).1 = false) :
    (s.needsUpdate n).2.framesLeft n r ≤ s.framesLeft n r - 1 := by
  have hacc := hb.acceptLeft_refused hT hno
  have hpos := hb.acceptLeft_pos (n := n)
  have hafter : (s.needsUpdate n).2.pushesAfter n r = s.pushesAfter n r := by
    simp only [pushesAfter, needsUpdate_refused hno, needsUpdate_window]
  unfold framesLeft
  rw [hafter, maxLeap_needsUpdate]
  omega

/-- An accepted frame, the window restarted or not but kept when `n` was already selected, adds
`r`; unless the window then holds only `r`, the end is a frame nearer. -/
theorem InBounds.framesLeft_accepted (hb : InBounds cfg s) (hacc : (s.needsUpdate n).1 = true)
    {s' : Smoother} (hs' : s' = ((s.needsUpdate n).2).push r ∨
      s' = ((s.needsUpdate n).2).clearWindow.push r)
    (hkeep : s.selectedCount = n → s' = ((s.needsUpdate n).2).push r)
    (hleft : s'.window.pushesLeft r ≠ 0) : s'.framesLeft n r ≤ s.framesLeft n r - 1 := by
  obtain ⟨hsel, hsince⟩ := needsUpdate_accepted hacc
  have hpos := hb.acceptLeft_pos (n := n)
  -- the new window needs at most the pushes the old one needed after this frame
  have hfewer : s'.window.pushesLeft r ≤ s.pushesAfter n r := by
    unfold pushesAfter
    split_ifs with hn
    · rw [hkeep hn, push_window, needsUpdate_window,
        CropWindow.pushesLeft_push hb.size_le hb.capacity_pos]
    · -- kept or restarted, the window needs less than a full window after this push
      rcases hs' with rfl | rfl
      · simpa using CropWindow.pushesLeft_push_le (r := r) hb.size_le hb.capacity_pos
      · simpa using CropWindow.pushesLeft_push_le (r := r) (w := s.window.clear)
          (by simp [CropWindow.clear]) (by simpa using hb.capacity_pos)
  have hnew : s'.acceptLeft n = s.maxLeap ∧ s'.maxLeap = s.maxLeap ∧ s'.selectedCount = n := by
    rcases hs' with rfl | rfl <;>
      simp only [acceptLeft, push_sinceDecision, clearWindow_sinceDecision, hsince,
        push_selectedCount, clearWindow_selectedCount, hsel, maxLeap_push, maxLeap_clearWindow,
        maxLeap_needsUpdate, ne_eq, not_true_eq_false, false_and, if_false, Nat.sub_zero, and_self]
  have hafter : s'.pushesAfter n r = s'.window.pushesLeft r - 1 := by
    simp only [pushesAfter, hnew.2.2, if_true]
  have := add_mul_le_of_lt (M := s.maxLeap)
    (show s'.window.pushesLeft r - 1 < s.pushesAfter n r by omega)
  unfold framesLeft
  rw [hnew.1, hnew.2.1, hafter]
  omega

end Smoother

end FaceFraming
