import FaceFraming.Proofs.Smoothing.Words

/-!
# Runs of the smoothing window

A smoothing window is driven by two calls (`WindowCall`): `push` a crop, and `clear`. This module
says what a window made by `CropWindow.create cap` holds after any sequence of them, and that the
sums it keeps as it goes are the ones a pass over its crops would give.

* The window keeps the newest of the crops pushed since the last clear (`WindowCall.sinceClear`),
  oldest first, as many as its capacity `max cap 1` allows. `Keeps` says so of a window and the
  crops pushed into it; each call keeps it (`Keeps.push`, `Keeps.clear`), so every run does
  (`Keeps.run`).
* The kept sums are the edges' sums over the kept crops (`EdgeSums.ofList_eq_sums`), so the average
  is the mean computed afresh from the crops (`average_eq_mean`).
* The program keeps the sums in 64-bit words and the crops' edges are 32-bit. A run in which the
  window never holds more than `2^32` crops is the same in those words (`run?_eq`, one push at a
  time by `push?_of_inWords`), and so is the average at its end (`average?_of_inWords`).

The main statement is `CropWindow.run_create`.
-/

namespace FaceFraming

/-- A call on a smoothing window. -/
inductive WindowCall where
  /-- Adds a crop, forgetting the oldest when the window is full. -/
  | push (c : Crop)
  /-- Forgets every crop. -/
  | clear
  deriving Repr, DecidableEq

namespace WindowCall

/-- The crops pushed since the last clear, oldest first, once one more call is made. -/
def pushedAfter (pushed : List Crop) : WindowCall → List Crop
  | .push c => pushed ++ [c]
  | .clear => []

/-- The crops pushed since the last clear, oldest first. -/
def sinceClear (calls : List WindowCall) : List Crop :=
  calls.foldl pushedAfter []

/-- A call the program can make: a pushed crop has 32-bit edges. -/
def InWords : WindowCall → Prop
  | .push c => c.InWords
  | .clear => True

instance decidableInWords : (call : WindowCall) → Decidable call.InWords
  | .push c => inferInstanceAs (Decidable c.InWords)
  | .clear => inferInstanceAs (Decidable True)

end WindowCall

/-- The edge-by-edge mean of some crops computed afresh: each edge's sum over the crops divided by
their number, truncated toward zero; the crop that cuts nothing when there are none. -/
def Crop.mean (cs : List Crop) : Crop :=
  if cs = [] then Crop.identity
  else
    let n : Int := cs.length
    ⟨(cs.map Crop.top).sum.tdiv n, (cs.map Crop.bottom).sum.tdiv n,
      (cs.map Crop.left).sum.tdiv n, (cs.map Crop.right).sum.tdiv n⟩

namespace EdgeSums

/-- The sums kept over a list of crops are the sums of their edges. -/
theorem ofList_eq_sums (cs : List Crop) :
    ofList cs = ⟨(cs.map Crop.top).sum, (cs.map Crop.bottom).sum, (cs.map Crop.left).sum,
      (cs.map Crop.right).sum⟩ := by
  induction cs with
  | nil => rfl
  | cons c cs ih =>
    simp only [ofList, ih, add, List.map_cons, List.sum_cons, mk.injEq]
    omega

end EdgeSums

namespace CropWindow

/-- The window after a call. -/
def step (w : CropWindow) : WindowCall → CropWindow
  | .push c => w.push c
  | .clear => w.clear

/-- The window after a sequence of calls. -/
def run (w : CropWindow) (calls : List WindowCall) : CropWindow :=
  calls.foldl step w

/-- A call with the sums kept in 64-bit words. -/
def step? (w : CropWindow) : WindowCall → Checked CropWindow
  | .push c => w.push? c
  | .clear => pure w.clear

/-- A sequence of calls with the sums kept in 64-bit words. -/
def run? (w : CropWindow) (calls : List WindowCall) : Checked CropWindow :=
  calls.foldlM step? w

variable {w : CropWindow} {pushed : List Crop}

@[simp] theorem run_nil : w.run [] = w := rfl

@[simp] theorem run_cons (call : WindowCall) (calls : List WindowCall) :
    w.run (call :: calls) = (w.step call).run calls := rfl

theorem capacity_step : ∀ call : WindowCall, (w.step call).capacity = w.capacity
  | .push _ => rfl
  | .clear => rfl

theorem capacity_run (calls : List WindowCall) : (w.run calls).capacity = w.capacity := by
  induction calls generalizing w with
  | nil => rfl
  | cons call calls ih => rw [run_cons, ih, capacity_step]

/-! ### What the window keeps -/

/-- The newest `m` entries of a list after one more is appended: the oldest goes when `m` were
kept, and the new one comes last. -/
theorem drop_append_singleton {α : Type} (L : List α) (a : α) {m : Nat} (hm : 0 < m) :
    (if (L.drop (L.length - m)).length = m then (L.drop (L.length - m)).drop 1
      else L.drop (L.length - m)) ++ [a] = (L ++ [a]).drop ((L ++ [a]).length - m) := by
  rw [List.length_drop, List.length_append, List.length_singleton]
  by_cases hL : m ≤ L.length
  · -- `m` kept: the oldest of them goes
    rw [if_pos (by omega), List.drop_drop, List.drop_append_of_le_length (by omega)]
    congr 2
    omega
  · -- fewer than `m` kept: all of them stay
    rw [if_neg (by omega), Nat.sub_eq_zero_of_le (by omega), Nat.sub_eq_zero_of_le (by omega)]
    rfl

/-- The window keeps the newest of the crops `pushed`, oldest first, as many as its capacity
allows, and sums of them. -/
structure Keeps (w : CropWindow) (pushed : List Crop) : Prop where
  capacity_pos : 0 < w.capacity
  crops : w.crops = pushed.drop (pushed.length - w.capacity)
  sums : w.sums = EdgeSums.ofList w.crops

theorem Keeps.create (cap : Nat) : (create cap).Keeps [] where
  capacity_pos := by
    simp only [CropWindow.create]
    omega
  crops := (List.drop_nil).symm
  sums := rfl

theorem Keeps.clear (h : w.Keeps pushed) : w.clear.Keeps [] where
  capacity_pos := h.capacity_pos
  crops := (List.drop_nil).symm
  sums := rfl

theorem Keeps.push (h : w.Keeps pushed) (c : Crop) : (w.push c).Keeps (pushed ++ [c]) where
  capacity_pos := h.capacity_pos
  crops := by
    have hcap : (w.push c).capacity = w.capacity := rfl
    rw [crops_push, hcap, h.crops]
    exact drop_append_singleton pushed c h.capacity_pos
  sums := sums_push h.sums c

theorem Keeps.step (h : w.Keeps pushed) :
    ∀ call : WindowCall, (w.step call).Keeps (call.pushedAfter pushed)
  | .push c => h.push c
  | .clear => h.clear

/-- Along any run the window keeps the newest of the crops pushed since the last clear. -/
theorem Keeps.run (h : w.Keeps pushed) (calls : List WindowCall) :
    (w.run calls).Keeps (calls.foldl WindowCall.pushedAfter pushed) := by
  induction calls generalizing w pushed with
  | nil => exact h
  | cons call calls ih => exact ih (h.step call)

/-- A window whose sums are those of its crops averages to their mean. -/
theorem average_eq_mean (h : w.sums = EdgeSums.ofList w.crops) : w.average = Crop.mean w.crops := by
  rw [average, Crop.mean, h, EdgeSums.ofList_eq_sums]
  simp only [List.isEmpty_iff]

/-! ### The run in 64-bit words -/

theorem InWords.step (h : w.InWords) : ∀ {call : WindowCall}, call.InWords → (w.step call).InWords
  | .push _, hc => h.push hc
  | .clear, _ => InWords.clear w

theorem InWords.run (h : w.InWords) {calls : List WindowCall} (hcalls : ∀ call ∈ calls, call.InWords) :
    (w.run calls).InWords := by
  induction calls generalizing w with
  | nil => exact h
  | cons call calls ih =>
    exact ih (h.step (hcalls call List.mem_cons_self))
      fun c hc => hcalls c (List.mem_cons_of_mem _ hc)

theorem step?_eq (h : w.InWords) {call : WindowCall} (hcall : call.InWords)
    (hn : (w.step call).size ≤ 4294967296) : w.step? call = .ok (w.step call) := by
  cases call with
  | push c => exact push?_of_inWords h hcall hn
  | clear => rfl

/-- A run of calls the program can make, in which the window never holds more than `2^32` crops, is
the same with the sums kept in 64-bit words. -/
theorem run?_eq (h : w.InWords) {calls : List WindowCall} (hcalls : ∀ call ∈ calls, call.InWords)
    (hn : ∀ k ≤ calls.length, (w.run (calls.take k)).size ≤ 4294967296) :
    w.run? calls = .ok (w.run calls) := by
  induction calls generalizing w with
  | nil => rfl
  | cons call calls ih =>
    have hcall := hcalls call List.mem_cons_self
    have hfirst : (w.step call).size ≤ 4294967296 := hn 1 (by simp)
    have hrest : ∀ k ≤ calls.length, ((w.step call).run (calls.take k)).size ≤ 4294967296 := by
      intro k hk
      have := hn (k + 1) (by simp only [List.length_cons]; omega)
      rwa [List.take_succ_cons, run_cons] at this
    show (w.step? call >>= fun w' => w'.run? calls) = _
    rw [step?_eq h hcall hfirst, Checked.ok_bind, run_cons]
    exact ih (h.step hcall) (fun c hc => hcalls c (List.mem_cons_of_mem _ hc)) hrest

/-! ### Runs from a new window -/

/-- What a window holds after any run of pushes and clears: the newest of the crops pushed since
the last clear, oldest first and `max cap 1` of them at most; sums that are the edge sums of those
crops; and an average that is their mean computed afresh. On crops of 32-bit edges, as long as the
window never holds more than `2^32` crops, the run and the average come out the same with the sums
kept in 64-bit words. -/
theorem run_create (cap : Nat) (calls : List WindowCall) :
    let w := (create cap).run calls
    let pushed := WindowCall.sinceClear calls
    w.crops = pushed.drop (pushed.length - max cap 1) ∧
      w.size = min pushed.length (max cap 1) ∧
      w.sums = ⟨(w.crops.map Crop.top).sum, (w.crops.map Crop.bottom).sum,
        (w.crops.map Crop.left).sum, (w.crops.map Crop.right).sum⟩ ∧
      w.average = Crop.mean w.crops ∧
      ((∀ call ∈ calls, call.InWords) →
        (∀ k ≤ calls.length, ((create cap).run (calls.take k)).size ≤ 4294967296) →
        (create cap).run? calls = .ok w ∧ w.average? = .ok w.average) := by
  intro w pushed
  have hkeeps : w.Keeps pushed := (Keeps.create cap).run calls
  have hcap : w.capacity = max cap 1 := capacity_run calls
  refine ⟨hcap ▸ hkeeps.crops, ?_, hkeeps.sums.trans (EdgeSums.ofList_eq_sums _),
    average_eq_mean hkeeps.sums, fun hcalls hn => ⟨run?_eq (InWords.create cap) hcalls hn, ?_⟩⟩
  · unfold size
    rw [hkeeps.crops, List.length_drop, hcap]
    omega
  · exact average?_of_inWords ((InWords.create cap).run hcalls)

/-- Six pushes around a clear into a window of two: the last two crops of the three after the
clear are kept, negative edges among them, and the 64-bit run agrees. -/
theorem run_create_around_clear :
    let calls := [WindowCall.push ⟨-3, 5, 7, -1⟩, .push ⟨4, 2, -6, 0⟩, .clear,
      .push ⟨-5, 0, 3, 2⟩, .push ⟨2, -7, 0, 4⟩, .push ⟨6, 1, -3, 0⟩]
    (∀ call ∈ calls, call.InWords) ∧
      (∀ k ≤ calls.length, ((create 2).run (calls.take k)).size ≤ 4294967296) ∧
      (create 2).run? calls = .ok ((create 2).run calls) ∧
      ((create 2).run calls).average? = .ok ((create 2).run calls).average := by
  intro calls
  have hcalls : ∀ call ∈ calls, call.InWords := by decide
  have hn : ∀ k ≤ calls.length, ((create 2).run (calls.take k)).size ≤ 4294967296 := by decide
  exact ⟨hcalls, hn, (run_create 2 calls).2.2.2.2 hcalls hn⟩

end CropWindow

end FaceFraming
