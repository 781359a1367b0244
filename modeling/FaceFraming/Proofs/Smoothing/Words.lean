import FaceFraming.Tracking.Checked
import Mathlib

/-!
# The smoothing window in 64-bit words

The program's crops have 32-bit edges (`Crop.InWords`), and its smoothing window keeps their sums
in 64-bit words: `CropWindow.push?` and `CropWindow.average?` are the window's operations with that
arithmetic checked.

A sum over `n` crops of 32-bit edges lies between `n` times the least and `n` times the greatest
32-bit value (`EdgeSums.Within`). Over at most `2^32` crops it is therefore a 64-bit value, and the
mean of the crops is a 32-bit value again (`Spread.tdiv_holds`). A window whose sums are those of
its crops, all of 32-bit edges (`CropWindow.InWords`), pushes and averages in those words as it does
unbounded (`push?_of_inWords`, `average?_of_inWords`), as long as it holds at most `2^32` crops.
-/

namespace FaceFraming

/-- Every edge of the crop is a 32-bit signed value, as the program's crops are. -/
def Crop.InWords (c : Crop) : Prop :=
  IntType.i32.Holds c.top ∧ IntType.i32.Holds c.bottom ∧ IntType.i32.Holds c.left ∧
    IntType.i32.Holds c.right

instance Crop.decidableInWords (c : Crop) : Decidable c.InWords :=
  inferInstanceAs (Decidable (_ ∧ _))

namespace EdgeSums

/-- A value between `n` times the least and `n` times the greatest 32-bit value, as a sum of `n`
of them is. -/
def Spread (x : Int) (n : Nat) : Prop :=
  -2147483648 * (n : Int) ≤ x ∧ x ≤ 2147483647 * (n : Int)

/-- The mean of `n` values spread as 32-bit values is a 32-bit value: the quotient rounds toward
zero, so it stays between the bounds on either side. -/
theorem Spread.tdiv_holds {x : Int} {n : Nat} (hn : 0 < n) (h : Spread x n) :
    IntType.i32.Holds (x.tdiv n) := by
  obtain ⟨lo, hi⟩ := h
  rw [IntType.holds_i32]
  by_cases hx : 0 ≤ x
  · rw [Int.tdiv_eq_ediv_of_nonneg hx]
    exact ⟨by have := Int.ediv_nonneg hx (Int.natCast_nonneg n); omega,
      Int.ediv_le_of_le_mul (by omega) (by omega)⟩
  · -- a negative sum: the quotient is minus that of its opposite
    have hneg : x.tdiv n = -((-x) / n) := by
      rw [← Int.tdiv_eq_ediv_of_nonneg (by omega), Int.neg_tdiv, Int.neg_neg]
    have hq : -x / n ≤ 2147483648 := Int.ediv_le_of_le_mul (by omega) (by omega)
    have hq0 : 0 ≤ -x / n := Int.ediv_nonneg (by omega) (Int.natCast_nonneg n)
    rw [hneg]
    omega

/-- Sums over `n` crops of 32-bit edges: each lies between `n` times the least and `n` times the
greatest 32-bit value. -/
def Within (s : EdgeSums) (n : Nat) : Prop :=
  Spread s.top n ∧ Spread s.bottom n ∧ Spread s.left n ∧ Spread s.right n

theorem ofList_within : ∀ {cs : List Crop}, (∀ c ∈ cs, c.InWords) → (ofList cs).Within cs.length
  | [], _ => by simp [Within, Spread, ofList]
  | c :: cs, h => by
    obtain ⟨⟨ht, ht'⟩, ⟨hb, hb'⟩, ⟨hl, hl'⟩, ⟨hr, hr'⟩⟩ := h c List.mem_cons_self
    obtain ⟨⟨st, st'⟩, ⟨sb, sb'⟩, ⟨sl, sl'⟩, ⟨sr, sr'⟩⟩ :=
      ofList_within fun c' hc' => h c' (List.mem_cons_of_mem c hc')
    simp only [IntType.i32, Word.i32Min, Word.i32Max] at *
    simp only [Within, Spread, ofList, add, List.length_cons]
    omega

/-- Sums over at most `2^32` crops of 32-bit edges are 64-bit values. -/
theorem Within.holds {s : EdgeSums} {n : Nat} (h : s.Within n) (hn : n ≤ 4294967296) :
    IntType.i64.Holds s.top ∧ IntType.i64.Holds s.bottom ∧ IntType.i64.Holds s.left ∧
      IntType.i64.Holds s.right := by
  obtain ⟨⟨ht, ht'⟩, ⟨hb, hb'⟩, ⟨hl, hl'⟩, ⟨hr, hr'⟩⟩ := h
  simp only [IntType.holds_i64]
  omega

/-- Adding a crop in 64-bit words gives the sums with it when those are 64-bit values. -/
theorem add?_of_holds {s : EdgeSums} {c : Crop}
    (h : IntType.i64.Holds (s.add c).top ∧ IntType.i64.Holds (s.add c).bottom ∧
      IntType.i64.Holds (s.add c).left ∧ IntType.i64.Holds (s.add c).right) :
    s.add? c = .ok (s.add c) := by
  obtain ⟨ht, hb, hl, hr⟩ := h
  rw [add?, IntType.add_of_holds ht, Checked.ok_bind, IntType.add_of_holds hb, Checked.ok_bind,
    IntType.add_of_holds hl, Checked.ok_bind, IntType.add_of_holds hr, Checked.ok_bind]
  rfl

/-- Taking a crop away in 64-bit words gives the sums without it when those are 64-bit values. -/
theorem sub?_of_holds {s : EdgeSums} {c : Crop}
    (h : IntType.i64.Holds (s.sub c).top ∧ IntType.i64.Holds (s.sub c).bottom ∧
      IntType.i64.Holds (s.sub c).left ∧ IntType.i64.Holds (s.sub c).right) :
    s.sub? c = .ok (s.sub c) := by
  obtain ⟨ht, hb, hl, hr⟩ := h
  rw [sub?, IntType.sub_of_holds ht, Checked.ok_bind, IntType.sub_of_holds hb, Checked.ok_bind,
    IntType.sub_of_holds hl, Checked.ok_bind, IntType.sub_of_holds hr, Checked.ok_bind]
  rfl

end EdgeSums

namespace CropWindow

variable {w : CropWindow} {c c' : Crop}

/-- A crop kept after a push is an old one or the one pushed. -/
theorem mem_crops_push (h : c' ∈ (w.push c).crops) : c' ∈ w.crops ∨ c' = c := by
  rw [crops_push] at h
  rcases List.mem_append.mp h with hold | hnew
  · split_ifs at hold
    · exact .inl (List.mem_of_mem_drop hold)
    · exact .inl hold
  · exact .inr (List.mem_singleton.mp hnew)

/-- A push never makes the window smaller. -/
theorem size_le_size_push (w : CropWindow) (c : Crop) : w.size ≤ (w.push c).size := by
  unfold size
  rw [crops_push, List.length_append, List.length_singleton]
  split_ifs
  · rw [List.length_drop]
    omega
  · omega

/-- A window whose sums are those of its crops, all of whose edges are 32-bit values. -/
structure InWords (w : CropWindow) : Prop where
  sums : w.sums = EdgeSums.ofList w.crops
  crops : ∀ c ∈ w.crops, c.InWords

theorem InWords.create (cap : Nat) : (create cap).InWords where
  sums := rfl
  crops := fun _ hc => absurd hc List.not_mem_nil

theorem InWords.push (h : w.InWords) (hc : c.InWords) : (w.push c).InWords where
  sums := sums_push h.sums c
  crops := fun c' hc' => (mem_crops_push hc').elim (h.crops c') fun hnew => hnew ▸ hc

theorem InWords.clear (w : CropWindow) : w.clear.InWords where
  sums := rfl
  crops := fun _ hc => absurd hc List.not_mem_nil

/-- Making room in 64-bit words, for a window of at most `2^32` crops of 32-bit edges. -/
theorem evict?_of_inWords (h : w.InWords) (hn : w.size ≤ 4294967296) : w.evict? = .ok w.evict := by
  obtain ⟨capacity, crops, sums⟩ := w
  obtain ⟨hs, hw⟩ := h
  cases crops with
  | nil => rfl
  | cons oldest rest =>
    dsimp only at hs hw hn
    unfold evict? evict
    dsimp only
    split_ifs
    · have hrest : sums.sub oldest = EdgeSums.ofList rest := by
        rw [hs, EdgeSums.ofList, EdgeSums.add_sub]
      have hwithin := EdgeSums.ofList_within fun c hc => hw c (List.mem_cons_of_mem _ hc)
      rw [← hrest] at hwithin
      rw [EdgeSums.sub?_of_holds (hwithin.holds (by unfold size at hn; simp at hn; omega))]
      rfl
    · rfl

/-- A push in 64-bit words, of a crop of 32-bit edges that leaves at most `2^32` in the window. -/
theorem push?_of_inWords (h : w.InWords) (hc : c.InWords) (hn : (w.push c).size ≤ 4294967296) :
    w.push? c = .ok (w.push c) := by
  have hsums : w.evict.2.add c = EdgeSums.ofList (w.push c).crops := sums_push h.sums c
  rw [push?, evict?_of_inWords h (Nat.le_trans (size_le_size_push w c) hn), Checked.ok_bind,
    EdgeSums.add?_of_holds (hsums ▸ (EdgeSums.ofList_within (h.push hc).crops).holds hn)]
  rfl

/-- Averaging in 64-bit words: the mean of crops of 32-bit edges is a 32-bit value, so dividing
does not overflow and reading the mean back as a 32-bit word keeps it. -/
theorem average?_of_inWords (h : w.InWords) : w.average? = .ok w.average := by
  simp only [average?, average]
  split_ifs with hempty
  · rfl
  · have hn : 0 < w.crops.length := List.length_pos_iff.mpr fun h0 => hempty (by simp [h0])
    have hn0 : (w.crops.length : Int) ≠ 0 := by omega
    obtain ⟨ht, hb, hl, hr⟩ := h.sums ▸ EdgeSums.ofList_within h.crops
    -- each mean is a 32-bit value, so a 64-bit one that the 32-bit reading keeps
    have mean : ∀ x : Int, EdgeSums.Spread x w.crops.length →
        IntType.i64.Holds (x.tdiv w.crops.length) ∧
          Word.wrap32 (x.tdiv w.crops.length) = x.tdiv w.crops.length := by
      intro x hx
      have h32 := IntType.holds_i32.mp (hx.tdiv_holds hn)
      exact ⟨IntType.holds_i64.mpr (by omega), Word.wrap32_of_mem (by omega) (by omega)⟩
    obtain ⟨t1, t2⟩ := mean _ ht
    obtain ⟨b1, b2⟩ := mean _ hb
    obtain ⟨l1, l2⟩ := mean _ hl
    obtain ⟨r1, r2⟩ := mean _ hr
    rw [IntType.div_of_holds hn0 t1, Checked.ok_bind, IntType.div_of_holds hn0 b1, Checked.ok_bind,
      IntType.div_of_holds hn0 l1, Checked.ok_bind, IntType.div_of_holds hn0 r1, Checked.ok_bind,
      t2, b2, l2, r2]
    rfl

end CropWindow

end FaceFraming
