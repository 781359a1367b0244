import FaceFraming.Proofs.Geometry.Around

/-!
# The box around several faces

`FaceBox.union` merges face boxes into one: the least left and top edges, the greatest right and
bottom edges, and the mean confidence rounded down. The merged box has 16-bit parts like the boxes
it merges, so its size is the span between the extreme edges saturated at `65535`. The far edge of a
16-bit box reaches `131070`, so a span need not fit:

* the merged box starts at the least left and top edges, is as wide and high as the spans allow,
  and carries the mean confidence (`union_spans`);
* it is the smallest box enclosing every merged box (`FaceBox.IsHull`) exactly when both spans fit
  in 16 bits (`isHull_iff`); a wider span is cut to `65535` and the merged box misses the far
  part of the faces (`union_saturates_wide_span`).

The statements are about `FaceBox.union?`, the merge in the program's words. It adds the
confidences in 32 bits and divides by the count read as a 32-bit word; the statements hold where
that sum is a 32-bit value and there are fewer than `2^32` boxes.
-/

namespace FaceFraming

open Word

namespace FaceBox

/-- A box encloses another when it covers all of the other's columns and rows. -/
def Encloses (b f : FaceBox) : Prop :=
  b.x ≤ f.x ∧ f.right ≤ b.right ∧ b.y ≤ f.y ∧ f.bottom ≤ b.bottom

instance instDecidableEncloses (b f : FaceBox) : Decidable (b.Encloses f) :=
  inferInstanceAs (Decidable (_ ∧ _))

/-- The smallest box enclosing every box of a list. -/
structure IsHull (u : FaceBox) (fs : List FaceBox) : Prop where
  /-- It encloses each box. -/
  encloses : ∀ f ∈ fs, u.Encloses f
  /-- Every box enclosing each box encloses it. -/
  least : ∀ c : FaceBox, (∀ f ∈ fs, c.Encloses f) → c.Encloses u

/-! ### The extreme edges -/

/-- The least of the values a list of boxes gives is one of them, and at most each. -/
theorem min?_map_eq_some {k : FaceBox → Nat} {fs : List FaceBox} {m : Nat}
    (h : (fs.map k).min? = some m) : (∃ g ∈ fs, k g = m) ∧ ∀ f ∈ fs, m ≤ k f := by
  obtain ⟨hm, hle⟩ := List.min?_eq_some_iff.mp h
  obtain ⟨g, hg, rfl⟩ := List.mem_map.mp hm
  exact ⟨⟨g, hg, rfl⟩, fun f hf => hle _ (List.mem_map_of_mem hf)⟩

/-- The greatest of the values a list of boxes gives is one of them, and at least each. -/
theorem max?_map_eq_some {k : FaceBox → Nat} {fs : List FaceBox} {m : Nat}
    (h : (fs.map k).max? = some m) : (∃ g ∈ fs, k g = m) ∧ ∀ f ∈ fs, k f ≤ m := by
  obtain ⟨hm, hle⟩ := List.max?_eq_some_iff.mp h
  obtain ⟨g, hg, rfl⟩ := List.mem_map.mp hm
  exact ⟨⟨g, hg, rfl⟩, fun f hf => hle _ (List.mem_map_of_mem hf)⟩

/-- The least of the values of a non-empty list, as `union` folds it. -/
theorem foldl_min_eq {k : FaceBox → Nat} {f : FaceBox} {fs : List FaceBox} {m : Nat}
    (h : ((f :: fs).map k).min? = some m) : fs.foldl (fun a g => min a (k g)) (k f) = m := by
  rw [List.map_cons, List.min?_cons', List.foldl_map] at h
  exact Option.some.inj h

/-- The greatest of the values of a non-empty list, as `union` folds it. -/
theorem foldl_max_eq {k : FaceBox → Nat} {f : FaceBox} {fs : List FaceBox} {m : Nat}
    (h : ((f :: fs).map k).max? = some m) : fs.foldl (fun a g => max a (k g)) (k f) = m := by
  rw [List.map_cons, List.max?_cons', List.foldl_map] at h
  exact Option.some.inj h

/-! ### The smallest enclosing box -/

section Hull

variable {fs : List FaceBox} {X Y R B : Nat}

/-- The box from the least left and top edges `X, Y` of some boxes, as wide and high as their
greatest right and bottom edges `R, B` allow in 16 bits, is the smallest box enclosing them exactly
when both spans fit: each box lies inside it, and a box enclosing all of them reaches their extreme
edges. -/
theorem isHull_iff (hX : (fs.map FaceBox.x).min? = some X) (hY : (fs.map FaceBox.y).min? = some Y)
    (hR : (fs.map right).max? = some R) (hB : (fs.map bottom).max? = some B) (c : Nat) :
    (⟨X, Y, min (R - X) 65535, min (B - Y) 65535, c⟩ : FaceBox).IsHull fs ↔
      R - X ≤ 65535 ∧ B - Y ≤ 65535 := by
  obtain ⟨⟨gx, hgx, hgx'⟩, hxle⟩ := min?_map_eq_some hX
  obtain ⟨⟨gy, hgy, hgy'⟩, hyle⟩ := min?_map_eq_some hY
  obtain ⟨⟨gr, hgr, hgr'⟩, hrle⟩ := max?_map_eq_some hR
  obtain ⟨⟨gb, hgb, hgb'⟩, hble⟩ := max?_map_eq_some hB
  -- the least start is before the greatest end on each axis
  have hXR : X ≤ R := (hxle gr hgr).trans (hgr' ▸ gr.x_le_right)
  have hYB : Y ≤ B := (hyle gb hgb).trans (hgb' ▸ gb.y_le_bottom)
  constructor
  · -- the box reaching furthest on each axis must fit inside
    rintro ⟨henc, -⟩
    have hr := (henc gr hgr).2.1
    have hb := (henc gb hgb).2.2.2
    simp only [right, bottom] at hr hb hgr' hgb'
    omega
  · rintro ⟨hRX, hBY⟩
    refine ⟨fun f hf => ?_, fun d hd => ?_⟩
    · have hr := hrle f hf
      have hb := hble f hf
      refine ⟨hxle f hf, ?_, hyle f hf, ?_⟩ <;> simp only [right, bottom] at hr hb ⊢ <;> omega
    · -- a box enclosing every box encloses the ones at the extreme edges
      obtain ⟨hdx, -, -, -⟩ := hd gx hgx
      obtain ⟨-, hdr, -, -⟩ := hd gr hgr
      obtain ⟨-, -, hdy, -⟩ := hd gy hgy
      obtain ⟨-, -, -, hdb⟩ := hd gb hgb
      refine ⟨hgx' ▸ hdx, ?_, hgy' ▸ hdy, ?_⟩ <;> simp only [right, bottom] at hdr hdb hgr' hgb' ⊢ <;>
        omega

end Hull

/-! ### The merged box -/

/-- The mean of confidences of 16 bits is one. -/
theorem mean_confidence_le {fs : List FaceBox} (hf : ∀ f ∈ fs, f.Fits16) :
    (fs.map confidence).sum / fs.length ≤ u16Max := by
  have hle := foldl_confidence_le 0 hf
  rw [foldl_confidence_eq, Nat.zero_add] at hle
  unfold u16Max
  rcases Nat.eq_zero_or_pos fs.length with h0 | hpos
  · rw [h0, Nat.div_zero]
    omega
  · exact (Nat.div_le_iff_le_mul_add_pred hpos).mpr (by rw [Nat.mul_comm]; omega)

/-- The merged box of a non-empty list of 16-bit boxes starts at their least left and top edges, is
as wide and high as the spans to their greatest right and bottom edges allow in 16 bits, and has
their mean confidence. -/
theorem union_cons_eq {f : FaceBox} {fs : List FaceBox} (hf : ∀ g ∈ f :: fs, g.Fits16) {X Y R B : Nat}
    (hX : ((f :: fs).map FaceBox.x).min? = some X) (hY : ((f :: fs).map FaceBox.y).min? = some Y)
    (hR : ((f :: fs).map right).max? = some R) (hB : ((f :: fs).map bottom).max? = some B) :
    union (f :: fs) = some ⟨X, Y, min (R - X) 65535, min (B - Y) 65535,
      ((f :: fs).map confidence).sum / (f :: fs).length⟩ := by
  have hfx := (hf f (List.mem_cons_self ..)).x
  have hfy := (hf f (List.mem_cons_self ..)).y
  have hXf : X ≤ f.x := (min?_map_eq_some hX).2 f (List.mem_cons_self ..)
  have hYf : Y ≤ f.y := (min?_map_eq_some hY).2 f (List.mem_cons_self ..)
  have hc := mean_confidence_le hf
  rw [union, foldl_min_eq hX, foldl_min_eq hY, foldl_max_eq hR, foldl_max_eq hB,
    foldl_confidence_eq, Nat.zero_add]
  simp only [sat16, Nat.min_eq_left hc, Nat.min_eq_left (hXf.trans hfx),
    Nat.min_eq_left (hYf.trans hfy)]
  rfl

/-- The box `FaceBox.union` merges 16-bit boxes into, fewer than `2^32` of them with confidences
summing to a 32-bit value: none exactly for no boxes; otherwise the box at the least left and top
edges `X, Y`, as wide and high as the spans to the greatest right and bottom edges `R, B` allow in
16 bits, with the mean confidence rounded down. It is the smallest box enclosing every box exactly
when both spans fit in 16 bits. -/
theorem union_spans {fs : List FaceBox} (hf : ∀ f ∈ fs, f.Fits16) (hn : fs.length < 4294967296)
    (hs : (fs.map confidence).sum ≤ u32Max) :
    (union? fs = .ok none ↔ fs = []) ∧
      ∀ X Y R B, (fs.map FaceBox.x).min? = some X → (fs.map FaceBox.y).min? = some Y →
        (fs.map right).max? = some R → (fs.map bottom).max? = some B →
        let u : FaceBox :=
          ⟨X, Y, min (R - X) 65535, min (B - Y) 65535, (fs.map confidence).sum / fs.length⟩
        union? fs = .ok (some u) ∧ (u.IsHull fs ↔ R - X ≤ 65535 ∧ B - Y ≤ 65535) := by
  rw [union?_eq_of_sum hf hn hs]
  refine ⟨?_, fun X Y R B hX hY hR hB => ⟨?_, isHull_iff hX hY hR hB _⟩⟩
  · rw [Except.ok.injEq]
    exact union_eq_none_iff
  · cases fs with
    | nil => simp at hX
    | cons f fs => rw [union_cons_eq hf hX hY hR hB]

/-- Two faces, `50 × 50` at `(10, 20)` and `40 × 60` at `(200, 100)`, merge into the `230 × 140`
box at `(10, 20)` with their mean confidence `85`. -/
theorem union_spans_pair :
    (∀ f ∈ [(⟨10, 20, 50, 50, 80⟩ : FaceBox), ⟨200, 100, 40, 60, 90⟩], f.Fits16) ∧
      [(⟨10, 20, 50, 50, 80⟩ : FaceBox), ⟨200, 100, 40, 60, 90⟩].length < 4294967296 ∧
      ([(⟨10, 20, 50, 50, 80⟩ : FaceBox), ⟨200, 100, 40, 60, 90⟩].map confidence).sum ≤ u32Max ∧
      union? [⟨10, 20, 50, 50, 80⟩, ⟨200, 100, 40, 60, 90⟩] = .ok (some ⟨10, 20, 230, 140, 85⟩) := by
  have hf : ∀ f ∈ [(⟨10, 20, 50, 50, 80⟩ : FaceBox), ⟨200, 100, 40, 60, 90⟩], f.Fits16 := by
    intro f hf
    simp only [List.mem_cons, List.not_mem_nil, or_false] at hf
    rcases hf with rfl | rfl <;> exact ⟨by decide, by decide, by decide, by decide, by decide⟩
  have hn : [(⟨10, 20, 50, 50, 80⟩ : FaceBox), ⟨200, 100, 40, 60, 90⟩].length < 4294967296 := by
    decide
  have hs : ([(⟨10, 20, 50, 50, 80⟩ : FaceBox), ⟨200, 100, 40, 60, 90⟩].map confidence).sum ≤ u32Max := by
    decide
  exact ⟨hf, hn, hs, ((union_spans hf hn hs).2 10 20 240 160 rfl rfl rfl rfl).1⟩

/-- A face at the left edge and a face `65535` wide at column `65535` span `131070` columns; the
merged box is cut to `65535` columns and ends before the second face does. -/
theorem union_saturates_wide_span :
    union? [⟨0, 0, 1, 1, 90⟩, ⟨65535, 0, 65535, 1, 90⟩] = .ok (some ⟨0, 0, 65535, 1, 90⟩) ∧
      (⟨0, 0, 65535, 1, 90⟩ : FaceBox).right < (⟨65535, 0, 65535, 1, 90⟩ : FaceBox).right :=
  ⟨rfl, by decide⟩

end FaceBox

end FaceFraming
