import FaceFraming.Proofs.Tracking.Bounds
import Mathlib.Tactic.Linarith

/-!
# Which faces a crop shows

`remapFaces` carries face boxes of the full frame into a crop whose visible region is scaled back
up to the frame: on each axis a coordinate `v` becomes `(v - offset) · full / visible`, rounded
toward zero and clamped into the frame. This module says, for a crop valid for the frame, which
faces survive and what becomes of them.

On one axis the map sends every coordinate before the visible span to `0`, every one after it to
the side of the frame, and stretches the span by `full / visible ≥ 1` in between. So the two ends of
a face's span are sent apart exactly when the face's span and the visible one overlap in more than a
point (`remapCoordinate_lt_iff`). A face is therefore kept exactly when it meets the visible region
in a region of positive area (`Crop.Overlaps`), in input order and with its confidence, and every box
returned has sides of at least one pixel and lies inside the frame (`remapFaces_keeps`).

Through the crop that cuts nothing the map is the identity on the frame, so each kept face is the
face clipped to the frame (`FaceBox.clip`), and a face of positive size inside the frame comes back
unchanged.
-/

namespace FaceFraming

open Word

/-! ### One axis -/

section Axis

variable {o r F v : Int}

/-- A coordinate at or before the start of the visible span is sent to the start of the frame. -/
theorem remapCoordinate_of_le_offset (hF : 0 ≤ F) (hv : 0 < v) {a : Int} (ha : a ≤ o) :
    remapCoordinate a o F v = 0 := by
  have hnum : (a - o) * F ≤ 0 := by nlinarith
  have hq : ((a - o) * F).tdiv v ≤ 0 := by
    simpa only [Int.zero_tdiv] using Int.tdiv_le_tdiv hv hnum
  unfold remapCoordinate clampInt
  omega

/-- A coordinate at or past the end of the visible span is sent to the end of the frame. -/
theorem remapCoordinate_of_end_le (ho : 0 ≤ o) (hr : 0 ≤ r) (hv : v = F - o - r) (hpos : 0 < v)
    {a : Int} (ha : F - r ≤ a) : remapCoordinate a o F v = F := by
  have hF : 0 < F := by omega
  have hnum : F * v ≤ (a - o) * F := by
    rw [Int.mul_comm]
    exact Int.mul_le_mul_of_nonneg_right (by omega) (by omega)
  have hq : F ≤ ((a - o) * F).tdiv v := by
    rw [Int.tdiv_eq_ediv_of_nonneg (by nlinarith)]
    exact Int.le_ediv_of_mul_le hpos hnum
  unfold remapCoordinate clampInt
  omega

/-- A coordinate past the start of the visible span is sent at least one pixel into the frame:
the span is stretched by `full / visible ≥ 1`. -/
theorem one_le_remapCoordinate (ho : 0 ≤ o) (hr : 0 ≤ r) (hv : v = F - o - r) (hpos : 0 < v)
    {b : Int} (hb : o < b) : 1 ≤ remapCoordinate b o F v := by
  have hF : 0 < F := by omega
  have hnum : 1 * v ≤ (b - o) * F := by nlinarith
  have hq : 1 ≤ ((b - o) * F).tdiv v := by
    rw [Int.tdiv_eq_ediv_of_nonneg (by nlinarith)]
    exact Int.le_ediv_of_mul_le hpos hnum
  unfold remapCoordinate clampInt
  omega

/-- Inside the visible span the map stretches by at least one: a coordinate inside it is sent
strictly before any later coordinate. -/
theorem remapCoordinate_lt_of_inside (ho : 0 ≤ o) (hr : 0 ≤ r) (hv : v = F - o - r) (hpos : 0 < v)
    {a b : Int} (hoa : o < a) (haF : a < F - r) (hab : a < b) :
    remapCoordinate a o F v < remapCoordinate b o F v := by
  have hF : 0 < F := by omega
  -- the numerators, `(a - o) · F` and one at least `v` larger
  have hna : 0 ≤ (a - o) * F := by nlinarith
  have hgap : (a - o) * F + 1 * v ≤ (b - o) * F := by nlinarith
  have hlt : (a - o) * F < F * v := by nlinarith
  rw [remapCoordinate, remapCoordinate, Int.tdiv_eq_ediv_of_nonneg hna,
    Int.tdiv_eq_ediv_of_nonneg (by omega)]
  have qa : (a - o) * F / v < F := Int.ediv_lt_of_lt_mul hpos hlt
  have qa0 : 0 ≤ (a - o) * F / v := Int.ediv_nonneg hna hpos.le
  have qb : (a - o) * F / v + 1 ≤ (b - o) * F / v := by
    rw [← Int.add_mul_ediv_right _ _ hpos.ne']
    exact Int.ediv_le_ediv hpos hgap
  unfold clampInt
  omega

/-- The two ends of a span are sent apart exactly when the span and the visible one overlap in more
than a point. -/
theorem remapCoordinate_lt_iff (ho : 0 ≤ o) (hr : 0 ≤ r) (hv : v = F - o - r) (hpos : 0 < v)
    {a b : Int} (hab : a ≤ b) :
    remapCoordinate a o F v < remapCoordinate b o F v ↔ max a o < min b (F - r) := by
  have hF : 0 ≤ F := by omega
  constructor
  · intro hlt
    by_contra hout
    -- the span ends before the visible one starts, starts after it ends, or is a point
    rcases (show b ≤ o ∨ F - r ≤ a ∨ a = b by omega) with hb | ha | rfl
    · rw [remapCoordinate_of_le_offset hF hpos (hab.trans hb),
        remapCoordinate_of_le_offset hF hpos hb] at hlt
      exact lt_irrefl _ hlt
    · rw [remapCoordinate_of_end_le ho hr hv hpos ha,
        remapCoordinate_of_end_le ho hr hv hpos (ha.trans hab)] at hlt
      exact lt_irrefl _ hlt
    · exact lt_irrefl _ hlt
  · intro hin
    rcases le_or_gt a o with ha | ha
    · rw [remapCoordinate_of_le_offset hF hpos ha]
      exact one_le_remapCoordinate ho hr hv hpos (by omega)
    · exact remapCoordinate_lt_of_inside ho hr hv hpos ha (by omega) (by omega)

/-- Through the crop that cuts nothing a coordinate is only clipped to the frame. -/
theorem remapCoordinate_identity (hF : 0 < F) (a : Int) (ha : 0 ≤ a) :
    remapCoordinate a 0 F F = min a F := by
  rw [remapCoordinate, Int.sub_zero, Int.mul_tdiv_cancel _ hF.ne']
  unfold clampInt
  omega

end Axis

/-- A span `[x1, x2)` of a frame side with `x1 < x2`, its start and length clamped to 16 bits, is
at least one pixel long and still ends inside the frame. -/
theorem clamped_span {x1 x2 : Int} {W : Nat} (h0 : 0 ≤ x1) (h12 : x1 < x2) (h2 : x2 ≤ W) :
    1 ≤ (clampInt 0 u16Max (x2 - x1)).toNat ∧
      (clampInt 0 u16Max x1).toNat + (clampInt 0 u16Max (x2 - x1)).toNat ≤ W := by
  unfold clampInt u16Max
  omega

/-! ### Lists kept by a test -/

/-- A `filterMap` whose function gives a value exactly where `P` holds, each value related to its
entry, is related entry by entry to the `filter` by `P`. -/
theorem forall₂_filter_filterMap {α β : Type} {P : α → Prop} [DecidablePred P] {F : α → Option β}
    {R : α → β → Prop} :
    ∀ {l : List α}, (∀ a ∈ l, (F a).isSome ↔ P a) → (∀ a ∈ l, ∀ b, F a = some b → R a b) →
      List.Forall₂ R (l.filter fun a => P a) (l.filterMap F)
  | [], _, _ => .nil
  | a :: l, hP, hR => by
    have ih := forall₂_filter_filterMap (fun a' h => hP a' (List.mem_cons_of_mem a h))
      (fun a' h => hR a' (List.mem_cons_of_mem a h))
    rcases hF : F a with _ | b
    · have hPa : ¬P a := by simpa [hF] using hP a List.mem_cons_self
      simpa only [List.filter_cons, List.filterMap_cons, hF, hPa, decide_false, Bool.false_eq_true,
        ↓reduceIte] using ih
    · have hPa : P a := by simpa [hF] using hP a List.mem_cons_self
      simpa only [List.filter_cons, List.filterMap_cons, hF, hPa, decide_true, ↓reduceIte] using
        List.Forall₂.cons (hR a List.mem_cons_self b hF) ih

/-- A `filterMap` by a function that maps the entries where `P` holds and drops the others is the
`filter` by `P`, mapped. -/
theorem filterMap_eq_map_filter {α β : Type} {P : α → Prop} [DecidablePred P] {F : α → Option β}
    {G : α → β} {l : List α} (h : ∀ a ∈ l, F a = if P a then some (G a) else none) :
    l.filterMap F = (l.filter fun a => P a).map G := by
  have hrel : List.Forall₂ (fun a b => G a = b) (l.filter fun a => P a) (l.filterMap F) := by
    refine forall₂_filter_filterMap (fun a ha => ?_) (fun a ha b hb => ?_)
    · rw [h a ha]
      split_ifs with hP <;> simp [hP]
    · rw [h a ha] at hb
      split_ifs at hb
      exact Option.some_injective _ hb
  rw [← List.forall₂_map_left_iff, List.forall₂_eq_eq_eq] at hrel
  exact hrel.symm

/-! ### Faces -/

/-- A face box meets the region a crop leaves visible of a `W × H` frame in a region of positive
area: on each axis the box's span and the visible span overlap in more than a point. -/
def Crop.Overlaps (c : Crop) (W H : Nat) (f : FaceBox) : Prop :=
  max (f.x : Int) c.left < min (f.right : Int) (W - c.right) ∧
    max (f.y : Int) c.top < min (f.bottom : Int) (H - c.bottom)

instance Crop.decidableOverlaps (c : Crop) (W H : Nat) (f : FaceBox) :
    Decidable (c.Overlaps W H f) :=
  inferInstanceAs (Decidable (_ ∧ _))

/-- The part of a face box inside a `W × H` frame, with the box's confidence. -/
def FaceBox.clip (f : FaceBox) (W H : Nat) : FaceBox :=
  ⟨min f.x W, min f.y H, min f.right W - min f.x W, min f.bottom H - min f.y H, f.confidence⟩

/-- One face carried through a crop whose visible size is `vw × vh`, or nothing when it ends up
empty: the step `remapFaces` takes for each face. -/
def remapFace (c : Crop) (W H : Nat) (vw vh : Int) (f : FaceBox) : Option FaceBox :=
  let x1 := remapCoordinate f.x c.left W vw
  let x2 := remapCoordinate f.right c.left W vw
  let y1 := remapCoordinate f.y c.top H vh
  let y2 := remapCoordinate f.bottom c.top H vh
  if x2 - x1 ≤ 0 ∨ y2 - y1 ≤ 0 then none
  else some ⟨(clampInt 0 u16Max x1).toNat, (clampInt 0 u16Max y1).toNat,
    (clampInt 0 u16Max (x2 - x1)).toNat, (clampInt 0 u16Max (y2 - y1)).toNat, f.confidence⟩

theorem remapFaces_eq (c : Crop) (W H : Nat) (faces : List FaceBox) :
    remapFaces c W H faces =
      if c.visibleWidth W ≤ 0 ∨ c.visibleHeight H ≤ 0 then []
      else faces.filterMap (remapFace c W H (c.visibleWidth W) (c.visibleHeight H)) :=
  rfl

section Faces

variable {c : Crop} {W H : Nat}

/-- What a crop valid for a frame of sides below `2^31` leaves visible: no edge is negative, and
`W - left - right` columns and `H - top - bottom` rows, at least one of each, stay. -/
theorem visible_of_isValidFor (hc : c.isValidFor W H = true) (hW : W < 2147483648)
    (hH : H < 2147483648) :
    0 ≤ c.top ∧ 0 ≤ c.bottom ∧ 0 ≤ c.left ∧ 0 ≤ c.right ∧
      c.visibleWidth W = W - c.left - c.right ∧ 0 < c.visibleWidth W ∧
      c.visibleHeight H = H - c.top - c.bottom ∧ 0 < c.visibleHeight H := by
  obtain ⟨ht, hb, hl, hr, hlr, htb⟩ := (Crop.isValidFor_iff hW hH).mp hc
  have hw := wrap32_of_mem (show -2147483648 ≤ (W : Int) by omega) (by omega)
  have hh := wrap32_of_mem (show -2147483648 ≤ (H : Int) by omega) (by omega)
  have hvw : c.visibleWidth W = W - c.left - c.right := by rw [Crop.visibleWidth, hw]
  have hvh : c.visibleHeight H = H - c.top - c.bottom := by rw [Crop.visibleHeight, hh]
  exact ⟨ht, hb, hl, hr, hvw, by omega, hvh, by omega⟩

/-- A face comes through a valid crop exactly when it meets the visible region in a region of
positive area. -/
theorem remapFace_isSome (hc : c.isValidFor W H = true) (hW : W < 2147483648)
    (hH : H < 2147483648) (f : FaceBox) :
    (remapFace c W H (c.visibleWidth W) (c.visibleHeight H) f).isSome ↔ c.Overlaps W H f := by
  obtain ⟨ht, hb, hl, hr, hvw, hvw0, hvh, hvh0⟩ := visible_of_isValidFor hc hW hH
  have hx := remapCoordinate_lt_iff hl hr hvw hvw0
    (show (f.x : Int) ≤ (f.right : Int) by unfold FaceBox.right; omega)
  have hy := remapCoordinate_lt_iff ht hb hvh hvh0
    (show (f.y : Int) ≤ (f.bottom : Int) by unfold FaceBox.bottom; omega)
  rw [Crop.Overlaps, ← hx, ← hy, remapFace]
  split_ifs with hgone
  · simp only [Option.isSome_none, Bool.false_eq_true, false_iff]
    omega
  · simp only [Option.isSome_some, true_iff]
    omega

/-- Every box that comes through a crop keeps its confidence, has sides of at least one pixel and
lies inside the frame: both ends of each axis are sent into the frame, and apart. -/
theorem remapFace_box {vw vh : Int} {f g : FaceBox} (h : remapFace c W H vw vh f = some g) :
    g.confidence = f.confidence ∧ 1 ≤ g.w ∧ 1 ≤ g.h ∧ g.right ≤ W ∧ g.bottom ≤ H := by
  rw [remapFace] at h
  split_ifs at h with hgone
  cases h
  have x1 := remapCoordinate_mem (Int.natCast_nonneg W) f.x c.left vw
  have x2 := remapCoordinate_mem (Int.natCast_nonneg W) f.right c.left vw
  have y1 := remapCoordinate_mem (Int.natCast_nonneg H) f.y c.top vh
  have y2 := remapCoordinate_mem (Int.natCast_nonneg H) f.bottom c.top vh
  obtain ⟨hw, hwx⟩ := clamped_span x1.1 (by omega) x2.2
  obtain ⟨hh, hhy⟩ := clamped_span y1.1 (by omega) y2.2
  exact ⟨rfl, hw, hh, hwx, hhy⟩

/-- Through the crop that cuts nothing a 16-bit face that meets the frame comes out clipped to it,
and one that does not is dropped. -/
theorem remapFace_identity (hW0 : 0 < W) (hH0 : 0 < H) (hW : W < 2147483648) (hH : H < 2147483648)
    {f : FaceBox} (hf : f.Fits16) :
    remapFace Crop.identity W H (Crop.identity.visibleWidth W) (Crop.identity.visibleHeight H) f =
      if Crop.identity.Overlaps W H f then some (f.clip W H) else none := by
  have hvw : Crop.identity.visibleWidth W = W := by
    simp only [Crop.visibleWidth, Crop.identity, wrap32_of_mem (show -2147483648 ≤ (W : Int) by omega)
      (by omega), Int.sub_zero]
  have hvh : Crop.identity.visibleHeight H = H := by
    simp only [Crop.visibleHeight, Crop.identity, wrap32_of_mem (show -2147483648 ≤ (H : Int) by omega)
      (by omega), Int.sub_zero]
  have x1 := remapCoordinate_identity (show (0 : Int) < W by omega) f.x (by omega)
  have x2 := remapCoordinate_identity (show (0 : Int) < W by omega) f.right (by omega)
  have y1 := remapCoordinate_identity (show (0 : Int) < H by omega) f.y (by omega)
  have y2 := remapCoordinate_identity (show (0 : Int) < H by omega) f.bottom (by omega)
  have hedges : Crop.identity.top = 0 ∧ Crop.identity.bottom = 0 ∧ Crop.identity.left = 0 ∧
      Crop.identity.right = 0 := ⟨rfl, rfl, rfl, rfl⟩
  have hsides : f.right = f.x + f.w ∧ f.bottom = f.y + f.h := ⟨rfl, rfl⟩
  obtain ⟨fx, fy, fw, fh, -⟩ := hf
  unfold u16Max at fx fy fw fh
  rw [remapFace, hvw, hvh, hedges.1, hedges.2.2.1, x1, x2, y1, y2]
  by_cases hin : Crop.identity.Overlaps W H f
  · have hmeet := hin
    rw [Crop.Overlaps, hedges.1, hedges.2.1, hedges.2.2.1, hedges.2.2.2, Int.sub_zero,
      Int.sub_zero] at hmeet
    simp only [max_lt_iff, lt_min_iff] at hmeet
    rw [if_pos hin, if_neg (by omega)]
    simp only [Option.some.injEq, FaceBox.clip, FaceBox.mk.injEq, and_true]
    unfold clampInt u16Max
    omega
  · have hmiss := hin
    rw [Crop.Overlaps, hedges.1, hedges.2.1, hedges.2.2.1, hedges.2.2.2, Int.sub_zero,
      Int.sub_zero] at hmiss
    simp only [max_lt_iff, lt_min_iff] at hmiss
    rw [if_neg hin, if_pos (by omega)]

/-- A box of positive size inside the frame meets the whole frame in a region of positive area. -/
theorem overlaps_identity_of_inside {f : FaceBox} (hw : 1 ≤ f.w) (hh : 1 ≤ f.h) (hr : f.right ≤ W)
    (hb : f.bottom ≤ H) : Crop.identity.Overlaps W H f := by
  simp only [Crop.Overlaps, Crop.identity, Int.sub_zero, max_lt_iff, lt_min_iff]
  unfold FaceBox.right FaceBox.bottom at *
  omega

/-- Clipping to the frame leaves a box inside it as it is. -/
theorem FaceBox.clip_of_inside {f : FaceBox} (hr : f.right ≤ W) (hb : f.bottom ≤ H) :
    f.clip W H = f := by
  have hx : min f.x W = f.x := Nat.min_eq_left (by unfold FaceBox.right at hr; omega)
  have hy : min f.y H = f.y := Nat.min_eq_left (by unfold FaceBox.bottom at hb; omega)
  rw [FaceBox.clip, hx, hy, Nat.min_eq_left hr, Nat.min_eq_left hb, FaceBox.right, FaceBox.bottom,
    Nat.add_sub_cancel_left, Nat.add_sub_cancel_left]

end Faces

/-! ### Faces through a crop -/

/-- Through a crop valid for a frame whose sides are 32-bit signed values, the faces kept are
exactly those that meet the visible region in a region of positive area, in input order, each with
its confidence and with a box of sides at least one pixel inside the frame. Through the crop that
cuts nothing each kept face is the face clipped to the frame, so faces of positive size inside the
frame come back unchanged. -/
theorem remapFaces_keeps {c : Crop} {W H : Nat} (hc : c.isValidFor W H = true)
    (hW : W ≤ 2147483647) (hH : H ≤ 2147483647) (faces : List FaceBox)
    (hf : ∀ f ∈ faces, f.Fits16) :
    List.Forall₂
        (fun f g => g.confidence = f.confidence ∧ 1 ≤ g.w ∧ 1 ≤ g.h ∧ g.right ≤ W ∧ g.bottom ≤ H)
        (faces.filter fun f => c.Overlaps W H f) (remapFaces c W H faces) ∧
      (c = Crop.identity →
        remapFaces c W H faces = (faces.filter fun f => c.Overlaps W H f).map (FaceBox.clip · W H) ∧
          ((∀ f ∈ faces, 1 ≤ f.w ∧ 1 ≤ f.h ∧ f.right ≤ W ∧ f.bottom ≤ H) →
            remapFaces c W H faces = faces)) := by
  have hW' : W < 2147483648 := by omega
  have hH' : H < 2147483648 := by omega
  obtain ⟨-, -, -, -, hvw, hvw0, hvh, hvh0⟩ := visible_of_isValidFor hc hW' hH'
  have hkept : remapFaces c W H faces =
      faces.filterMap (remapFace c W H (c.visibleWidth W) (c.visibleHeight H)) := by
    rw [remapFaces_eq, if_neg (by omega)]
  refine ⟨hkept ▸ forall₂_filter_filterMap (fun f _ => remapFace_isSome hc hW' hH' f)
    (fun _ _ _ hg => remapFace_box hg), ?_⟩
  rintro rfl
  rw [hvw] at hvw0
  rw [hvh] at hvh0
  have hW0 : 0 < W := by simp only [Crop.identity, Int.sub_zero] at hvw0; omega
  have hH0 : 0 < H := by simp only [Crop.identity, Int.sub_zero] at hvh0; omega
  have hclip : remapFaces Crop.identity W H faces =
      (faces.filter fun f => Crop.identity.Overlaps W H f).map (FaceBox.clip · W H) :=
    hkept.trans (filterMap_eq_map_filter fun f hmem => remapFace_identity hW0 hH0 hW' hH' (hf f hmem))
  refine ⟨hclip, fun hinside => ?_⟩
  -- every face is kept, and clipping leaves it as it is
  have hall : (faces.filter fun f => Crop.identity.Overlaps W H f) = faces :=
    List.filter_eq_self.mpr fun f hmem => by
      obtain ⟨hw, hh, hr, hb⟩ := hinside f hmem
      exact decide_eq_true (overlaps_identity_of_inside hw hh hr hb)
  rw [hclip, hall]
  exact (List.map_congr_left fun f hmem =>
    FaceBox.clip_of_inside (hinside f hmem).2.2.1 (hinside f hmem).2.2.2).trans (List.map_id' faces)

/-- The crop cutting 160 columns on each side and 120 rows at top and bottom of a 640 × 480 frame,
with one face inside its visible region, one outside it, and one across its top-left corner. -/
theorem remapFaces_keeps_scaled :
    let c : Crop := ⟨120, 120, 160, 160⟩
    let faces : List FaceBox := [⟨200, 150, 50, 40, 90⟩, ⟨10, 10, 50, 50, 90⟩, ⟨140, 100, 40, 40, 90⟩]
    c.isValidFor 640 480 = true ∧ (∀ f ∈ faces, f.Fits16) ∧
      List.Forall₂
        (fun f g => g.confidence = f.confidence ∧ 1 ≤ g.w ∧ 1 ≤ g.h ∧ g.right ≤ 640 ∧ g.bottom ≤ 480)
        (faces.filter fun f => c.Overlaps 640 480 f) (remapFaces c 640 480 faces) := by
  intro c faces
  have hc : c.isValidFor 640 480 = true := by decide
  have hf : ∀ f ∈ faces, f.Fits16 := by
    intro f hmem
    simp only [faces, List.mem_cons, List.not_mem_nil, or_false] at hmem
    rcases hmem with rfl | rfl | rfl <;> exact ⟨by decide, by decide, by decide, by decide, by decide⟩
  exact ⟨hc, hf, (remapFaces_keeps hc (by decide) (by decide) faces hf).1⟩

example : remapFaces ⟨120, 120, 160, 160⟩ 640 480
    [⟨200, 150, 50, 40, 90⟩, ⟨10, 10, 50, 50, 90⟩, ⟨140, 100, 40, 40, 90⟩] =
      [⟨80, 60, 100, 80, 90⟩, ⟨0, 0, 40, 40, 90⟩] := by
  decide

end FaceFraming
