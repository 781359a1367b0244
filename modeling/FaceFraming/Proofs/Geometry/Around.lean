import FaceFraming.Proofs.Framing.Remap

/-!
# The crop around a face

A face box may reach past the frame. What the frame shows of it is the box clipped to the frame
(`FaceBox.clip`): its corners brought into `[0, width] × [0, height]`, so that a box lying past the
right or bottom edge clips to an empty box on that edge. The clipped box's edges are the box's
own, each brought into the frame (`clip_right`, `clip_bottom`).

`Crop.around` cuts the frame down to that clipped box. On a frame whose sides are 32-bit signed
values, every cut is a 32-bit value and none is negative, so the crop's visible region
`[left, width - right) × [top, height - bottom)` is exactly the clipped box
(`around_left`, `around_right`, `around_top`, `around_bottom`); the crop is valid exactly when the
clipped box is not empty (`around_isValidFor_iff`), and the target aimed at the crop is the clipped
box's middle, with the clipped box's size, computed without overflow (`checkedOfCrop_around`).
The box of a whole frame of at most `65535 × 65535` pixels cuts nothing (`around_wholeFrame`).

The main statement is `Crop.around_frames_clip`.
-/

namespace FaceFraming

open Word

namespace FaceBox

variable (f : FaceBox) (W H : Nat)

theorem x_le_right : f.x ≤ f.right := Nat.le_add_right _ _

theorem y_le_bottom : f.y ≤ f.bottom := Nat.le_add_right _ _

@[simp] theorem clip_x : (f.clip W H).x = min f.x W := rfl

@[simp] theorem clip_y : (f.clip W H).y = min f.y H := rfl

@[simp] theorem clip_w : (f.clip W H).w = min f.right W - min f.x W := rfl

@[simp] theorem clip_h : (f.clip W H).h = min f.bottom H - min f.y H := rfl

/-- The clipped box ends where the box ends, or at the frame's edge if that comes first. -/
@[simp] theorem clip_right : (f.clip W H).right = min f.right W := by
  simp only [right, clip_x, clip_w]
  omega

@[simp] theorem clip_bottom : (f.clip W H).bottom = min f.bottom H := by
  simp only [bottom, clip_y, clip_h]
  omega

end FaceBox

namespace Crop

variable (f : FaceBox) {W H : Nat}

/-! ### The four cuts -/

/-- A cut of at most a frame side below `2^31` reads back as itself from its 32-bit word. -/
theorem wrap32_cut {side : Nat} (hs : side ≤ 2147483647) {v : Int} (h0 : 0 ≤ v) (hv : v ≤ side) :
    wrap32 v = v :=
  wrap32_of_mem (by omega) (by omega)

theorem around_left (hW : W ≤ 2147483647) : (around f W H).left = min f.x W := by
  simp only [around]
  rw [wrap32_cut hW (by omega) (by omega)]
  omega

theorem around_top (hH : H ≤ 2147483647) : (around f W H).top = min f.y H := by
  simp only [around]
  rw [wrap32_cut hH (by omega) (by omega)]
  omega

/-- The right cut removes the columns from where the box ends, clipped to the frame, to the frame's
right edge. -/
theorem around_right (hW : W ≤ 2147483647) : (around f W H).right = W - min f.right W := by
  simp only [around]
  rw [wrap32_cut hW (by omega) (by omega)]
  omega

theorem around_bottom (hH : H ≤ 2147483647) : (around f W H).bottom = H - min f.bottom H := by
  simp only [around]
  rw [wrap32_cut hH (by omega) (by omega)]
  omega

/-! ### What the crop leaves visible -/

theorem visibleWidth_around (hW : W ≤ 2147483647) :
    (around f W H).visibleWidth W = (f.clip W H).w := by
  have hw : wrap32 W = W := wrap32_cut hW (by omega) le_rfl
  have hxr := f.x_le_right
  rw [visibleWidth, hw, around_left f hW, around_right f hW, FaceBox.clip_w]
  omega

theorem visibleHeight_around (hH : H ≤ 2147483647) :
    (around f W H).visibleHeight H = (f.clip W H).h := by
  have hh : wrap32 H = H := wrap32_cut hH (by omega) le_rfl
  have hyb := f.y_le_bottom
  rw [visibleHeight, hh, around_top f hH, around_bottom f hH, FaceBox.clip_h]
  omega

/-- The crop around a box is valid exactly when the box shows in the frame on both axes. -/
theorem around_isValidFor_iff (hW : W ≤ 2147483647) (hH : H ≤ 2147483647) :
    (around f W H).isValidFor W H = true ↔ 0 < (f.clip W H).w ∧ 0 < (f.clip W H).h := by
  rw [isValidFor_iff (by omega) (by omega), around_left f hW, around_right f hW, around_top f hH,
    around_bottom f hH, FaceBox.clip_w, FaceBox.clip_h]
  omega

/-- The middle of the crop around a box is the middle of the clipped box, halves rounded down. -/
theorem center_around (hW : W ≤ 2147483647) (hH : H ≤ 2147483647) :
    (around f W H).center W H =
      ⟨((f.clip W H).x + (f.clip W H).w / 2 : Nat), ((f.clip W H).y + (f.clip W H).h / 2 : Nat)⟩ := by
  -- a visible length is not negative, so halving it toward zero is halving it down
  have hx := Int.tdiv_eq_ediv_of_nonneg (b := 2) (Int.natCast_nonneg (f.clip W H).w)
  have hy := Int.tdiv_eq_ediv_of_nonneg (b := 2) (Int.natCast_nonneg (f.clip W H).h)
  rw [center, visibleWidth_around f hW, visibleHeight_around f hH, hx, hy, around_left f hW,
    around_top f hH]
  simp only [FaceBox.clip_x, FaceBox.clip_y, Point.mk.injEq]
  omega

end Crop

/-- The target aimed at the crop around a box is the clipped box's middle, with the clipped box's
size, and no target when that middle is the origin; on a frame of 32-bit signed sides it is
computed without overflow. -/
theorem Target.checkedOfCrop_around (f : FaceBox) {W H : Nat} (hW : W ≤ 2147483647)
    (hH : H ≤ 2147483647) :
    checkedOfCrop (Crop.around f W H) W H =
      .ok (ofCenter? ((f.clip W H).x + (f.clip W H).w / 2 : Nat)
        ((f.clip W H).y + (f.clip W H).h / 2 : Nat) (f.clip W H).w (f.clip W H).h) := by
  rw [(checkedOfCrop_eq (Crop.around_narrow f (by omega) (by omega)) (by omega) (by omega)).1,
    ofCrop?, Crop.center_around f hW hH, Crop.visibleWidth_around f hW,
    Crop.visibleHeight_around f hH, Int.toNat_natCast, Int.toNat_natCast]

/-- A whole frame of at most `65535 × 65535` pixels is its own box, and the crop around it cuts
nothing. -/
theorem Crop.around_wholeFrame {W H : Nat} (hW : W ≤ 65535) (hH : H ≤ 65535) :
    around (FaceBox.wholeFrame W H) W H = identity := by
  have hw : sat16 W = W := Nat.min_eq_left hW
  have hh : sat16 H = H := Nat.min_eq_left hH
  have hl := around_left (FaceBox.wholeFrame W H) (H := H) (show W ≤ 2147483647 by omega)
  have hr := around_right (FaceBox.wholeFrame W H) (H := H) (show W ≤ 2147483647 by omega)
  have ht := around_top (FaceBox.wholeFrame W H) (W := W) (show H ≤ 2147483647 by omega)
  have hb := around_bottom (FaceBox.wholeFrame W H) (W := W) (show H ≤ 2147483647 by omega)
  rcases hc : around (FaceBox.wholeFrame W H) W H with ⟨t, b, l, r⟩
  rw [hc] at hl hr ht hb
  simp only [FaceBox.wholeFrame, FaceBox.right, FaceBox.bottom, hw, hh] at hl hr ht hb
  simp only [identity, Crop.mk.injEq]
  omega

/-- On a frame whose sides are 32-bit signed values, the crop around a face cuts no negative
amount and leaves visible exactly the face clipped to the frame, `[min(x, W), min(x + w, W)) ×
[min(y, H), min(y + h, H))`; it is valid exactly when that clipped box is not empty; the target
aimed at it is the clipped box's middle with the clipped box's size, and no target only when that
middle is the origin, computed without overflow. The box of a whole frame of at most
`65535 × 65535` pixels cuts nothing. -/
theorem Crop.around_frames_clip (f : FaceBox) {W H : Nat} (hW : W ≤ 2147483647)
    (hH : H ≤ 2147483647) :
    let c := around f W H
    let b := f.clip W H
    (0 ≤ c.top ∧ 0 ≤ c.bottom ∧ 0 ≤ c.left ∧ 0 ≤ c.right) ∧
      (c.left = min f.x W ∧ (W : Int) - c.right = min f.right W ∧
        c.top = min f.y H ∧ (H : Int) - c.bottom = min f.bottom H) ∧
      (c.isValidFor W H = true ↔ 0 < b.w ∧ 0 < b.h) ∧
      Target.checkedOfCrop c W H =
        .ok (if b.x + b.w / 2 = 0 ∧ b.y + b.h / 2 = 0 then none
          else some ⟨⟨(b.x + b.w / 2 : Nat), (b.y + b.h / 2 : Nat)⟩, b.w, b.h⟩) ∧
      (W ≤ 65535 → H ≤ 65535 → around (FaceBox.wholeFrame W H) W H = identity) := by
  dsimp only
  have hl := around_left f hW (H := H)
  have hr := around_right f hW (H := H)
  have ht := around_top f hH (W := W)
  have hb := around_bottom f hH (W := W)
  refine ⟨by omega, ⟨hl, by omega, ht, by omega⟩, around_isValidFor_iff f hW hH, ?_,
    fun hW' hH' => around_wholeFrame hW' hH'⟩
  rw [Target.checkedOfCrop_around f hW hH, Target.ofCenter?]
  -- the middle is the origin exactly when both of its natural coordinates are zero
  simp only [Nat.cast_eq_zero]

/-- The face of a `640 × 480` frame at `(160, 120)`, `100 × 100`: the crop cuts `120, 260, 160, 380`
and the target is the face's middle `(210, 170)` with its size. -/
theorem Crop.around_frames_clip_vga :
    (640 : Nat) ≤ 2147483647 ∧ (480 : Nat) ≤ 2147483647 ∧
      around ⟨160, 120, 100, 100, 90⟩ 640 480 = ⟨120, 260, 160, 380⟩ ∧
      Target.checkedOfCrop (around ⟨160, 120, 100, 100, 90⟩ 640 480) 640 480 =
        .ok (some ⟨⟨210, 170⟩, 100, 100⟩) := by
  have h := around_frames_clip ⟨160, 120, 100, 100, 90⟩ (W := 640) (H := 480) (by decide) (by decide)
  refine ⟨by decide, by decide, by decide, ?_⟩
  rw [h.2.2.2.1]
  rfl

end FaceFraming
