import FaceFraming.Proofs.Planner.Overflow
import FaceFraming.Proofs.Planner.CropFits
import FaceFraming.Tracking.Checked
import FaceFraming.Proofs.Smoothing.Words

/-!
# Face boxes, crops and windows in their words

The parts of a tracker update that compute with integers, with the bounds under which each computes
in its words exactly what the unchecked definition computes:

* a face box read from a detection document has 16-bit parts (`FaceBox.Fits16`), so its edges and
  area are 32-bit values, and the mean confidence of such boxes is computed in 32 bits whenever
  their confidences sum to a 32-bit value (`union?_eq_of_sum`), as those of at most `65537` boxes
  always do (`union?_eq`; the bound is exact, `65537 · 65535 = 2^32 - 1`);
* a crop around a face in a frame of sides below `2^31` is narrow (`Crop.Narrow`): no edge is
  negative and the two cuts of an axis stay below `2^31` together; so are the crops the planner
  places, and the mean of narrow crops (`average_narrow`);
* a window of at most `2^32` narrow crops keeps its sums in 64 bits (`push?_eq`, `average?_eq`),
  and the smoother's frame counter, below the largest 32-bit word, steps in 32 bits
  (`needsUpdate?_eq`);
* a narrow crop on a frame of sides below `2^31` has a visible size and a center of 32 bits
  (`checkedOfCrop_eq`), and remaps 16-bit faces in 64-bit words (`remapFaces?_eq`).
-/

namespace FaceFraming

open Word

/-! ### Lists of checked computations -/

namespace Checked

variable {α β : Type}

theorem mapM_eq_ok {f : α → Checked β} {g : α → β} :
    ∀ {l : List α}, (∀ a ∈ l, f a = .ok (g a)) → l.mapM f = .ok (l.map g)
  | [], _ => rfl
  | a :: l, h => by
    rw [List.mapM_cons, h a (List.mem_cons_self ..), ok_bind,
      mapM_eq_ok (fun b hb => h b (List.mem_cons_of_mem _ hb))]
    rfl

theorem filterMapM_eq_ok {f : α → Checked (Option β)} {g : α → Option β} :
    ∀ {l : List α}, (∀ a ∈ l, f a = .ok (g a)) → l.filterMapM f = .ok (l.filterMap g)
  | [], _ => rfl
  | a :: l, h => by
    have ih := filterMapM_eq_ok (l := l) (fun b hb => h b (List.mem_cons_of_mem _ hb))
    rw [List.filterMapM_cons, h a (List.mem_cons_self ..), ok_bind, List.filterMap_cons]
    cases g a with
    | none => exact ih
    | some b =>
      rw [ih]
      rfl

end Checked

/-! ### Face boxes -/

namespace FaceBox

/-- A face box with 16-bit parts, as a detection document gives them. -/
structure Fits16 (f : FaceBox) : Prop where
  x : f.x ≤ u16Max
  y : f.y ≤ u16Max
  w : f.w ≤ u16Max
  h : f.h ≤ u16Max
  confidence : f.confidence ≤ u16Max

variable {f : FaceBox}

theorem right?_eq (hf : f.Fits16) : f.right? = .ok (f.right : Int) := by
  have hx := hf.x
  have hw := hf.w
  unfold u16Max at hx hw
  rw [right?, IntType.add_of_holds (by rw [IntType.holds_u32]; omega), right, Nat.cast_add]

theorem bottom?_eq (hf : f.Fits16) : f.bottom? = .ok (f.bottom : Int) := by
  have hy := hf.y
  have hh := hf.h
  unfold u16Max at hy hh
  rw [bottom?, IntType.add_of_holds (by rw [IntType.holds_u32]; omega), bottom, Nat.cast_add]

/-- The area of a 16-bit box is at most `65535^2`, below `2^32`. -/
theorem area?_eq (hf : f.Fits16) : f.area? = .ok (f.area : Int) := by
  have harea : f.w * f.h ≤ 65535 * 65535 := Nat.mul_le_mul hf.w hf.h
  rw [area?, IntType.mul_of_holds (by rw [IntType.holds_u32, ← Nat.cast_mul]; omega), area,
    Nat.cast_mul]

/-- The confidences added up from `s` are `s` and their sum. -/
theorem foldl_confidence_eq :
    ∀ (l : List FaceBox) (s : Nat), l.foldl (fun t g => t + g.confidence) s = s + (l.map confidence).sum
  | [], _ => rfl
  | g :: l, s => by
    rw [List.foldl_cons, foldl_confidence_eq l, List.map_cons, List.sum_cons, Nat.add_assoc]

/-- The confidences summed in 32 bits, from `s`, are the sum whenever the whole sum is a 32-bit
value: no partial sum is larger than the whole. -/
theorem foldlM_confidence :
    ∀ {l : List FaceBox} (s : Nat), s + (l.map confidence).sum ≤ u32Max →
      l.foldlM (fun (t : Int) g => IntType.u32.add t g.confidence) (s : Int) =
        .ok (l.foldl (fun t g => t + g.confidence) s : Nat)
  | [], _, _ => rfl
  | g :: l, s, hs => by
    rw [List.map_cons, List.sum_cons] at hs
    unfold u32Max at hs
    rw [List.foldlM_cons, IntType.add_of_holds (by rw [IntType.holds_u32]; omega), Checked.ok_bind,
      ← Nat.cast_add, foldlM_confidence (s + g.confidence) (by unfold u32Max; omega)]
    rfl

/-- Confidences of 16 bits add at most `65535` each. -/
theorem foldl_confidence_le :
    ∀ {l : List FaceBox} (s : Nat), (∀ g ∈ l, g.Fits16) →
      l.foldl (fun t g => t + g.confidence) s ≤ s + 65535 * l.length
  | [], _, _ => by simp
  | g :: l, s, hl => by
    have hg := (hl g (List.mem_cons_self ..)).confidence
    have ih := foldl_confidence_le (s + g.confidence) (fun g' hg' => hl g' (List.mem_cons_of_mem _ hg'))
    unfold u16Max at hg
    rw [List.foldl_cons, List.length_cons]
    omega

/-- The least of some values and a start is at most the start. -/
theorem foldl_min_le (k : FaceBox → Nat) :
    ∀ (l : List FaceBox) (m : Nat), l.foldl (fun a g => min a (k g)) m ≤ m
  | [], _ => le_rfl
  | _ :: l, _ => (foldl_min_le k l _).trans (Nat.min_le_left _ _)

/-- The greatest of some values and a start is at least the start. -/
theorem le_foldl_max (k : FaceBox → Nat) :
    ∀ (l : List FaceBox) (m : Nat), m ≤ l.foldl (fun a g => max a (k g)) m
  | [], _ => le_rfl
  | _ :: l, _ => (Nat.le_max_left _ _).trans (le_foldl_max k l _)

/-- The greatest of values below a bound, from a start below it, is below it. -/
theorem foldl_max_le (k : FaceBox → Nat) {B : Nat} :
    ∀ (l : List FaceBox) (m : Nat), m ≤ B → (∀ g ∈ l, k g ≤ B) →
      l.foldl (fun a g => max a (k g)) m ≤ B
  | [], _, hm, _ => hm
  | g :: l, _, hm, hl =>
    foldl_max_le k l _ (Nat.max_le.mpr ⟨hm, hl g (List.mem_cons_self ..)⟩)
      (fun g' hg' => hl g' (List.mem_cons_of_mem _ hg'))

/-- The greatest of some values read as integers is the greatest of the values. -/
theorem foldl_max_natCast (k : FaceBox → Nat) :
    ∀ (l : List FaceBox) (m : Nat),
      (l.map fun g => (k g : Int)).foldl max (m : Int) = (l.foldl (fun a g => max a (k g)) m : Nat)
  | [], _ => rfl
  | g :: l, _ => by
    rw [List.map_cons, List.foldl_cons, List.foldl_cons, ← Nat.cast_max, foldl_max_natCast k l]

/-- The greatest edge of a non-empty list, taken from zero over the edges read as integers. -/
theorem foldl_max_edges (k : FaceBox → Nat) (f : FaceBox) (fs : List FaceBox) :
    ((f :: fs).map fun g => (k g : Int)).foldl max 0 = (fs.foldl (fun a g => max a (k g)) (k f) : Nat) := by
  rw [List.map_cons, List.foldl_cons, show max (0 : Int) (k f) = ((k f : Nat) : Int) by omega,
    foldl_max_natCast]

/-- The box around boxes whose greatest edge `r` is past their least start `x` is `r - x` wide in
32-bit words. -/
theorem sub_edges {x r : Nat} (hxr : x ≤ r) (hr : r ≤ u32Max) :
    IntType.u32.sub (r : Int) (x : Int) = .ok ((r - x : Nat) : Int) := by
  unfold u32Max at hr
  rw [IntType.sub_of_holds (by rw [IntType.holds_u32]; omega)]
  congr 1
  omega

/-- Boxes of 16 bits, fewer than `2^32` of them, whose confidences sum to a 32-bit value are merged
in 32-bit words: their edges reach at most `2 · 65535`, no partial sum of the confidences leaves
its word, and the count is its own 32-bit word. -/
theorem union?_eq_of_sum {fs : List FaceBox} (hf : ∀ f ∈ fs, f.Fits16) (hn : fs.length < 4294967296)
    (hs : (fs.map confidence).sum ≤ u32Max) : union? fs = .ok (union fs) := by
  cases fs with
  | nil => rfl
  | cons f fs =>
    have hall : ∀ g ∈ f :: fs, g.Fits16 := hf
    have hedge : ∀ g ∈ f :: fs, g.right ≤ 131070 ∧ g.bottom ≤ 131070 := fun g hg => by
      obtain ⟨hx, hy, hw, hh, -⟩ := hall g hg
      unfold right bottom
      unfold u16Max at hx hy hw hh
      omega
    -- the least start of each axis is before its greatest end, and both are 32-bit values
    have hxr : fs.foldl (fun m g => min m g.x) f.x ≤ fs.foldl (fun m g => max m g.right) f.right :=
      (foldl_min_le _ fs f.x).trans ((Nat.le_add_right _ _).trans (le_foldl_max _ fs f.right))
    have hyb : fs.foldl (fun m g => min m g.y) f.y ≤ fs.foldl (fun m g => max m g.bottom) f.bottom :=
      (foldl_min_le _ fs f.y).trans ((Nat.le_add_right _ _).trans (le_foldl_max _ fs f.bottom))
    have hr := foldl_max_le (fun g => g.right) fs f.right
      (hedge f (List.mem_cons_self ..)).1 (fun g hg => (hedge g (List.mem_cons_of_mem _ hg)).1)
    have hb := foldl_max_le (fun g => g.bottom) fs f.bottom
      (hedge f (List.mem_cons_self ..)).2 (fun g hg => (hedge g (List.mem_cons_of_mem _ hg)).2)
    -- the confidences sum in 32 bits, and the count is its own 32-bit word
    have hsum := foldlM_confidence (l := f :: fs) 0 (by rw [Nat.zero_add]; exact hs)
    rw [Nat.cast_zero] at hsum
    have hlen : (f :: fs).length % 4294967296 = (f :: fs).length := Nat.mod_eq_of_lt hn
    have hdiv : IntType.u32.div ((f :: fs).foldl (fun t g => t + g.confidence) 0 : Nat)
        ((f :: fs).length % 4294967296 : Nat) =
        .ok (((f :: fs).foldl (fun t g => t + g.confidence) 0 / (f :: fs).length : Nat) : Int) := by
      have hle : (f :: fs).foldl (fun t g => t + g.confidence) 0 ≤ u32Max := by
        rw [foldl_confidence_eq, Nat.zero_add]
        exact hs
      have hq := Nat.div_le_self ((f :: fs).foldl (fun t g => t + g.confidence) 0) (f :: fs).length
      unfold u32Max at hle
      rw [hlen, Int.ofNat_tdiv, IntType.div_of_holds (by rw [List.length_cons]; omega)]
      rw [← Int.ofNat_tdiv, IntType.holds_u32]
      generalize (f :: fs).foldl (fun t g => t + g.confidence) 0 / (f :: fs).length = q at hq
      omega
    simp only [union?, Checked.mapM_eq_ok (fun g hg => right?_eq (hall g hg)),
      Checked.mapM_eq_ok (fun g hg => bottom?_eq (hall g hg)), Checked.ok_bind, hsum, hdiv,
      foldl_max_edges, sub_edges hxr (by unfold u32Max; omega), sub_edges hyb (by unfold u32Max; omega)]
    rfl

/-- At most `65537` boxes of 16 bits are merged in 32-bit words: their confidences sum to at most
`65537 · 65535 = 2^32 - 1`. -/
theorem union?_eq {fs : List FaceBox} (hf : ∀ f ∈ fs, f.Fits16) (hn : fs.length ≤ 65537) :
    union? fs = .ok (union fs) := by
  have hle := foldl_confidence_le 0 hf
  rw [foldl_confidence_eq, Nat.zero_add] at hle
  exact union?_eq_of_sum hf (by omega) (by unfold u32Max; omega)

/-- The widest-face search over 16-bit boxes compares areas computed in 32 bits. -/
theorem foldlM_widest :
    ∀ {rest : List FaceBox} (f : FaceBox), f.Fits16 → (∀ g ∈ rest, g.Fits16) →
      rest.foldlM (fun widest g => do
          let a ← g.area?
          let b ← widest.area?
          pure (if b < a then g else widest)) f =
        .ok (rest.foldl (fun widest g => if widest.area < g.area then g else widest) f)
  | [], _, _, _ => rfl
  | g :: rest, f, hf, hl => by
    have hg := hl g (List.mem_cons_self ..)
    have hnext : (if f.area < g.area then g else f).Fits16 := by
      split
      · exact hg
      · exact hf
    simp only [List.foldlM_cons, area?_eq hg, area?_eq hf, Checked.ok_bind, pure_bind, Nat.cast_lt]
    exact foldlM_widest _ hnext (fun g' hg' => hl g' (List.mem_cons_of_mem _ hg'))

end FaceBox

/-- A value clamped to the 16-bit range is a 16-bit value. -/
theorem Detection.clampToU16_le (i : Int) : Detection.clampToU16 i ≤ u16Max := by
  have h := clampInt_le (show (0 : Int) ≤ u16Max by decide) i
  unfold Detection.clampToU16
  omega

/-- The faces of an entry have 16-bit parts: each is clamped to the 16-bit range. -/
theorem Detection.faceOfEntry?_fits16 {e : Json.Value} {f : FaceBox}
    (h : Detection.faceOfEntry? e = some f) : f.Fits16 := by
  unfold Detection.faceOfEntry? at h
  split at h
  · cases h
  · simp only [bind, Option.bind_eq_some_iff, Option.some.injEq] at h
    obtain ⟨c, -, x, -, y, -, w, -, hh, -, rfl⟩ := h
    exact ⟨Detection.clampToU16_le x, Detection.clampToU16_le y, Detection.clampToU16_le w,
      Detection.clampToU16_le hh, Detection.clampToU16_le c⟩

/-- The faces read from any document have 16-bit parts, and there are at most `cap` of them. -/
theorem Detection.readFaces_fits16 (bs : List UInt8) (threshold cap : Nat) :
    (∀ f ∈ Detection.readFaces bs threshold cap, f.Fits16) ∧
      (Detection.readFaces bs threshold cap).length ≤ cap := by
  unfold Detection.readFaces Detection.readFaces?
  cases Detection.entries? bs with
  | none => exact ⟨fun f hf => absurd hf List.not_mem_nil, Nat.zero_le _⟩
  | some es =>
    refine ⟨fun f hf => ?_, List.length_take_le _ _⟩
    -- a face kept is the face of some entry
    obtain ⟨e, -, he⟩ := List.mem_filterMap.mp (List.mem_filter.mp (List.mem_of_mem_take hf)).1
    exact Detection.faceOfEntry?_fits16 he

/-- The face a tracker tracks, among at most `65537` boxes of 16 bits, is chosen in 32-bit words. -/
theorem Tracker.select?_eq {t : Tracker} (hf : ∀ f ∈ t.faces, f.Fits16)
    (hn : t.faces.length ≤ 65537) : t.select? = .ok t.select := by
  rcases hfs : t.faces with _ | ⟨f, _ | ⟨g, rest⟩⟩
  · simp only [Tracker.select?, Tracker.select, hfs]
    rfl
  · simp only [Tracker.select?, Tracker.select, hfs]
    rfl
  · rw [hfs] at hf hn
    simp only [Tracker.select?, Tracker.select, hfs]
    split
    · rw [FaceBox.foldlM_widest f (hf f (List.mem_cons_self ..))
        (fun g' hg' => hf g' (List.mem_cons_of_mem _ hg'))]
      rfl
    · exact FaceBox.union?_eq hf hn

/-! ### Narrow crops -/

namespace Crop

/-- A crop with no negative edge whose two cuts on each axis together stay below `2^31`. -/
structure Narrow (c : Crop) : Prop where
  top : 0 ≤ c.top
  bottom : 0 ≤ c.bottom
  left : 0 ≤ c.left
  right : 0 ≤ c.right
  across : c.left + c.right < 2147483648
  down : c.top + c.bottom < 2147483648

theorem identity_narrow : identity.Narrow :=
  ⟨le_rfl, le_rfl, le_rfl, le_rfl, by decide, by decide⟩

/-- The crop around any face in a frame of sides below `2^31` is narrow: each cut is at most the
side, and so are the two cuts of an axis together. -/
theorem around_narrow (f : FaceBox) {W H : Nat} (hW : W < 2147483648) (hH : H < 2147483648) :
    (around f W H).Narrow := by
  have hx : wrap32 (min (f.x : Int) W) = min (f.x : Int) W := wrap32_of_mem (by omega) (by omega)
  have hy : wrap32 (min (f.y : Int) H) = min (f.y : Int) H := wrap32_of_mem (by omega) (by omega)
  have hr : wrap32 (max ((W : Int) - f.right) 0) = max ((W : Int) - f.right) 0 :=
    wrap32_of_mem (by omega) (by omega)
  have hb : wrap32 (max ((H : Int) - f.bottom) 0) = max ((H : Int) - f.bottom) 0 :=
    wrap32_of_mem (by omega) (by omega)
  simp only [around, hx, hy, hr, hb]
  unfold FaceBox.right FaceBox.bottom
  refine ⟨?_, ?_, ?_, ?_, ?_, ?_⟩ <;> dsimp only <;> omega

/-- A crop valid for a frame of sides below `2^31` is narrow. -/
theorem narrow_of_isValidFor {c : Crop} {W H : Nat} (hW : W < 2147483648) (hH : H < 2147483648)
    (h : c.isValidFor W H = true) : c.Narrow := by
  obtain ⟨ht, hb, hl, hr, hlr, htb⟩ := (Crop.isValidFor_iff hW hH).mp h
  exact ⟨ht, hb, hl, hr, by omega, by omega⟩

/-- A narrow crop has 32-bit edges: each is at most the two cuts of its axis together. -/
theorem Narrow.inWords {c : Crop} (h : c.Narrow) : c.InWords := by
  obtain ⟨ht, hb, hl, hr, hlr, htb⟩ := h
  simp only [Crop.InWords, IntType.holds_i32]
  omega

/-- On a side below `2^31`, two cuts that are not negative and stay below `2^31` together leave a
32-bit visible length, computed in 32-bit words. -/
theorem visible?_eq {side : Nat} (hs : side < 2147483648) {a b : Int} (ha : 0 ≤ a) (hb : 0 ≤ b)
    (hab : a + b < 2147483648) :
    (do let x ← IntType.i32.sub (wrap32 side) a; IntType.i32.sub x b) =
      (.ok (wrap32 side - a - b) : Checked Int) := by
  have hw : wrap32 side = side := wrap32_of_mem (by omega) (by omega)
  rw [hw, IntType.sub_of_holds (by rw [IntType.holds_i32]; omega), Checked.ok_bind,
    IntType.sub_of_holds (by rw [IntType.holds_i32]; omega)]

variable {c : Crop} {W H : Nat}

theorem visibleWidth?_eq (hc : c.Narrow) (hW : W < 2147483648) :
    c.visibleWidth? W = .ok (c.visibleWidth W) :=
  visible?_eq hW hc.left hc.right hc.across

theorem visibleHeight?_eq (hc : c.Narrow) (hH : H < 2147483648) :
    c.visibleHeight? H = .ok (c.visibleHeight H) :=
  visible?_eq hH hc.top hc.bottom hc.down

/-- Half a value, rounded toward zero, lies between zero and the value. -/
theorem tdiv_two_mem (v : Int) : min 0 v ≤ v.tdiv 2 ∧ v.tdiv 2 ≤ max 0 v := by
  by_cases hv : 0 ≤ v
  · rw [Int.tdiv_eq_ediv_of_nonneg hv]
    omega
  · have hneg : v.tdiv 2 = -((-v).tdiv 2) := by rw [Int.neg_tdiv, neg_neg]
    rw [hneg, Int.tdiv_eq_ediv_of_nonneg (by omega)]
    omega

/-- The middle of the visible part of an axis, a cut `a` plus half the visible length `v`, lies
between `a` and `a + v`; so when both are 32-bit values, half the length and the middle are too. -/
theorem middle_holds {a v : Int} (ha : IntType.i32.Holds a) (hv : IntType.i32.Holds (a + v))
    (hv' : IntType.i32.Holds v) :
    IntType.i32.Holds (v.tdiv 2) ∧ IntType.i32.Holds (a + v.tdiv 2) := by
  have hm := tdiv_two_mem v
  rw [IntType.holds_i32] at ha hv hv'
  rw [IntType.holds_i32, IntType.holds_i32]
  omega

/-- A narrow crop of a frame of sides below `2^31` has its visible size and center in 32-bit words,
and the center is a 32-bit point. -/
theorem center?_eq (hc : c.Narrow) (hW : W < 2147483648) (hH : H < 2147483648) :
    c.center? W H = .ok (c.center W H) ∧ (c.center W H).InWords := by
  have ⟨ht, hb, hl, hr, hlr, htb⟩ := hc
  have hw : wrap32 W = W := wrap32_of_mem (by omega) (by omega)
  have hh : wrap32 H = H := wrap32_of_mem (by omega) (by omega)
  -- on each axis the cut, the visible length and the end of the visible part are 32-bit values
  have hx := middle_holds (a := c.left) (v := c.visibleWidth W)
    (by rw [IntType.holds_i32]; omega) (by rw [IntType.holds_i32, visibleWidth, hw]; omega)
    (by rw [IntType.holds_i32, visibleWidth, hw]; omega)
  have hy := middle_holds (a := c.top) (v := c.visibleHeight H)
    (by rw [IntType.holds_i32]; omega) (by rw [IntType.holds_i32, visibleHeight, hh]; omega)
    (by rw [IntType.holds_i32, visibleHeight, hh]; omega)
  have h2 : (2 : Int) ≠ 0 := by decide
  rw [center?, visibleWidth?_eq hc hW, Checked.ok_bind, IntType.div_of_holds h2 hx.1,
    Checked.ok_bind, IntType.add_of_holds hx.2, Checked.ok_bind, visibleHeight?_eq hc hH,
    Checked.ok_bind, IntType.div_of_holds h2 hy.1, Checked.ok_bind, IntType.add_of_holds hy.2,
    Checked.ok_bind]
  exact ⟨rfl, hx.2, hy.2⟩

end Crop

/-- A narrow crop of a frame of sides below `2^31` is aimed at in 32-bit words, at a 32-bit point. -/
theorem Target.checkedOfCrop_eq {c : Crop} {W H : Nat} (hc : c.Narrow) (hW : W < 2147483648)
    (hH : H < 2147483648) :
    Target.checkedOfCrop c W H = .ok (Target.ofCrop? c W H) ∧
      ∀ u ∈ Target.ofCrop? c W H, u.center.InWords := by
  obtain ⟨hcenter, hwords⟩ := Crop.center?_eq hc hW hH
  refine ⟨?_, fun u hu => ?_⟩
  · simp only [Target.checkedOfCrop, hcenter, Crop.visibleWidth?_eq hc hW,
      Crop.visibleHeight?_eq hc hH, Checked.ok_bind]
    rfl
  · simp only [Target.ofCrop?, Target.ofCenter?] at hu
    split_ifs at hu
    · exact absurd hu (Option.not_mem_none u)
    · rw [Option.mem_some_iff] at hu
      subst hu
      exact hwords

/-! ### The smoothing window -/

namespace EdgeSums

/-- Sums over `n` narrow crops: none is negative, and on each axis the two sums together are at
most `n` times the largest 32-bit value. -/
structure Narrow (s : EdgeSums) (n : Nat) : Prop where
  top : 0 ≤ s.top
  bottom : 0 ≤ s.bottom
  left : 0 ≤ s.left
  right : 0 ≤ s.right
  across : s.left + s.right ≤ n * 2147483647
  down : s.top + s.bottom ≤ n * 2147483647

theorem ofList_narrow : ∀ {cs : List Crop}, (∀ c ∈ cs, c.Narrow) → (ofList cs).Narrow cs.length
  | [], _ => ⟨le_rfl, le_rfl, le_rfl, le_rfl, by decide, by decide⟩
  | c :: cs, h => by
    obtain ⟨ht, hb, hl, hr, hlr, htb⟩ := h c List.mem_cons_self
    obtain ⟨st, sb, sl, sr, slr, stb⟩ :=
      ofList_narrow fun c' hc' => h c' (List.mem_cons_of_mem c hc')
    refine ⟨?_, ?_, ?_, ?_, ?_, ?_⟩ <;> simp only [ofList, add, List.length_cons] <;> push_cast <;>
      omega

end EdgeSums

namespace CropWindow

variable {w : CropWindow} {c : Crop}

/-- A window of at most `2^32` narrow crops, never overfull, whose sums are those of its crops. -/
structure Narrow (w : CropWindow) : Prop where
  sums : w.sums = EdgeSums.ofList w.crops
  crops : ∀ c ∈ w.crops, c.Narrow
  size_le : w.crops.length ≤ w.capacity
  capacity_pos : 0 < w.capacity
  capacity_le : w.capacity ≤ 4294967296

theorem Narrow.sumsNarrow (h : w.Narrow) : w.sums.Narrow w.crops.length :=
  h.sums ▸ EdgeSums.ofList_narrow h.crops

theorem Narrow.inWords (h : w.Narrow) : w.InWords :=
  ⟨h.sums, fun c hc => (h.crops c hc).inWords⟩

theorem Narrow.push (h : w.Narrow) (hc : c.Narrow) : (w.push c).Narrow where
  sums := sums_push h.sums c
  crops := fun c' hc' => (mem_crops_push hc').elim (h.crops c') fun hnew => hnew ▸ hc
  size_le := size_push_le w c h.size_le h.capacity_pos
  capacity_pos := h.capacity_pos
  capacity_le := h.capacity_le

theorem Narrow.create {capacity : Nat} (h : capacity ≤ 4294967296) : (create capacity).Narrow where
  sums := rfl
  crops := fun _ hc => absurd hc List.not_mem_nil
  size_le := Nat.zero_le _
  capacity_pos := by simp [CropWindow.create]
  capacity_le := by
    simp only [CropWindow.create]
    omega

theorem Narrow.clear (h : w.Narrow) : w.clear.Narrow where
  sums := rfl
  crops := by simp [CropWindow.clear]
  size_le := Nat.zero_le _
  capacity_pos := h.capacity_pos
  capacity_le := h.capacity_le

/-- A push in 64-bit words, of a narrow crop into a window of at most `2^32` narrow crops. -/
theorem push?_eq (h : w.Narrow) (hc : c.Narrow) : w.push? c = .ok (w.push c) :=
  push?_of_inWords h.inWords hc.inWords ((h.push hc).size_le.trans (h.push hc).capacity_le)

theorem length_pos_of_isEmpty {cs : List Crop} (h : ¬cs.isEmpty = true) : 0 < cs.length := by
  cases cs with
  | nil => exact absurd rfl h
  | cons c cs => exact Nat.succ_pos _

/-- Averaging a narrow window in 64-bit words. -/
theorem average?_eq (h : w.Narrow) : w.average? = .ok w.average :=
  average?_of_inWords h.inWords

/-- The mean of narrow crops is narrow: the means of an axis's two cuts add up to at most the mean
of their sums. -/
theorem average_narrow (h : w.Narrow) : w.average.Narrow := by
  simp only [average]
  split_ifs with hempty
  · exact Crop.identity_narrow
  · have hn : (0 : Int) < w.crops.length := by
      have := length_pos_of_isEmpty hempty
      omega
    obtain ⟨ht, hb, hl, hr, hlr, htb⟩ := h.sumsNarrow
    -- the mean of a sum over the crops is at most the largest 32-bit value
    have hmean : ∀ x : Int, x ≤ w.crops.length * 2147483647 → x / w.crops.length ≤ 2147483647 :=
      fun x hx => Int.ediv_le_of_le_mul hn (by rwa [mul_comm])
    rw [Int.tdiv_eq_ediv_of_nonneg ht, Int.tdiv_eq_ediv_of_nonneg hb,
      Int.tdiv_eq_ediv_of_nonneg hl, Int.tdiv_eq_ediv_of_nonneg hr]
    refine ⟨Int.ediv_nonneg ht hn.le, Int.ediv_nonneg hb hn.le, Int.ediv_nonneg hl hn.le,
      Int.ediv_nonneg hr hn.le, ?_, ?_⟩
    · calc w.sums.left / w.crops.length + w.sums.right / w.crops.length
          ≤ (w.sums.left + w.sums.right) / w.crops.length := Int.ediv_add_ediv_le_add_ediv hn
        _ ≤ 2147483647 := hmean _ hlr
        _ < 2147483648 := by decide
    · calc w.sums.top / w.crops.length + w.sums.bottom / w.crops.length
          ≤ (w.sums.top + w.sums.bottom) / w.crops.length := Int.ediv_add_ediv_le_add_ediv hn
        _ ≤ 2147483647 := hmean _ htb
        _ < 2147483648 := by decide

end CropWindow

namespace Smoother

variable {s : Smoother} {c : Crop}

theorem push?_eq (h : s.window.Narrow) (hc : c.Narrow) : s.push? c = .ok (s.push c) := by
  rw [push?, CropWindow.push?_eq h hc, Checked.ok_bind]
  rfl

theorem average?_eq (h : s.window.Narrow) : s.average? = .ok s.average :=
  CropWindow.average?_eq h

theorem average_narrow (h : s.window.Narrow) : s.average.Narrow :=
  CropWindow.average_narrow h

/-- The frame counter steps in 32 bits without overflow while it is below the largest word. -/
theorem needsUpdate?_eq (h : s.sinceDecision < u32Max) (count : Nat) :
    s.needsUpdate? count = .ok (s.needsUpdate count) := by
  rw [needsUpdate?, IntType.add_of_holds (by rw [IntType.holds_u32]; unfold u32Max at h; omega),
    Checked.ok_bind]
  rfl

end Smoother

/-! ### Remapping faces -/

/-- A coordinate of at most `2 · 65535`, shifted by a cut and scaled by a side, both below `2^31`,
fits 64 bits at every step: the product is at most `2^62` in size and the quotient no larger. -/
theorem remapCoordinate?_eq (value : Int) {offset full visible : Int} (hv : 0 ≤ value)
    (hv' : value ≤ 131070) (ho : 0 ≤ offset) (ho' : offset < 2147483648) (hf : 0 ≤ full)
    (hf' : full < 2147483648) (hvis : 0 < visible) :
    remapCoordinate? value offset full visible = .ok (remapCoordinate value offset full visible) := by
  have hprod : ((value - offset) * full).natAbs ≤ 2147483648 * 2147483648 := by
    rw [Int.natAbs_mul]
    exact Nat.mul_le_mul (by omega) (by omega)
  have hq := Int.natAbs_tdiv_le_natAbs ((value - offset) * full) visible
  have hshift : IntType.i64.Holds (value - offset) := by
    rw [IntType.holds_i64]
    omega
  have hmul : IntType.i64.Holds ((value - offset) * full) := by
    rw [IntType.holds_i64]
    omega
  have hdiv : IntType.i64.Holds (((value - offset) * full).tdiv visible) := by
    rw [IntType.holds_i64]
    omega
  rw [remapCoordinate?, IntType.sub_of_holds hshift, Checked.ok_bind, IntType.mul_of_holds hmul,
    Checked.ok_bind, IntType.div_of_holds (by omega) hdiv, Checked.ok_bind, clampChecked_of_le hf]
  rfl

/-- A remapped coordinate lies in `[0, full]`. -/
theorem remapCoordinate_mem {full : Int} (hf : 0 ≤ full) (value offset visible : Int) :
    0 ≤ remapCoordinate value offset full visible ∧ remapCoordinate value offset full visible ≤ full :=
  ⟨le_max_left _ _, clampInt_le hf _⟩

/-- Remapping 16-bit faces through a narrow crop of a frame of sides below `2^31` never overflows:
each corner is remapped in 64-bit words, and the remapped sides are differences of two points of
the frame. -/
theorem remapFaces?_eq {c : Crop} {W H : Nat} {faces : List FaceBox} (hc : c.Narrow)
    (hW : W < 2147483648) (hH : H < 2147483648) (hf : ∀ f ∈ faces, f.Fits16) :
    remapFaces? c W H faces = .ok (remapFaces c W H faces) := by
  have ⟨ht, hb, hl, hr, hlr, htb⟩ := hc
  rw [remapFaces?, Crop.visibleWidth?_eq hc hW, Checked.ok_bind, Crop.visibleHeight?_eq hc hH,
    Checked.ok_bind]
  simp only [remapFaces]
  split_ifs with hvis
  · rfl
  · have hvw : 0 < c.visibleWidth W := by omega
    have hvh : 0 < c.visibleHeight H := by omega
    apply Checked.filterMapM_eq_ok
    intro f hmem
    have hfits := hf f hmem
    obtain ⟨hx, hy, hw, hh, -⟩ := hf f hmem
    unfold u16Max at hx hy hw hh
    -- the four corners, each remapped into its side of the frame
    have hx1 := remapCoordinate?_eq f.x (by omega) (by omega) hl (by omega)
      (Int.natCast_nonneg W) (by omega) hvw
    have hx2 := remapCoordinate?_eq f.right (by omega) (by unfold FaceBox.right; omega) hl
      (by omega) (Int.natCast_nonneg W) (by omega) hvw
    have hy1 := remapCoordinate?_eq f.y (by omega) (by omega) ht (by omega)
      (Int.natCast_nonneg H) (by omega) hvh
    have hy2 := remapCoordinate?_eq f.bottom (by omega) (by unfold FaceBox.bottom; omega)
      ht (by omega) (Int.natCast_nonneg H) (by omega) hvh
    have mx1 := remapCoordinate_mem (Int.natCast_nonneg W) f.x c.left (c.visibleWidth W)
    have mx2 := remapCoordinate_mem (Int.natCast_nonneg W) f.right c.left (c.visibleWidth W)
    have my1 := remapCoordinate_mem (Int.natCast_nonneg H) f.y c.top (c.visibleHeight H)
    have my2 := remapCoordinate_mem (Int.natCast_nonneg H) f.bottom c.top (c.visibleHeight H)
    have hdx : IntType.i64.Holds (remapCoordinate f.right c.left W (c.visibleWidth W) -
        remapCoordinate f.x c.left W (c.visibleWidth W)) := by
      rw [IntType.holds_i64]
      omega
    have hdy : IntType.i64.Holds (remapCoordinate f.bottom c.top H (c.visibleHeight H) -
        remapCoordinate f.y c.top H (c.visibleHeight H)) := by
      rw [IntType.holds_i64]
      omega
    rw [remapFace?, hx1, Checked.ok_bind, FaceBox.right?_eq hfits, Checked.ok_bind, hx2,
      Checked.ok_bind, hy1, Checked.ok_bind, FaceBox.bottom?_eq hfits, Checked.ok_bind, hy2,
      Checked.ok_bind, IntType.sub_of_holds hdx, Checked.ok_bind, IntType.sub_of_holds hdy,
      Checked.ok_bind]
    rfl

end FaceFraming
