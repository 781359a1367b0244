import FaceFraming.Frame.Overlay
import FaceFraming.Proofs.Frame.Offsets
import FaceFraming.Proofs.Geometry.Around

/-!
# What outlining faces writes

`drawBoxes` outlines each face on a frame's bytes. The outline of a face is the border of its box
clipped to the frame: the pixels of the clipped box within `lineWidth` of one of its edges
(`FaceBox.OnOutline`). Painting a pixel writes its luma byte and the two bytes of its chroma pair,
each only when the array holds them (`PlaneGeometry.PaintsByte`).

Every byte of a frame has one channel of the color, fixed by where it lies (`byteColor`): the luma
plane takes `y`, and the chroma plane `u` at the even byte of a pair and `v` at the odd one, since
pairs start at even columns. So a byte that some outline pixel writes ends up its channel, whatever
the order of the pixels and however often one is painted, and every other byte is left alone.

The argument is by steps on the bytes that stamp a set of them (`Stamps`): setting the luma byte
or the chroma pair of a pixel, painting a pixel, painting a rectangle of pixels, outlining a face,
and outlining a list of faces each stamp a set, and a sequence of stamps stamps the union of their
sets (`Stamps.comp`, `Stamps.foldl`). The two bands of rows and the two bands of columns that
`drawBox` paints cover exactly the border (`mem_bands_iff`).

The main statement is `drawBoxes_outlines`: the count of faces outlined, the length of the array,
the bytes the outline pixels hold, the bytes left alone, and that the order of the faces does not
matter.
-/

namespace FaceFraming

namespace PlaneGeometry

variable (g : PlaneGeometry)

/-- Painting pixel `(row, col)` of an array of `n` bytes writes byte `j`: its luma byte, when the
array has it, or a byte of its chroma pair, when the array has both bytes of the pair. -/
def PaintsByte (n row col j : Nat) : Prop :=
  (g.lumaOffset? row col = some j ∧ j < n) ∨
    ∃ o, g.chromaOffset? row col = some o ∧ o + 2 ≤ n ∧ (j = o ∨ j = o + 1)

/-- The channel of a color that byte `j` of a frame holds: `y` in the luma plane; in the chroma
plane, `u` at an even byte of a row and `v` at an odd one. -/
def byteColor (color : Color) (j : Nat) : UInt8 :=
  if j < g.lumaLen then color.y
  else if (j - g.lumaLen) % g.stride % 2 = 0 then color.u else color.v

variable {g} (color : Color)

/-- A luma byte holds the luma of the color. -/
theorem byteColor_luma {row col o : Nat} (h : g.lumaOffset? row col = some o) :
    g.byteColor color o = color.y := by
  obtain ⟨hr, hc, rfl⟩ := (g.lumaOffset?_eq_some_iff).mp h
  rw [byteColor, if_pos (g.rowMajor_lt_lumaLen hr hc)]

/-- A chroma pair holds the chroma of the color: the pair starts at an even column, so its first
byte is `u` and its second `v`. -/
theorem byteColor_chroma {row col o : Nat} (h : g.chromaOffset? row col = some o) :
    g.byteColor color o = color.u ∧ g.byteColor color (o + 1) = color.v := by
  obtain ⟨⟨-, -, hp⟩, rfl⟩ := (g.chromaOffset?_eq_some_iff).mp h
  have he := pairColumn_even col
  -- both bytes lie in the pair's row of the chroma plane, at the pair's column and the next
  have hu : (g.lumaLen + g.layout.chromaRow row * g.stride + pairColumn col - g.lumaLen) % g.stride
      = pairColumn col := by
    rw [show g.lumaLen + g.layout.chromaRow row * g.stride + pairColumn col - g.lumaLen =
      pairColumn col + g.layout.chromaRow row * g.stride by omega, Nat.add_mul_mod_self_right,
      Nat.mod_eq_of_lt (by omega)]
  have hv : (g.lumaLen + g.layout.chromaRow row * g.stride + pairColumn col + 1 - g.lumaLen) %
      g.stride = pairColumn col + 1 := by
    rw [show g.lumaLen + g.layout.chromaRow row * g.stride + pairColumn col + 1 - g.lumaLen =
      (pairColumn col + 1) + g.layout.chromaRow row * g.stride by omega,
      Nat.add_mul_mod_self_right, Nat.mod_eq_of_lt hp]
  refine ⟨?_, ?_⟩
  · rw [byteColor, if_neg (by omega), hu, if_pos he.1]
  · rw [byteColor, if_neg (by omega), hv, if_neg (by omega)]

end PlaneGeometry

/-- A pixel on the outline of a face drawn on a `W × H` frame: inside the face's box clipped to the
frame, and within `lineWidth` of one of the clipped box's edges. -/
def FaceBox.OnOutline (f : FaceBox) (W H row col : Nat) : Prop :=
  let b := f.clip W H
  (b.y ≤ row ∧ row < b.bottom ∧ b.x ≤ col ∧ col < b.right) ∧
    (row < b.y + lineWidth ∨ b.bottom ≤ row + lineWidth ∨ col < b.x + lineWidth ∨
      b.right ≤ col + lineWidth)

/-- A face shows in a `W × H` frame when its clipped box is not empty. -/
def FaceBox.Shows (f : FaceBox) (W H : Nat) : Prop :=
  0 < (f.clip W H).w ∧ 0 < (f.clip W H).h

instance FaceBox.instDecidableShows (f : FaceBox) (W H : Nat) : Decidable (f.Shows W H) :=
  inferInstanceAs (Decidable (_ ∧ _))

/-! ### Steps that stamp a set of bytes -/

section Stamps

variable (g : PlaneGeometry) (color : Color)

/-- A step on a frame's bytes stamps the set `S n` of bytes of an array of `n` bytes: it keeps the
array's length, writes each byte of the set with its channel of the color, and leaves every other
byte as it was. -/
structure Stamps (step : Array UInt8 → Array UInt8) (S : Nat → Nat → Prop) : Prop where
  /-- The length is kept. -/
  size : ∀ d, (step d).size = d.size
  /-- A byte of the set holds its channel. -/
  painted : ∀ d j, S d.size j → (step d)[j]? = some (g.byteColor color j)
  /-- A byte outside the set is left alone. -/
  kept : ∀ d j, ¬ S d.size j → (step d)[j]? = d[j]?

variable {g color}

/-- A step stamps any set with the same bytes. -/
theorem Stamps.congr {step : Array UInt8 → Array UInt8} {S S' : Nat → Nat → Prop}
    (h : Stamps g color step S) (hS : ∀ n j, S n j ↔ S' n j) : Stamps g color step S' :=
  ⟨h.size, fun d j hj => h.painted d j ((hS _ _).mpr hj),
    fun d j hj => h.kept d j (fun h' => hj ((hS _ _).mp h'))⟩

/-- Doing nothing stamps no byte. -/
theorem stamps_id : Stamps g color id fun _ _ => False :=
  ⟨fun _ => rfl, fun _ _ h => h.elim, fun _ _ _ => rfl⟩

/-- One stamp after another stamps the bytes of either: a byte the second stamps holds its
channel, one only the first stamps keeps the channel the first wrote, and the rest are left. -/
theorem Stamps.comp {s₁ s₂ : Array UInt8 → Array UInt8} {S₁ S₂ : Nat → Nat → Prop}
    (h₁ : Stamps g color s₁ S₁) (h₂ : Stamps g color s₂ S₂) :
    Stamps g color (fun d => s₂ (s₁ d)) fun n j => S₁ n j ∨ S₂ n j := by
  refine ⟨fun d => (h₂.size _).trans (h₁.size d), fun d j hj => ?_, fun d j hj => ?_⟩
  · by_cases h2 : S₂ d.size j
    · exact h₂.painted _ j (by rwa [h₁.size])
    · have h1 : S₁ d.size j := hj.resolve_right h2
      rw [h₂.kept _ j (by rwa [h₁.size]), h₁.painted d j h1]
  · rw [not_or] at hj
    rw [h₂.kept _ j (by rw [h₁.size]; exact hj.2), h₁.kept d j hj.1]

/-- Folding stamps over a list stamps the bytes that any of them stamps. -/
theorem Stamps.foldl {α : Type} (step : α → Array UInt8 → Array UInt8) (S : α → Nat → Nat → Prop) :
    ∀ l : List α, (∀ a ∈ l, Stamps g color (step a) (S a)) →
      Stamps g color (fun d => l.foldl (fun d a => step a d) d) fun n j => ∃ a ∈ l, S a n j
  | [], _ => stamps_id.congr fun _ _ => by simp
  | a :: l, h => by
    have hrest := Stamps.foldl step S l fun b hb => h b (List.mem_cons_of_mem a hb)
    refine ((h a (List.mem_cons_self ..)).comp hrest).congr fun n j => ?_
    simp only [List.mem_cons, exists_eq_or_imp]

end Stamps

/-! ### Painting a pixel -/

section Pixel

variable (g : PlaneGeometry) (color : Color) (row col : Nat)

@[simp] theorem size_setByte (d : Array UInt8) (i : Nat) (b : UInt8) :
    (setByte d i b).size = d.size :=
  Array.size_setIfInBounds

/-- Sets a byte when the array has it, and otherwise leaves the array. -/
theorem getElem?_setByte (d : Array UInt8) (i j : Nat) (b : UInt8) :
    (setByte d i b)[j]? = if i = j ∧ i < d.size then some b else d[j]? := by
  rw [setByte, Array.getElem?_setIfInBounds]
  by_cases hij : i = j
  · subst hij
    by_cases hi : i < d.size
    · simp [hi]
    · simp [hi]
  · simp [hij]

/-- The luma half of painting a pixel. -/
def paintLuma (d : Array UInt8) : Array UInt8 :=
  match g.lumaOffset? row col with
  | some o => setByte d o color.y
  | none => d

/-- The chroma half of painting a pixel. -/
def paintChroma (d : Array UInt8) : Array UInt8 :=
  match g.chromaOffset? row col with
  | some o => if o + 2 ≤ d.size then setByte (setByte d o color.u) (o + 1) color.v else d
  | none => d

theorem paint_eq (d : Array UInt8) :
    paint g color d row col = paintChroma g color row col (paintLuma g color row col d) :=
  rfl

variable {g color row col}

theorem paintLuma_stamps :
    Stamps g color (paintLuma g color row col) fun n j => g.lumaOffset? row col = some j ∧ j < n := by
  rcases hl : g.lumaOffset? row col with _ | o
  · have hid : paintLuma g color row col = id := funext fun d => by simp only [paintLuma, hl]; rfl
    rw [hid]
    exact stamps_id.congr fun n j => by simp
  · have hset : paintLuma g color row col = fun d => setByte d o color.y :=
      funext fun d => by simp only [paintLuma, hl]
    rw [hset]
    refine ⟨fun d => size_setByte .., fun d j hj => ?_, fun d j hj => ?_⟩
    · obtain ⟨hoj, hj⟩ := hj
      obtain rfl := Option.some.inj hoj
      rw [getElem?_setByte, if_pos ⟨rfl, hj⟩, PlaneGeometry.byteColor_luma color hl]
    · rw [getElem?_setByte, if_neg fun (h : o = j ∧ o < d.size) => hj ⟨by rw [h.1], h.1 ▸ h.2⟩]

theorem paintChroma_stamps :
    Stamps g color (paintChroma g color row col) fun n j =>
      ∃ o, g.chromaOffset? row col = some o ∧ o + 2 ≤ n ∧ (j = o ∨ j = o + 1) := by
  rcases hc : g.chromaOffset? row col with _ | o
  · have hid : paintChroma g color row col = id := funext fun d => by simp only [paintChroma, hc]; rfl
    rw [hid]
    exact stamps_id.congr fun n j => by simp
  · have hset : paintChroma g color row col = fun d =>
        if o + 2 ≤ d.size then setByte (setByte d o color.u) (o + 1) color.v else d :=
      funext fun d => by simp only [paintChroma, hc]
    rw [hset]
    have hcol := PlaneGeometry.byteColor_chroma color hc
    refine ⟨fun d => ?_, fun d j hj => ?_, fun d j hj => ?_⟩
    · split_ifs <;> simp only [size_setByte]
    · obtain ⟨o', ho', hfit, hj⟩ := hj
      obtain rfl := Option.some.inj ho'
      rw [if_pos hfit, getElem?_setByte, getElem?_setByte, size_setByte]
      rcases hj with rfl | rfl
      · rw [if_neg (by omega), if_pos ⟨rfl, by omega⟩, hcol.1]
      · rw [if_pos ⟨rfl, by omega⟩, hcol.2]
    · split_ifs with hfit
      · -- a byte outside the pair is neither of the two bytes set
        have hjo : j ≠ o ∧ j ≠ o + 1 :=
          ⟨fun h => hj ⟨o, rfl, hfit, .inl h⟩, fun h => hj ⟨o, rfl, hfit, .inr h⟩⟩
        rw [getElem?_setByte, getElem?_setByte, if_neg (by omega), if_neg (by omega)]
      · rfl

/-- Painting a pixel stamps the bytes it writes. -/
theorem paint_stamps : Stamps g color (fun d => paint g color d row col) fun n j =>
    g.PaintsByte n row col j :=
  (paintLuma_stamps.comp paintChroma_stamps).congr fun _ _ => Iff.rfl

end Pixel

/-! ### Rectangles and outlines -/

section Outline

variable {g : PlaneGeometry} {color : Color}

/-- Painting the pixels of some rows and a run of columns stamps the bytes those pixels write. -/
theorem paintRect_stamps (rows : List Nat) (c0 c1 : Nat) :
    Stamps g color (fun d => paintRect g color d rows c0 c1) fun n j =>
      ∃ r ∈ rows, ∃ c ∈ List.range' c0 (c1 - c0), g.PaintsByte n r c j :=
  Stamps.foldl (fun r d => (List.range' c0 (c1 - c0)).foldl (fun d c => paint g color d r c) d) _
    rows fun r _ => Stamps.foldl (fun c d => paint g color d r c) _ _ fun _ _ => paint_stamps

/-- The band of `w` rows at the top and at the bottom of `[y0, y1) × [x0, x1)`, and the band of `w`
columns at its left and right over all its rows, hold exactly the pixels of the box within `w` of one
of its edges. Thin boxes make the bands overlap. -/
theorem mem_bands_iff {w x0 x1 y0 y1 r c : Nat} :
    ((r ∈ List.range' y0 (min (y0 + w) y1 - y0) ++
          List.range' (max (y1 - w) y0) (y1 - max (y1 - w) y0) ∧
        c ∈ List.range' x0 (x1 - x0)) ∨
      (r ∈ List.range' y0 (y1 - y0) ∧ c ∈ List.range' x0 (min (x0 + w) x1 - x0)) ∨
      (r ∈ List.range' y0 (y1 - y0) ∧ c ∈ List.range' (max (x1 - w) x0) (x1 - max (x1 - w) x0))) ↔
      (y0 ≤ r ∧ r < y1 ∧ x0 ≤ c ∧ c < x1) ∧ (r < y0 + w ∨ y1 ≤ r + w ∨ c < x0 + w ∨ x1 ≤ c + w) := by
  simp only [List.mem_append, List.mem_range'_1]
  omega

/-- The border of width `w` of the box `[x0, x1) × [y0, y1)`, painted as `drawBox` paints it: the
bands of `w` rows at the top and at the bottom across the box, then the bands of `w` columns at the
left and at the right down the box. -/
def paintBorder (g : PlaneGeometry) (color : Color) (x0 x1 y0 y1 w : Nat) (d : Array UInt8) :
    Array UInt8 :=
  let rows := List.range' y0 (y1 - y0)
  let horizontal := List.range' y0 (min (y0 + w) y1 - y0) ++
    List.range' (max (y1 - w) y0) (y1 - max (y1 - w) y0)
  paintRect g color (paintRect g color (paintRect g color d horizontal x0 x1) rows x0
    (min (x0 + w) x1)) rows (max (x1 - w) x0) x1

/-- `drawBox` paints the border of the face's clipped box, or nothing when that box is empty. -/
theorem drawBox_eq (d : Array UInt8) (f : FaceBox) :
    drawBox g color d f =
      if min f.right g.stride ≤ min f.x g.stride ∨ min f.bottom g.height ≤ min f.y g.height then none
      else some (paintBorder g color (min f.x g.stride) (min f.right g.stride) (min f.y g.height)
        (min f.bottom g.height) lineWidth d) :=
  rfl

/-- Painting the border of a box stamps the bytes that the pixels of the border write. -/
theorem paintBorder_stamps (x0 x1 y0 y1 w : Nat) :
    Stamps g color (paintBorder g color x0 x1 y0 y1 w) fun n j => ∃ r c,
      ((y0 ≤ r ∧ r < y1 ∧ x0 ≤ c ∧ c < x1) ∧ (r < y0 + w ∨ y1 ≤ r + w ∨ c < x0 + w ∨ x1 ≤ c + w)) ∧
        g.PaintsByte n r c j := by
  refine (((paintRect_stamps _ x0 x1).comp (paintRect_stamps _ x0 _)).comp
    (paintRect_stamps _ _ x1)).congr fun n j => ?_
  constructor
  · rintro ((⟨r, hr, c, hc, hp⟩ | ⟨r, hr, c, hc, hp⟩) | ⟨r, hr, c, hc, hp⟩)
    · exact ⟨r, c, mem_bands_iff.mp (.inl ⟨hr, hc⟩), hp⟩
    · exact ⟨r, c, mem_bands_iff.mp (.inr (.inl ⟨hr, hc⟩)), hp⟩
    · exact ⟨r, c, mem_bands_iff.mp (.inr (.inr ⟨hr, hc⟩)), hp⟩
  · rintro ⟨r, c, hb, hp⟩
    rcases mem_bands_iff.mpr hb with ⟨hr, hc⟩ | ⟨hr, hc⟩ | ⟨hr, hc⟩
    · exact .inl (.inl ⟨r, hr, c, hc, hp⟩)
    · exact .inl (.inr ⟨r, hr, c, hc, hp⟩)
    · exact .inr ⟨r, hr, c, hc, hp⟩

/-- A face shows exactly when `drawBox` outlines it, whatever the bytes. -/
theorem drawBox_isSome_iff (d : Array UInt8) (f : FaceBox) :
    (drawBox g color d f).isSome ↔ f.Shows g.stride g.height := by
  rw [drawBox_eq, FaceBox.Shows, FaceBox.clip_w, FaceBox.clip_h]
  split_ifs with h
  · simp only [Option.isSome_none, Bool.false_eq_true, false_iff]
    omega
  · simp only [Option.isSome_some, true_iff]
    omega

/-- Outlining a face stamps the bytes that the pixels of its outline write; a face that does not
show is left out and stamps nothing. -/
theorem drawBox_stamps (f : FaceBox) :
    Stamps g color (fun d => (drawBox g color d f).getD d) fun n j =>
      ∃ r c, f.OnOutline g.stride g.height r c ∧ g.PaintsByte n r c j := by
  by_cases hs : min f.right g.stride ≤ min f.x g.stride ∨ min f.bottom g.height ≤ min f.y g.height
  · -- the clipped box is empty: nothing is drawn, and no pixel is on its outline
    have hid : (fun d => (drawBox g color d f).getD d) = id :=
      funext fun d => by rw [drawBox_eq, if_pos hs]; rfl
    rw [hid]
    refine stamps_id.congr fun n j => ?_
    simp only [false_iff, not_exists, not_and]
    intro r c ho _
    simp only [FaceBox.OnOutline, FaceBox.clip_x, FaceBox.clip_y, FaceBox.clip_right,
      FaceBox.clip_bottom] at ho
    omega
  · have hborder : (fun d => (drawBox g color d f).getD d) = paintBorder g color (min f.x g.stride)
        (min f.right g.stride) (min f.y g.height) (min f.bottom g.height) lineWidth :=
      funext fun d => by rw [drawBox_eq, if_neg hs]; rfl
    rw [hborder]
    exact (paintBorder_stamps _ _ _ _ _).congr fun n j => by
      simp only [FaceBox.OnOutline, FaceBox.clip_x, FaceBox.clip_y, FaceBox.clip_right,
        FaceBox.clip_bottom]

/-- A fold that outlines each face in turn and counts the faces that show, from any bytes and any
count, ends with the bytes outlined and the count raised by the faces that show. -/
theorem foldl_outline {F : Array UInt8 × Nat → FaceBox → Array UInt8 × Nat}
    (hF : ∀ d n f, F (d, n) f =
      ((drawBox g color d f).getD d, n + if f.Shows g.stride g.height then 1 else 0)) :
    ∀ (l : List FaceBox) (d : Array UInt8) (k : Nat), l.foldl F (d, k) =
      (l.foldl (fun d f => (drawBox g color d f).getD d) d,
        k + l.countP fun f => f.Shows g.stride g.height)
  | [], _, _ => rfl
  | f :: l, d, k => by
    rw [List.foldl_cons, hF, foldl_outline hF l, List.foldl_cons, List.countP_cons]
    simp only [decide_eq_true_eq, Prod.mk.injEq, true_and]
    omega

/-- Outlining faces one after another: the bytes after outlining each in turn, and the number of
faces that show. -/
theorem drawBoxes_eq (data : Array UInt8) (faces : List FaceBox) :
    drawBoxes g color data faces =
      (faces.foldl (fun d f => (drawBox g color d f).getD d) data,
        faces.countP fun f => f.Shows g.stride g.height) := by
  unfold drawBoxes
  rw [foldl_outline ?_ faces data 0, Nat.zero_add]
  intro d n f
  have hshow := @drawBox_isSome_iff g color d f
  rcases hd : drawBox g color d f with _ | d'
  · -- a face that does not show leaves the bytes and the count
    have hno : ¬ f.Shows g.stride g.height := by simpa [hd] using hshow
    simp only [hd, Option.getD_none, if_neg hno, Nat.add_zero]
  · -- a face that shows is outlined and counted
    have hyes : f.Shows g.stride g.height := by simpa [hd] using hshow
    simp only [hd, Option.getD_some, if_pos hyes]

end Outline

/-- Outlining faces on a frame's bytes counts the faces whose box, clipped to the frame, is not
empty, keeps the length of the array, and writes the outline of each such face, whatever the order
of the faces: every pixel of the clipped box within `lineWidth` of one of its edges gets the luma of
the color in its luma byte, when the array has that byte, and the chroma of the color in its chroma
pair, when the pixel has a pair and the array has both its bytes; every byte that no outline pixel
writes is left as it was. -/
theorem drawBoxes_outlines (g : PlaneGeometry) (color : Color) (data : Array UInt8)
    (faces : List FaceBox) :
    (drawBoxes g color data faces).2 = faces.countP (fun f => f.Shows g.stride g.height) ∧
      (drawBoxes g color data faces).1.size = data.size ∧
      (∀ f ∈ faces, ∀ row col, f.OnOutline g.stride g.height row col →
        (∀ o, g.lumaOffset? row col = some o → o < data.size →
          (drawBoxes g color data faces).1[o]? = some color.y) ∧
        (∀ o, g.chromaOffset? row col = some o → o + 2 ≤ data.size →
          (drawBoxes g color data faces).1[o]? = some color.u ∧
            (drawBoxes g color data faces).1[o + 1]? = some color.v)) ∧
      (∀ j, (∀ f ∈ faces, ∀ row col, f.OnOutline g.stride g.height row col →
          ¬ g.PaintsByte data.size row col j) →
        (drawBoxes g color data faces).1[j]? = data[j]?) ∧
      ∀ faces', faces'.Perm faces → drawBoxes g color data faces' = drawBoxes g color data faces := by
  -- outlining the faces in turn stamps the bytes that some face's outline writes
  have stamps : ∀ l : List FaceBox, Stamps g color
      (fun d => l.foldl (fun d f => (drawBox g color d f).getD d) d) fun n j =>
        ∃ f ∈ l, ∃ r c, f.OnOutline g.stride g.height r c ∧ g.PaintsByte n r c j :=
    fun l => Stamps.foldl (fun f d => (drawBox g color d f).getD d) _ l fun f _ => drawBox_stamps f
  have hst := stamps faces
  rw [drawBoxes_eq]
  refine ⟨rfl, hst.size data, fun f hf row col ho => ⟨fun o hl hlt => ?_, fun o hc hfit => ?_⟩,
    fun j hj => hst.kept data j ?_, fun faces' hp => ?_⟩
  · rw [hst.painted data o ⟨f, hf, row, col, ho, .inl ⟨hl, hlt⟩⟩,
      PlaneGeometry.byteColor_luma color hl]
  · have hcol := PlaneGeometry.byteColor_chroma color hc
    rw [hst.painted data o ⟨f, hf, row, col, ho, .inr ⟨o, hc, hfit, .inl rfl⟩⟩,
      hst.painted data (o + 1) ⟨f, hf, row, col, ho, .inr ⟨o, hc, hfit, .inr rfl⟩⟩, hcol.1, hcol.2]
    exact ⟨rfl, rfl⟩
  · rintro ⟨f, hf, r, c, ho, hp⟩
    exact hj f hf r c ho hp
  · -- the faces' order changes neither the count nor which bytes are stamped
    have hst' := stamps faces'
    have hsame : ∀ j, (∃ f ∈ faces', ∃ r c, f.OnOutline g.stride g.height r c ∧
        g.PaintsByte data.size r c j) ↔ ∃ f ∈ faces, ∃ r c, f.OnOutline g.stride g.height r c ∧
        g.PaintsByte data.size r c j := fun j => by
      simp only [hp.mem_iff]
    rw [drawBoxes_eq, hp.countP_eq]
    congr 1
    apply Array.ext_getElem?
    intro j
    by_cases hj : ∃ f ∈ faces, ∃ r c, f.OnOutline g.stride g.height r c ∧ g.PaintsByte data.size r c j
    · rw [hst.painted data j hj, hst'.painted data j ((hsame j).mpr hj)]
    · rw [hst.kept data j hj, hst'.kept data j (fun h => hj ((hsame j).mp h))]

end FaceFraming
