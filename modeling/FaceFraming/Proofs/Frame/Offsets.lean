import FaceFraming.Frame.Buffer
import Mathlib.Tactic.Linarith

/-!
# Where a pixel's bytes are

A frame of `stride` columns and `height` rows keeps its luma plane first, one byte per pixel, row
after row, and its chroma plane after it, one `(u, v)` pair for every two columns of a chroma row.
This module says that the offsets of `PlaneGeometry` lay the two planes out without gaps between
rows, overlaps or bytes past the end:

* a pixel has a luma byte exactly when it is in the frame, at `row · stride + col` inside the luma
  plane, and no two pixels share one (`lumaOffset?_eq_some_iff`, `rowMajor_inj`);
* a pixel has a chroma pair exactly when it is in the frame and the pair's second byte is in the
  row; the pair lies in the chroma plane (`chromaOffset_mem`), two pixels share it exactly when
  they have the same chroma row and column pair, and two different pairs never overlap
  (`chromaOffset_eq_iff`, `chromaOffset_apart`);
* so a buffer that `FrameBuffer.wrap` accepts reads a luma byte and a chroma pair under exactly
  those conditions (`luma?_isSome_iff`, `chroma?_isSome_iff`).

The main statement is `PlaneGeometry.offsets_laid_out`. Offsets are natural numbers: the program's
are 64-bit, and equal to these whenever the two planes fit in 64 bits.
-/

namespace FaceFraming

/-- Positions of a row-major table with rows of `S` entries are distinct for distinct cells. -/
theorem rowMajor_inj {S r₁ c₁ r₂ c₂ : Nat} (h₁ : c₁ < S) (h₂ : c₂ < S)
    (h : r₁ * S + c₁ = r₂ * S + c₂) : r₁ = r₂ ∧ c₁ = c₂ := by
  -- the row is the quotient by the row length, the column the remainder
  have hrow : ∀ r c : Nat, c < S → (r * S + c) / S = r := fun r c hc => by
    rw [Nat.add_comm, Nat.add_mul_div_right _ _ (by omega), Nat.div_eq_of_lt hc, Nat.zero_add]
  have hr : r₁ = r₂ :=
    calc r₁ = (r₁ * S + c₁) / S := (hrow r₁ c₁ h₁).symm
      _ = (r₂ * S + c₂) / S := by rw [h]
      _ = r₂ := hrow r₂ c₂ h₂
  subst hr
  exact ⟨rfl, by omega⟩

namespace PixelLayout

/-- A row of the frame has its chroma row among the rows of the chroma plane. -/
theorem chromaRow_lt_chromaRows (l : PixelLayout) {row height : Nat} (h : row < height) :
    l.chromaRow row < l.chromaRows height := by
  cases l with
  | nv12 =>
    simp only [chromaRow, chromaRows]
    omega
  | nv16 => exact h

end PixelLayout

namespace PlaneGeometry

variable (g : PlaneGeometry)

/-! ### Luma -/

theorem lumaOffset?_eq_some_iff {row col o : Nat} :
    g.lumaOffset? row col = some o ↔ row < g.height ∧ col < g.stride ∧ o = row * g.stride + col := by
  unfold lumaOffset?
  split_ifs with h
  · simp only [Option.some.injEq]
    exact ⟨fun ho => ⟨h.1, h.2, ho.symm⟩, fun ho => ho.2.2.symm⟩
  · simp only [false_iff]
    exact fun ho => h ⟨ho.1, ho.2.1⟩

theorem lumaOffset?_isSome_iff {row col : Nat} :
    (g.lumaOffset? row col).isSome ↔ row < g.height ∧ col < g.stride := by
  rw [Option.isSome_iff_exists]
  simp only [lumaOffset?_eq_some_iff, exists_eq_right, exists_and_left]

/-- A pixel of the frame has its luma byte inside the luma plane. -/
theorem rowMajor_lt_lumaLen {row col : Nat} (hr : row < g.height) (hc : col < g.stride) :
    row * g.stride + col < g.lumaLen :=
  calc row * g.stride + col < row * g.stride + g.stride := by omega
    _ = (row + 1) * g.stride := by rw [Nat.add_mul, Nat.one_mul]
    _ ≤ g.height * g.stride := Nat.mul_le_mul_right _ hr
    _ = g.lumaLen := Nat.mul_comm _ _

/-! ### Chroma -/

/-- The column of a pair is even, and at most the column it holds. -/
theorem pairColumn_even (col : Nat) : pairColumn col % 2 = 0 ∧ pairColumn col ≤ col := by
  unfold pairColumn
  omega

theorem chromaOffset?_eq_some_iff {row col o : Nat} :
    g.chromaOffset? row col = some o ↔
      (row < g.height ∧ col < g.stride ∧ pairColumn col + 1 < g.stride) ∧
        o = g.lumaLen + g.layout.chromaRow row * g.stride + pairColumn col := by
  unfold chromaOffset?
  split_ifs with h
  · simp only [Option.some.injEq]
    exact ⟨fun ho => ⟨h, ho.symm⟩, fun ho => ho.2.symm⟩
  · simp only [false_iff]
    exact fun ho => h ho.1

theorem chromaOffset?_isSome_iff {row col : Nat} :
    (g.chromaOffset? row col).isSome ↔
      row < g.height ∧ col < g.stride ∧ pairColumn col + 1 < g.stride := by
  rw [Option.isSome_iff_exists]
  simp only [chromaOffset?_eq_some_iff, exists_eq_right]

/-- Both bytes of a chroma pair lie in the chroma plane: its row is one of the plane's, and the
pair ends inside the row. -/
theorem chromaOffset_mem {row col o : Nat} (h : g.chromaOffset? row col = some o) :
    g.lumaLen ≤ o ∧ o + 2 ≤ g.requiredLen := by
  obtain ⟨⟨hr, -, hp⟩, rfl⟩ := (g.chromaOffset?_eq_some_iff).mp h
  have hrows : (g.layout.chromaRow row + 1) * g.stride ≤ g.layout.chromaRows g.height * g.stride :=
    Nat.mul_le_mul_right _ (g.layout.chromaRow_lt_chromaRows hr)
  refine ⟨by omega, ?_⟩
  calc g.lumaLen + g.layout.chromaRow row * g.stride + pairColumn col + 2
      ≤ g.lumaLen + (g.layout.chromaRow row * g.stride + g.stride) := by omega
    _ = g.lumaLen + (g.layout.chromaRow row + 1) * g.stride := by rw [Nat.add_mul, Nat.one_mul]
    _ ≤ g.lumaLen + g.layout.chromaRows g.height * g.stride := Nat.add_le_add_left hrows _
    _ = g.requiredLen := by rw [requiredLen, Nat.mul_comm g.stride]

/-- Two pixels share a chroma pair exactly when they have the same chroma row and column pair. -/
theorem chromaOffset_eq_iff {r₁ c₁ o₁ r₂ c₂ o₂ : Nat} (h₁ : g.chromaOffset? r₁ c₁ = some o₁)
    (h₂ : g.chromaOffset? r₂ c₂ = some o₂) :
    o₁ = o₂ ↔ g.layout.chromaRow r₁ = g.layout.chromaRow r₂ ∧ pairColumn c₁ = pairColumn c₂ := by
  obtain ⟨⟨-, -, hp₁⟩, rfl⟩ := (g.chromaOffset?_eq_some_iff).mp h₁
  obtain ⟨⟨-, -, hp₂⟩, rfl⟩ := (g.chromaOffset?_eq_some_iff).mp h₂
  constructor
  · intro h
    have hcell : g.layout.chromaRow r₁ * g.stride + pairColumn c₁ =
        g.layout.chromaRow r₂ * g.stride + pairColumn c₂ := by omega
    exact rowMajor_inj (by omega) (by omega) hcell
  · rintro ⟨hr, hc⟩
    rw [hr, hc]

/-- A pair in an earlier row of the chroma plane ends before a pair of a later row starts. -/
theorem pair_before_of_row_lt {S L r₁ p₁ r₂ p₂ : Nat} (hp : p₁ + 2 ≤ S) (hr : r₁ < r₂) :
    L + r₁ * S + p₁ + 2 ≤ L + r₂ * S + p₂ := by
  have : (r₁ + 1) * S ≤ r₂ * S := Nat.mul_le_mul_right _ hr
  rw [Nat.add_mul, Nat.one_mul] at this
  omega

/-- Two different chroma pairs never overlap: pairs of one row start at even columns, and a pair of
an earlier row ends before the next row starts. -/
theorem chromaOffset_apart {r₁ c₁ o₁ r₂ c₂ o₂ : Nat} (h₁ : g.chromaOffset? r₁ c₁ = some o₁)
    (h₂ : g.chromaOffset? r₂ c₂ = some o₂) (hne : o₁ ≠ o₂) : o₁ + 2 ≤ o₂ ∨ o₂ + 2 ≤ o₁ := by
  obtain ⟨⟨-, -, hp₁⟩, rfl⟩ := (g.chromaOffset?_eq_some_iff).mp h₁
  obtain ⟨⟨-, -, hp₂⟩, rfl⟩ := (g.chromaOffset?_eq_some_iff).mp h₂
  rcases Nat.lt_trichotomy (g.layout.chromaRow r₁) (g.layout.chromaRow r₂) with hr | hr | hr
  · exact .inl (pair_before_of_row_lt (by omega) hr)
  · -- one row: two different even columns are at least two apart
    have e₁ := pairColumn_even c₁
    have e₂ := pairColumn_even c₂
    rw [hr] at hne ⊢
    omega
  · exact .inr (pair_before_of_row_lt (by omega) hr)

theorem lumaLen_le_requiredLen : g.lumaLen ≤ g.requiredLen :=
  Nat.le_add_right _ _

end PlaneGeometry

namespace FrameBuffer

variable {b : FrameBuffer}

/-- A buffer that `wrap` accepts reads its bytes through the geometry asked for, and has at least
the bytes that geometry requires. -/
theorem wrap_eq_ok {data : Array UInt8} {stride height : Nat} {layout : PixelLayout}
    (h : wrap data stride height layout = .ok b) :
    b.geometry = ⟨stride, height, layout⟩ ∧ b.data = data ∧ b.geometry.requiredLen ≤ data.size := by
  unfold wrap at h
  dsimp only at h
  split_ifs at h with hz hs
  cases h
  exact ⟨rfl, rfl, Nat.le_of_not_lt hs⟩

/-- A buffer with the bytes its geometry requires reads a luma byte wherever the geometry places
one. -/
theorem luma?_isSome_iff (hb : b.geometry.requiredLen ≤ b.data.size) {row col : Nat} :
    (b.luma? row col).isSome ↔ (b.geometry.lumaOffset? row col).isSome := by
  unfold luma?
  rcases ho : b.geometry.lumaOffset? row col with _ | o
  · rfl
  · obtain ⟨hr, hc, rfl⟩ := (b.geometry.lumaOffset?_eq_some_iff).mp ho
    have hlt := b.geometry.rowMajor_lt_lumaLen hr hc
    have hin : row * b.geometry.stride + col < b.data.size :=
      Nat.lt_of_lt_of_le hlt (Nat.le_trans b.geometry.lumaLen_le_requiredLen hb)
    simp [hin]

/-- A buffer with the bytes its geometry requires reads a chroma pair wherever the geometry places
one. -/
theorem chroma?_isSome_iff (hb : b.geometry.requiredLen ≤ b.data.size) {row col : Nat} :
    (b.chroma? row col).isSome ↔ (b.geometry.chromaOffset? row col).isSome := by
  unfold chroma?
  rcases ho : b.geometry.chromaOffset? row col with _ | o
  · rfl
  · have hmem := b.geometry.chromaOffset_mem ho
    have hu : o < b.data.size := by omega
    have hv : o + 1 < b.data.size := by omega
    simp [hu, hv]

end FrameBuffer

namespace PlaneGeometry

/-- The planes of any geometry are laid out without overlap or bytes past the end: a pixel has a
luma byte exactly when it is in the frame, at its row-major position inside the luma plane and
shared with no other pixel; it has a chroma pair exactly when it is in the frame and the pair ends
inside the row, both bytes in the chroma plane, shared exactly by the pixels of its chroma row and
column pair, and apart from every other pair. A buffer that `wrap` accepts for the geometry reads a
luma byte and a chroma pair under exactly those conditions. -/
theorem offsets_laid_out (g : PlaneGeometry) :
    (∀ row col, (g.lumaOffset? row col).isSome ↔ row < g.height ∧ col < g.stride) ∧
      (∀ row col o, g.lumaOffset? row col = some o → o = row * g.stride + col ∧ o < g.lumaLen) ∧
      (∀ r₁ c₁ r₂ c₂ o, g.lumaOffset? r₁ c₁ = some o → g.lumaOffset? r₂ c₂ = some o →
        r₁ = r₂ ∧ c₁ = c₂) ∧
      (∀ row col, (g.chromaOffset? row col).isSome ↔
        row < g.height ∧ col < g.stride ∧ pairColumn col + 1 < g.stride) ∧
      (∀ row col o, g.chromaOffset? row col = some o → g.lumaLen ≤ o ∧ o + 2 ≤ g.requiredLen) ∧
      (∀ r₁ c₁ o₁ r₂ c₂ o₂, g.chromaOffset? r₁ c₁ = some o₁ → g.chromaOffset? r₂ c₂ = some o₂ →
        (o₁ = o₂ ↔ g.layout.chromaRow r₁ = g.layout.chromaRow r₂ ∧ pairColumn c₁ = pairColumn c₂) ∧
          (o₁ ≠ o₂ → o₁ + 2 ≤ o₂ ∨ o₂ + 2 ≤ o₁)) ∧
      (∀ (data : Array UInt8) (b : FrameBuffer), FrameBuffer.wrap data g.stride g.height g.layout = .ok b →
        ∀ row col, ((b.luma? row col).isSome ↔ row < g.height ∧ col < g.stride) ∧
          ((b.chroma? row col).isSome ↔
            row < g.height ∧ col < g.stride ∧ pairColumn col + 1 < g.stride)) := by
  refine ⟨fun row col => g.lumaOffset?_isSome_iff, fun row col o h => ?_, fun r₁ c₁ r₂ c₂ o h₁ h₂ => ?_,
    fun row col => g.chromaOffset?_isSome_iff, fun row col o h => g.chromaOffset_mem h,
    fun r₁ c₁ o₁ r₂ c₂ o₂ h₁ h₂ => ⟨g.chromaOffset_eq_iff h₁ h₂, g.chromaOffset_apart h₁ h₂⟩,
    fun data b hb row col => ?_⟩
  · obtain ⟨hr, hc, rfl⟩ := (g.lumaOffset?_eq_some_iff).mp h
    exact ⟨rfl, g.rowMajor_lt_lumaLen hr hc⟩
  · obtain ⟨-, hc₁, rfl⟩ := (g.lumaOffset?_eq_some_iff).mp h₁
    obtain ⟨-, hc₂, ho⟩ := (g.lumaOffset?_eq_some_iff).mp h₂
    exact rowMajor_inj hc₁ hc₂ ho
  · obtain ⟨hg, rfl, hlen⟩ := FrameBuffer.wrap_eq_ok hb
    rw [FrameBuffer.luma?_isSome_iff hlen, FrameBuffer.chroma?_isSome_iff hlen, hg]
    exact ⟨g.lumaOffset?_isSome_iff, g.chromaOffset?_isSome_iff⟩

/-- The 8 × 4 `nv12` geometry: the pixels (0, 0) and (1, 1) share the chroma pair at byte 32, the
pixel (3, 5) has the pair at byte 44 two rows of the chroma plane lower, and a buffer of the 48 bytes
required reads that pair. -/
theorem offsets_laid_out_nv12 :
    let g : PlaneGeometry := ⟨8, 4, .nv12⟩
    let b : FrameBuffer := ⟨Array.replicate 48 0, g⟩
    g.chromaOffset? 0 0 = some 32 ∧ g.chromaOffset? 1 1 = some 32 ∧ g.chromaOffset? 3 5 = some 44 ∧
      FrameBuffer.wrap (Array.replicate 48 0) 8 4 .nv12 = .ok b ∧
      (g.layout.chromaRow 0 = g.layout.chromaRow 1 ∧ pairColumn 0 = pairColumn 1) ∧
      (32 + 2 ≤ 44 ∨ 44 + 2 ≤ 32) ∧ (b.chroma? 3 5).isSome := by
  intro g b
  have h₀ : g.chromaOffset? 0 0 = some 32 := by decide
  have h₁ : g.chromaOffset? 1 1 = some 32 := by decide
  have h₃ : g.chromaOffset? 3 5 = some 44 := by decide
  have hb : FrameBuffer.wrap (Array.replicate 48 0) 8 4 .nv12 = .ok b := rfl
  have laid := offsets_laid_out g
  exact ⟨h₀, h₁, h₃, hb, (laid.2.2.2.2.2.1 0 0 32 1 1 32 h₀ h₁).1.mp rfl,
    (laid.2.2.2.2.2.1 0 0 32 3 5 44 h₀ h₃).2 (by decide),
    (laid.2.2.2.2.2.2 _ b hb 3 5).2.mpr (by decide)⟩

end PlaneGeometry

end FaceFraming
