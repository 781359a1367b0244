import FaceFraming.Frame.Buffer
import FaceFraming.Geometry.Face

/-!
# Drawing face outlines

`drawBoxes` outlines faces on a frame's bytes: each face box, clipped to the frame, gets a border
two pixels wide (thinner where the box is), painted in one color: the luma byte of every border
pixel, and the chroma pair of its column pair. Bytes past the end of the array are skipped, so the
array may be of any length. Boxes that the frame clips away entirely are not counted.
-/

namespace FaceFraming

/-- A YUV color. -/
structure Color where
  /-- Luma. -/
  y : UInt8
  /-- Blue-difference chroma. -/
  u : UInt8
  /-- Red-difference chroma. -/
  v : UInt8
  deriving Repr, DecidableEq

/-- The outline color. -/
def Color.green : Color :=
  ⟨149, 43, 21⟩

/-- Width of an outline, in pixels. -/
def lineWidth : Nat := 2

/-- Sets a byte, when the array has it. -/
def setByte (data : Array UInt8) (i : Nat) (b : UInt8) : Array UInt8 :=
  data.setIfInBounds i b

/-- Paints one pixel: its luma byte, and its chroma pair when both bytes of the pair are in the
array. -/
def paint (g : PlaneGeometry) (color : Color) (data : Array UInt8) (row col : Nat) : Array UInt8 :=
  let data := match g.lumaOffset? row col with
    | some o => setByte data o color.y
    | none => data
  match g.chromaOffset? row col with
  | some o => if o + 2 ≤ data.size then setByte (setByte data o color.u) (o + 1) color.v else data
  | none => data

/-- Paints the pixels of `rows × [c0, c1)`. -/
def paintRect (g : PlaneGeometry) (color : Color) (data : Array UInt8) (rows : List Nat)
    (c0 c1 : Nat) : Array UInt8 :=
  rows.foldl (fun d r => (List.range' c0 (c1 - c0)).foldl (fun d c => paint g color d r c) d) data

/-- Outlines one face, clipped to the frame; `none` when the clipped box is empty. -/
def drawBox (g : PlaneGeometry) (color : Color) (data : Array UInt8) (f : FaceBox) :
    Option (Array UInt8) :=
  let x0 := min f.x g.stride
  let y0 := min f.y g.height
  let x1 := min f.right g.stride
  let y1 := min f.bottom g.height
  if x1 ≤ x0 ∨ y1 ≤ y0 then none
  else
    let topEnd := min (y0 + lineWidth) y1
    let bottomStart := max (y1 - lineWidth) y0
    let leftEnd := min (x0 + lineWidth) x1
    let rightStart := max (x1 - lineWidth) x0
    let horizontal := List.range' y0 (topEnd - y0) ++ List.range' bottomStart (y1 - bottomStart)
    let data := paintRect g color data horizontal x0 x1
    let rows := List.range' y0 (y1 - y0)
    let data := paintRect g color data rows x0 leftEnd
    some (paintRect g color data rows rightStart x1)

/-- Outlines faces on a frame's bytes; returns the bytes and the number of faces outlined. -/
def drawBoxes (g : PlaneGeometry) (color : Color) (data : Array UInt8) (faces : List FaceBox) :
    Array UInt8 × Nat :=
  faces.foldl (fun (d, n) f => match drawBox g color d f with
    | some d' => (d', n + 1)
    | none => (d, n)) (data, 0)

/-- Outlines faces on a frame buffer. -/
def FrameBuffer.drawFaces (b : FrameBuffer) (color : Color) (faces : List FaceBox) :
    FrameBuffer × Nat :=
  let (d, n) := drawBoxes b.geometry color b.data faces
  (⟨d, b.geometry⟩, n)

end FaceFraming
