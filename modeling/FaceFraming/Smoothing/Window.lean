import FaceFraming.Geometry.Crop

/-!
# The smoothing window

A smoothing window holds the last crops, at most `capacity` of them (at least one), and averages
them edge by edge: the sum of an edge over the kept crops divided by their number, truncated toward
zero. An empty window averages to the crop that cuts nothing.

The window keeps the four edge sums as it goes, adding a crop's edges when it comes in and taking
them away when it leaves, so an average needs no pass over the crops. `EdgeSums.ofList` is the same
sums computed afresh from the kept crops; `sums_push` and `sums_clear` say that every operation
keeps the two equal, and `size_push_le` that a window never holds more than its capacity.
-/

namespace FaceFraming

/-- The sums of each edge over some crops. -/
structure EdgeSums where
  /-- Sum of the top edges. -/
  top : Int := 0
  /-- Sum of the bottom edges. -/
  bottom : Int := 0
  /-- Sum of the left edges. -/
  left : Int := 0
  /-- Sum of the right edges. -/
  right : Int := 0
  deriving Repr, DecidableEq

namespace EdgeSums

/-- The sums with one more crop. -/
def add (s : EdgeSums) (c : Crop) : EdgeSums :=
  ⟨s.top + c.top, s.bottom + c.bottom, s.left + c.left, s.right + c.right⟩

/-- The sums with one crop fewer. -/
def sub (s : EdgeSums) (c : Crop) : EdgeSums :=
  ⟨s.top - c.top, s.bottom - c.bottom, s.left - c.left, s.right - c.right⟩

/-- The sums over a list of crops. -/
def ofList : List Crop → EdgeSums
  | [] => {}
  | c :: cs => (ofList cs).add c

/-- Taking away a crop just added gives the sums back. -/
@[simp] theorem add_sub (s : EdgeSums) (c : Crop) : (s.add c).sub c = s := by
  cases s
  simp only [add, sub, Int.add_sub_cancel]

/-- Crops may be added in either order. -/
theorem add_add_comm (s : EdgeSums) (a b : Crop) : (s.add a).add b = (s.add b).add a := by
  simp only [add, mk.injEq]
  omega

/-- The sums over a list with a crop at its end. -/
theorem ofList_append_singleton (cs : List Crop) (c : Crop) :
    ofList (cs ++ [c]) = (ofList cs).add c := by
  induction cs with
  | nil => rfl
  | cons a cs ih => simp only [List.cons_append, ofList, ih, add_add_comm]

end EdgeSums

/-- The last crops, oldest first, with their edge sums. -/
structure CropWindow where
  /-- How many crops are kept, at least one. -/
  capacity : Nat
  /-- The kept crops, oldest first. -/
  crops : List Crop := []
  /-- The edge sums of the kept crops, kept up to date by each operation. -/
  sums : EdgeSums := {}
  deriving Repr, DecidableEq

namespace CropWindow

/-- An empty window; a capacity of zero is raised to one. -/
def create (capacity : Nat) : CropWindow :=
  { capacity := max capacity 1 }

/-- The crops and sums left after making room: the oldest crop goes when the window is full. -/
def evict (w : CropWindow) : List Crop × EdgeSums :=
  match w.crops with
  | oldest :: rest =>
    if w.crops.length = w.capacity then (rest, w.sums.sub oldest) else (w.crops, w.sums)
  | [] => ([], w.sums)

/-- Adds a crop, forgetting the oldest when full. -/
def push (w : CropWindow) (c : Crop) : CropWindow :=
  let room := w.evict
  { w with crops := room.1 ++ [c], sums := room.2.add c }

/-- How many crops are kept. -/
def size (w : CropWindow) : Nat :=
  w.crops.length

/-- Forgets every crop. -/
def clear (w : CropWindow) : CropWindow :=
  { w with crops := [], sums := {} }

/-- The edge-by-edge mean of the kept crops, truncated toward zero; the identity crop when none is
kept. -/
def average (w : CropWindow) : Crop :=
  let n : Int := w.crops.length
  if w.crops.isEmpty then Crop.identity
  else ⟨w.sums.top.tdiv n, w.sums.bottom.tdiv n, w.sums.left.tdiv n, w.sums.right.tdiv n⟩

/-- Making room drops the oldest crop exactly when the window is full. -/
theorem evict_crops (w : CropWindow) :
    w.evict.1 = if w.crops.length = w.capacity then w.crops.drop 1 else w.crops := by
  unfold evict
  split
  · split <;> simp_all
  · simp_all

/-- Making room keeps the sums equal to the sums of the crops left. -/
theorem evict_sums {w : CropWindow} (h : w.sums = EdgeSums.ofList w.crops) :
    w.evict.2 = EdgeSums.ofList w.evict.1 := by
  unfold evict
  split
  · next oldest rest hw =>
    rw [hw] at h
    split <;> simp_all [EdgeSums.ofList]
  · simp_all

/-- The crops kept after a push: the old ones, less the oldest when the window was full, then the
new one. -/
theorem crops_push (w : CropWindow) (c : Crop) :
    (w.push c).crops = (if w.crops.length = w.capacity then w.crops.drop 1 else w.crops) ++ [c] := by
  rw [← evict_crops]
  rfl

/-- A push keeps the sums equal to the sums of the kept crops. -/
theorem sums_push {w : CropWindow} (h : w.sums = EdgeSums.ofList w.crops) (c : Crop) :
    (w.push c).sums = EdgeSums.ofList (w.push c).crops := by
  show w.evict.2.add c = EdgeSums.ofList (w.evict.1 ++ [c])
  rw [EdgeSums.ofList_append_singleton, evict_sums h]

/-- Clearing leaves no crops and zero sums. -/
theorem sums_clear (w : CropWindow) : w.clear.sums = EdgeSums.ofList w.clear.crops :=
  rfl

/-- A window never holds more crops than its capacity. -/
theorem size_push_le (w : CropWindow) (c : Crop) (h : w.size ≤ w.capacity) (hc : 1 ≤ w.capacity) :
    (w.push c).size ≤ (w.push c).capacity := by
  have hcap : (w.push c).capacity = w.capacity := by
    unfold push; rfl
  unfold size at *
  rw [crops_push, hcap]
  split <;> simp <;> omega

end CropWindow

end FaceFraming
