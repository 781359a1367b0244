import FaceFraming.Tracking.Tracker
import FaceFraming.Framing.Checked

/-!
# The tracker with its arithmetic checked

`Tracker.update` and `Tracker.drawOverlay` compute with unbounded integers. `Tracker.update?` and
`Tracker.drawOverlay?` are the same calls as an overflow-checked build runs them: every integer
operation that can stop the program, in its word and in the order the program takes them, and a
panic where one leaves its word.

The words are the program's. A face box has 16-bit parts read as 32-bit words, so its right and
bottom edges and its area are 32-bit sums and products, and the mean confidence of several boxes is
a 32-bit sum divided by their number read as a 32-bit word. The smoothing window keeps 64-bit edge
sums and divides them by its size. A crop's visible size and center are 32-bit, computed from the
frame side read as a signed 32-bit word (`Word.wrap32`). The smoother's frame counter is 32-bit, and
the planner plans with `Planner.plan?`. Remapping faces through a crop scales 64-bit coordinates.
Saturating operations, comparisons, conversions and the doubles of the rate cannot stop the program
and are as in the unchecked calls.
-/

namespace FaceFraming

open Word

namespace FaceBox

/-- One past the box's last column, as a 32-bit sum. -/
def right? (f : FaceBox) : Checked Int :=
  IntType.u32.add f.x f.w

/-- One past the box's last row, as a 32-bit sum. -/
def bottom? (f : FaceBox) : Checked Int :=
  IntType.u32.add f.y f.h

/-- The pixels a box covers, as a 32-bit product. -/
def area? (f : FaceBox) : Checked Int :=
  IntType.u32.mul f.w f.h

/-- `union` in checked words: every edge computed, the confidences summed in 32 bits and divided
by the number of boxes read as a 32-bit word, and the size taken between the extreme edges. -/
def union? : List FaceBox → Checked (Option FaceBox)
  | [] => pure none
  | f :: fs => do
    let all := f :: fs
    let x := fs.foldl (fun m g => min m g.x) f.x
    let y := fs.foldl (fun m g => min m g.y) f.y
    let rights ← all.mapM right?
    let bottoms ← all.mapM bottom?
    let total ← all.foldlM (fun s g => IntType.u32.add s g.confidence) 0
    let c ← IntType.u32.div total (all.length % 4294967296 : Nat)
    let w ← IntType.u32.sub (rights.foldl max 0) x
    let h ← IntType.u32.sub (bottoms.foldl max 0) y
    pure (some ⟨sat16 x, sat16 y, sat16 w.toNat, sat16 h.toNat, sat16 c.toNat⟩)

end FaceBox

namespace EdgeSums

/-- The sums with one more crop, in 64-bit words. -/
def add? (s : EdgeSums) (c : Crop) : Checked EdgeSums := do
  let top ← IntType.i64.add s.top c.top
  let bottom ← IntType.i64.add s.bottom c.bottom
  let left ← IntType.i64.add s.left c.left
  let right ← IntType.i64.add s.right c.right
  pure ⟨top, bottom, left, right⟩

/-- The sums with one crop fewer, in 64-bit words. -/
def sub? (s : EdgeSums) (c : Crop) : Checked EdgeSums := do
  let top ← IntType.i64.sub s.top c.top
  let bottom ← IntType.i64.sub s.bottom c.bottom
  let left ← IntType.i64.sub s.left c.left
  let right ← IntType.i64.sub s.right c.right
  pure ⟨top, bottom, left, right⟩

end EdgeSums

namespace CropWindow

/-- `evict` with the oldest crop taken off the sums in 64-bit words. -/
def evict? (w : CropWindow) : Checked (List Crop × EdgeSums) :=
  match w.crops with
  | oldest :: rest =>
    if w.crops.length = w.capacity then do
      let sums ← w.sums.sub? oldest
      pure (rest, sums)
    else pure (w.crops, w.sums)
  | [] => pure ([], w.sums)

/-- `push` with the sums kept in 64-bit words. -/
def push? (w : CropWindow) (c : Crop) : Checked CropWindow := do
  let room ← w.evict?
  let sums ← room.2.add? c
  pure { w with crops := room.1 ++ [c], sums }

/-- `average` in 64-bit words, each mean read back as a 32-bit word. -/
def average? (w : CropWindow) : Checked Crop := do
  let n : Int := w.crops.length
  if w.crops.isEmpty then pure Crop.identity
  else
    let top ← IntType.i64.div w.sums.top n
    let bottom ← IntType.i64.div w.sums.bottom n
    let left ← IntType.i64.div w.sums.left n
    let right ← IntType.i64.div w.sums.right n
    pure ⟨wrap32 top, wrap32 bottom, wrap32 left, wrap32 right⟩

end CropWindow

namespace Smoother

/-- `needsUpdate` with its frame counter stepped in 32 bits, the one integer the decision
computes; the held-frames counter saturates. -/
def needsUpdate? (s : Smoother) (count : Nat) : Checked (Bool × Smoother) := do
  let _ ← IntType.u32.add s.sinceDecision 1
  pure (s.needsUpdate count)

/-- `push` in checked words. -/
def push? (s : Smoother) (c : Crop) : Checked Smoother := do
  let window ← s.window.push? c
  pure { s with window }

/-- `average` in checked words. -/
def average? (s : Smoother) : Checked Crop :=
  s.window.average?

end Smoother

namespace Crop

/-- Columns left visible, in 32-bit words. -/
def visibleWidth? (c : Crop) (width : Nat) : Checked Int := do
  let a ← IntType.i32.sub (wrap32 width) c.left
  IntType.i32.sub a c.right

/-- Rows left visible, in 32-bit words. -/
def visibleHeight? (c : Crop) (height : Nat) : Checked Int := do
  let a ← IntType.i32.sub (wrap32 height) c.top
  IntType.i32.sub a c.bottom

/-- The middle of the visible region, in 32-bit words. -/
def center? (c : Crop) (width height : Nat) : Checked Point := do
  let vw ← c.visibleWidth? width
  let hw ← IntType.i32.div vw 2
  let x ← IntType.i32.add c.left hw
  let vh ← c.visibleHeight? height
  let hh ← IntType.i32.div vh 2
  let y ← IntType.i32.add c.top hh
  pure ⟨x, y⟩

end Crop

/-- `Target.ofCrop?` in checked words. -/
def Target.checkedOfCrop (c : Crop) (width height : Nat) : Checked (Option Target) := do
  let p ← c.center? width height
  let vw ← c.visibleWidth? width
  let vh ← c.visibleHeight? height
  pure (Target.ofCenter? p.x p.y vw.toNat vh.toNat)

/-- `remapCoordinate` in 64-bit words. -/
def remapCoordinate? (value offset full visible : Int) : Checked Int := do
  let shifted ← IntType.i64.sub value offset
  let scaled ← IntType.i64.mul shifted full
  let q ← IntType.i64.div scaled visible
  clampChecked 0 full q

/-- One face remapped through a crop whose visible size is `vw × vh`, in checked words. -/
def remapFace? (c : Crop) (width height : Nat) (vw vh : Int) (f : FaceBox) :
    Checked (Option FaceBox) := do
  let x1 ← remapCoordinate? f.x c.left width vw
  let x2 ← remapCoordinate? (← f.right?) c.left width vw
  let y1 ← remapCoordinate? f.y c.top height vh
  let y2 ← remapCoordinate? (← f.bottom?) c.top height vh
  let w ← IntType.i64.sub x2 x1
  let h ← IntType.i64.sub y2 y1
  pure (if w ≤ 0 ∨ h ≤ 0 then none
    else some ⟨(clampInt 0 u16Max x1).toNat, (clampInt 0 u16Max y1).toNat,
      (clampInt 0 u16Max w).toNat, (clampInt 0 u16Max h).toNat, f.confidence⟩)

/-- `remapFaces` in checked words. -/
def remapFaces? (c : Crop) (width height : Nat) (faces : List FaceBox) :
    Checked (List FaceBox) := do
  let vw ← c.visibleWidth? width
  let vh ← c.visibleHeight? height
  if vw ≤ 0 ∨ vh ≤ 0 then pure []
  else faces.filterMapM (remapFace? c width height vw vh)

namespace Tracker

/-- `select` in checked words: the widest face compares areas computed in 32 bits. -/
def select? (t : Tracker) : Checked (Option FaceBox) :=
  match t.faces with
  | [] => pure none
  | [f] => pure (some f)
  | f :: rest =>
    if t.switches.widestFace then
      some <$> rest.foldlM (fun widest g => do
        let a ← g.area?
        let b ← widest.area?
        pure (if b < a then g else widest)) f
    else FaceBox.union? t.faces

/-- `retarget` in checked words. -/
def retarget? (t : Tracker) (width height : Nat) : Checked Tracker := do
  let previous := t.smoother.selectedCount
  let (accept, smoother) ← t.smoother.needsUpdate? t.faces.length
  if !accept then pure { t with smoother }
  else
    let smoother :=
      if (previous == 0) == t.faces.isEmpty then smoother else smoother.clearWindow
    let face := (← t.select?).getD (FaceBox.wholeFrame width height)
    let smoother ← smoother.push? (Crop.around face width height)
    let target ← if t.faces.isEmpty then pure none
      else do Target.checkedOfCrop (← smoother.average?) width height
    pure { t with smoother, target,
                  tally := { t.tally with targetUpdates := t.tally.targetUpdates + 1 } }

/-- `update` as an overflow-checked build runs it. -/
def update? (t : Tracker) (document : List UInt8) (width height ms : Nat) : Checked Tracker :=
  match t.plannerFor width height with
  | none => pure t
  | some (p, t) => do
    let p := p.recordFrame ms
    let fps := p.fps?
    let read := Detection.readFaces? document t.config.confidenceThreshold t.config.maxFaces
    let tally := { t.tally with
      fps := fps.orElse fun _ => t.tally.fps
      unreadable := t.tally.unreadable + (if read.isNone then 1 else 0) }
    let t := { t with smoother := t.smoother.adaptLeap fps, faces := read.getD [], tally }
    let t ← t.retarget? width height
    let (d, p') ← p.plan? t.target
    pure { t with planner := some p', dirty := t.dirty || d.changed,
                  tally := t.tally.notePlan p.phase p'.phase d.changed }

/-- `remap` in checked words. -/
def remap? (t : Tracker) (c : Crop) : Checked (List FaceBox) :=
  match t.planner with
  | some p => remapFaces? c p.width p.height t.faces
  | none => pure []

/-- `drawOverlay` with the faces remapped in checked words. -/
def drawOverlay? (t : Tracker) (b : FrameBuffer) : Checked (FrameBuffer × Nat) :=
  if t.switches.drawOverlay then do
    let faces ← t.remap? t.applied
    pure (b.drawFaces Color.green faces)
  else pure (b, 0)

end Tracker

end FaceFraming
