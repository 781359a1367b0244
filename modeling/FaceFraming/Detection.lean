import FaceFraming.Geometry.Face
import FaceFraming.Json.Shape

/-!
# Reading detections

A detector attaches to each frame a JSON document `{"faces": [...]}` (trailing NUL bytes, as left
by fixed-size buffers, are ignored). Each entry of `faces` is an object with the integer members
`confidence`, `x`, `y`, `w`, `h` (other members are ignored), or an array of exactly those five in
that order. `readFaces` keeps, in document order, the entries that give all five as integers,
each clamped to `[0, 65535]`, whose confidence reaches the threshold, and at most `cap` of them.

A document that cannot be read yields no faces; `readFaces?` tells that case apart with `none`.
Entries are checked one by one: an entry that is not a face is skipped, the others are kept.
-/

namespace FaceFraming.Detection

open Json

/-- A 64-bit signed integer member that may be absent or `null`. -/
def optionalInt : Shape × Need :=
  (.optional (.signed Word.i64Min Word.i64Max "i64"), .optional)

/-- The shape of a face entry. -/
def entryShape : Shape :=
  .record "RawFace" [("confidence", optionalInt), ("x", optionalInt), ("y", optionalInt),
    ("w", optionalInt), ("h", optionalInt)]

/-- The shape of a detection document: a record with a list of entries of any kind. -/
def documentShape : Shape :=
  .record "FaceMetadata" [("faces", .list .any, .defaulted)]

/-- The bytes without the NUL bytes at their end. -/
def trimNul (bs : List UInt8) : List UInt8 :=
  (bs.reverse.dropWhile (· == 0)).reverse

/-- NUL bytes added at the end change nothing. -/
theorem trimNul_append_zeros (bs : List UInt8) (k : Nat) :
    trimNul (bs ++ List.replicate k 0) = trimNul bs := by
  simp only [trimNul, List.reverse_append, List.reverse_replicate]
  congr 1
  induction k with
  | zero => rfl
  | succ k ih => simp [List.replicate_succ, ih]

/-- An integer clamped to the 16-bit range. -/
def clampToU16 (i : Int) : Nat :=
  (Word.clampInt 0 Word.u16Max i).toNat

/-- The face of an entry, when it gives all five members as integers. -/
def faceOfEntry? (entry : Value) : Option FaceBox :=
  match conformValue entryShape entry with
  | .error _ => none
  | .ok r => do
    let c ← (r.field? "confidence").bind Value.asInt?
    let x ← (r.field? "x").bind Value.asInt?
    let y ← (r.field? "y").bind Value.asInt?
    let w ← (r.field? "w").bind Value.asInt?
    let h ← (r.field? "h").bind Value.asInt?
    some ⟨clampToU16 x, clampToU16 y, clampToU16 w, clampToU16 h, clampToU16 c⟩

/-- The entries of a detection document, or `none` when it cannot be read. -/
def entries? (bs : List UInt8) : Option (List Value) :=
  match readDocument documentShape (trimNul bs) with
  | .error _ => none
  | .ok doc => some (((doc.get? "faces").bind Value.asList?).getD [])

/-- The faces of a detection document: entries that are faces, confident enough, at most `cap`;
`none` when the document cannot be read. -/
def readFaces? (bs : List UInt8) (threshold cap : Nat) : Option (List FaceBox) :=
  (entries? bs).map fun es =>
    ((es.filterMap faceOfEntry?).filter (threshold ≤ ·.confidence)).take cap

/-- The faces of a detection document; none when it cannot be read. -/
def readFaces (bs : List UInt8) (threshold cap : Nat) : List FaceBox :=
  (readFaces? bs threshold cap).getD []

/-- NUL bytes after a document change none of its faces. -/
theorem readFaces?_append_zeros (bs : List UInt8) (k threshold cap : Nat) :
    readFaces? (bs ++ List.replicate k 0) threshold cap = readFaces? bs threshold cap := by
  simp only [readFaces?, entries?, trimNul_append_zeros]

end FaceFraming.Detection
