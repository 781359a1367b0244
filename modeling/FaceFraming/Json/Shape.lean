import FaceFraming.Json.Reader

/-!
# Reading JSON by shape

A `Shape` says what a reader expects at a place of a document: a bounded integer, a double, a path
string, any value, an optional value, a list, or a record with named fields. Records are read
either from an object (members by name, unknown members skipped, a member given twice refused) or
from an array (fields in declaration order). Each field says what happens when it is not given:
`required` fields are refused as missing, `optional` ones are absent, `defaulted` ones are left
to their default (an array too short for an `optional` field is refused as well).

`readShaped` reads text by shape: the faults it meets are those a reader of that shape meets, in
document order, with their places. `conform` checks a value already read against a shape; its
faults carry no place. Both return the value they read, records as objects holding the fields
that were given, in the order read.
-/

namespace FaceFraming.Json

open Scan

/-- What happens to a record field that is not given. -/
inductive Need where
  /-- It is refused as missing. -/
  | required
  /-- It is absent (`None`). -/
  | optional
  /-- It takes the record's default. -/
  | defaulted
  deriving DecidableEq, Repr

/-- What a reader expects at a place of a document. -/
inductive Shape where
  /-- A natural number no larger than `max`, named `name` in messages. -/
  | unsigned (max : Nat) (name : String)
  /-- An integer of `[min, max]`, named `name` in messages. -/
  | signed (min max : Int) (name : String)
  /-- A double; integers are converted. -/
  | float
  /-- A string naming a path. -/
  | path
  /-- Any value, kept as read. -/
  | any
  /-- `null`, or a value of the inner shape. -/
  | optional (inner : Shape)
  /-- An array of values of the item shape. -/
  | list (item : Shape)
  /-- A record with fields of the given names, shapes and needs. -/
  | record (name : String) (fields : List (String × Shape × Need))

/-- How a message names what a shape expects. -/
def Shape.expecting : Shape → String
  | .unsigned _ n => n
  | .signed _ _ n => n
  | .float => "f64"
  | .path => "path string"
  | .any => "any valid JSON value"
  | .optional _ => "option"
  | .list _ => "a sequence"
  | .record n _ => "struct " ++ n

/-- How a message names an array that would hold a whole record. -/
def recordLength (name : String) (n : Nat) : String :=
  "struct " ++ name ++ " with " ++ toString n ++ (if n = 1 then " element" else " elements")

/-- A number as a numeric shape takes it, or the fault of taking it. -/
def takeNumber (sh : Shape) (n : Number) : Except Fault Value :=
  match sh, n with
  | .unsigned max name, .nat k => if k ≤ max then .ok (.num (.nat k)) else .error (.invalidValue (.unsigned k) name)
  | .unsigned _ name, .neg i => .error (.invalidValue (.signed i) name)
  | .signed _ max name, .nat k => if (k : Int) ≤ max then .ok (.num (.nat k)) else .error (.invalidValue (.unsigned k) name)
  | .signed min _ name, .neg i => if min ≤ i then .ok (.num (.neg i)) else .error (.invalidValue (.signed i) name)
  | .float, .nat k => .ok (.num (.float (Double.ofNat k)))
  | .float, .neg i => .ok (.num (.float (Double.ofInt i)))
  | .float, .float f => .ok (.num (.float f))
  | sh, n => .error (.invalidType (Unexpected.ofValue (.num n)) sh.expecting)

/-- Takes the token at the reader and names what it is, for a fault of the wrong type; an array
or object is named without being taken. -/
def foundToken : Scan Unexpected := do
  match ← peek with
  | some b =>
    if b = 110 then do bump; ident [117, 108, 108]; return .unit
    else if b = 116 then do bump; ident [114, 117, 101]; return .bool true
    else if b = 102 then do bump; ident [97, 108, 115, 101]; return .bool false
    else if b = 45 then do bump; return Unexpected.ofValue (.num (← readNumber false))
    else if isDigit b then return Unexpected.ofValue (.num (← readNumber true))
    else if b = 34 then do bump; return .str (← readString)
    else if b = 91 then return .seq
    else if b = 123 then return .map
    else failAhead .expectedValue
  | none => failAhead .expectedValue

/-- Refuses the token at the reader as not of the expected kind. -/
def wrongToken {α : Type} (expected : String) : Scan α := do
  let u ← foundToken
  reject (.invalidType u expected)

/-- Raises a fault of taking a value. -/
def liftFault {α : Type} : Except Fault α → Scan α
  | .ok a => pure a
  | .error f => reject f

mutual

/-- A value of the given shape, with `depth` levels of nesting still allowed. -/
def readShaped : Nat → Nat → Shape → Scan Value
  | 0, _, _ => failHere .eofValue
  | fuel + 1, depth, sh =>
    match sh with
    | .unsigned .. | .signed .. | .float => placing do
      match ← blank with
      | none => failAhead .eofValue
      | some b =>
        if b = 45 then do bump; liftFault (takeNumber sh (← readNumber false))
        else if isDigit b then liftFault (takeNumber sh (← readNumber true))
        else wrongToken sh.expecting
    | .path => placing do
      match ← blank with
      | none => failAhead .eofValue
      | some 34 => do bump; return .str (← readString)
      | some _ => wrongToken sh.expecting
    | .any => readValue fuel depth
    | .optional inner => do
      match ← blank with
      | some 110 => do bump; ident [117, 108, 108]; return .null
      | _ => readShaped fuel depth inner
    | .list item => placing do
      match ← blank with
      | none => failAhead .eofValue
      | some 91 => do
        descend depth
        let items ← closing (readShapedItems fuel (depth - 1) item true []) endArray
        return .arr items
      | some _ => wrongToken sh.expecting
    | .record name fields => placing do
      match ← blank with
      | none => failAhead .eofValue
      | some 91 => do
        descend depth
        closing (readRecordItems fuel (depth - 1) name fields.length fields 0 true []) endArray
      | some 123 => do
        descend depth
        closing (readRecordMembers fuel (depth - 1) fields true []) endObject
      | some _ => wrongToken sh.expecting

/-- The elements of a list, up to its closing bracket. -/
def readShapedItems : Nat → Nat → Shape → Bool → List Value → Scan (List Value)
  | 0, _, _, _, _ => failHere .eofList
  | fuel + 1, depth, item, first, acc => do
    if ← elementStart first then
      let v ← readShaped fuel depth item
      readShapedItems fuel depth item false (v :: acc)
    else return acc.reverse

/-- A record's fields from the elements of an array, in declaration order. -/
def readRecordItems : Nat → Nat → String → Nat → List (String × Shape × Need) → Nat → Bool →
    List (String × Value) → Scan Value
  | 0, _, _, _, _, _, _, _ => failHere .eofList
  | _ + 1, _, _, _, [], _, _, acc => return .obj acc.reverse
  | fuel + 1, depth, name, count, (f, sh, need) :: more, index, first, acc => do
    if ← elementStart first then
      let v ← readShaped fuel depth sh
      readRecordItems fuel depth name count more (index + 1) false ((f, v) :: acc)
    else if need = .defaulted then
      readRecordItems fuel depth name count more (index + 1) first acc
    else reject (.invalidLength index (recordLength name count))

/-- A record's fields from the members of an object, in the order given. -/
def readRecordMembers : Nat → Nat → List (String × Shape × Need) → Bool →
    List (String × Value) → Scan Value
  | 0, _, _, _, _ => failHere .eofObject
  | fuel + 1, depth, fields, first, acc => do
    if ← keyStart first then
      bump
      let key ← readString
      match fields.find? (·.1 == key) with
      | some (f, sh, _) =>
        if acc.any (·.1 == f) then reject (.duplicateField f)
        else do
          colon
          let v ← readShaped fuel depth sh
          readRecordMembers fuel depth fields false ((f, v) :: acc)
      | none => do
        colon
        skipValue
        readRecordMembers fuel depth fields false acc
    else
      match fields.find? fun (f, _, need) => need = .required && !acc.any (·.1 == f) with
      | some (f, _, _) => reject (.missingField f)
      | none => return .obj acc.reverse

end

/-- A whole document of the given shape. -/
def readDocument (sh : Shape) (bs : List UInt8) : Except Error Value :=
  Scan.runOn (do let v ← readShaped (4 * bs.length + 256) depthLimit sh; endDocument; pure v) bs

/-- A record's fields from an array's elements, each checked by `check`; elements left over are
refused. -/
def conformRecordItems (check : Shape → Value → Except Fault Value) (name : String) (count : Nat) :
    List (String × Shape × Need) → List Value → Nat → List (String × Value) → Except Fault Value
  | [], xs, _, acc =>
    if xs.isEmpty then .ok (.obj acc.reverse)
    else .error (.invalidLength (count + xs.length) "fewer elements in array")
  | (f, sh, need) :: more, xs, index, acc =>
    match xs with
    | x :: rest => do
      let v ← check sh x
      conformRecordItems check name count more rest (index + 1) ((f, v) :: acc)
    | [] =>
      if need = .defaulted then conformRecordItems check name count more [] (index + 1) acc
      else .error (.invalidLength index (recordLength name count))

/-- A record's fields from an object's members, each checked by `check`. -/
def conformRecordMembers (check : Shape → Value → Except Fault Value)
    (fields : List (String × Shape × Need)) :
    List (String × Value) → List (String × Value) → Except Fault Value
  | [], acc =>
    match fields.find? fun (f, _, need) => need = .required && !acc.any (·.1 == f) with
    | some (f, _, _) => .error (.missingField f)
    | none => .ok (.obj acc.reverse)
  | (k, x) :: more, acc =>
    match fields.find? (·.1 == k) with
    | some (f, sh, _) => do
      let v ← check sh x
      conformRecordMembers check fields more ((f, v) :: acc)
    | none => conformRecordMembers check fields more acc

/-- Checks a value already read against a shape, with `depth` levels of nesting still allowed;
the elements of an array and the members of an object are checked one level down. -/
def conform : Nat → Shape → Value → Except Fault Value
  | 0, _, _ => .error (.malformed .recursionLimit)
  | depth + 1, sh, v =>
    match sh, v with
    | .unsigned .., .num n | .signed .., .num n | .float, .num n => takeNumber sh n
    | .path, .str s => .ok (.str s)
    | .any, v => .ok v
    | .optional _, .null => .ok .null
    | .optional inner, v => conform depth inner v
    | .list item, .arr xs => (xs.mapM (conform depth item)).map .arr
    | .record name fields, .arr xs =>
      conformRecordItems (conform depth) name fields.length fields xs 0 []
    | .record _ fields, .obj ms => conformRecordMembers (conform depth) fields ms []
    | sh, v => .error (.invalidType (Unexpected.ofValue v) sh.expecting)

/-- Checks a value against a shape; the bound on nesting is far beyond any value the library
reads. -/
def conformValue (sh : Shape) (v : Value) : Except Fault Value :=
  conform 1000000 sh v

end FaceFraming.Json
