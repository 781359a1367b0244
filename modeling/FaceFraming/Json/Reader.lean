import FaceFraming.Json.Number
import FaceFraming.Json.Quoted

/-!
# Reading JSON documents

`readValue` reads any value into a `Value`; `skipValue` checks a value's syntax without keeping
it, as a reader does for members it ignores. Both follow the same steps through arrays and
objects:

* an element or a member is preceded by a comma, except the first; a comma before the closing
  bracket is a trailing comma;
* a member starts with a string key and a colon;
* after the body, the closing bracket is expected; a comma there is a trailing comma, anything
  else is trailing characters.

Arrays and objects may nest at most 127 deep while values are kept (the limit counts every array
and object a reader opens, the reader's own records included); a skipped value has no limit.
A document is one value, then nothing but blanks.
-/

namespace FaceFraming.Json

open Scan

/-- Before an array's next element: `false` at the closing bracket, which is not taken; `true`
when an element follows. -/
def elementStart (first : Bool) : Scan Bool := do
  match ← blank with
  | none => failAhead .eofList
  | some 93 => return false
  | some b =>
    if b = 44 ∧ ¬first then do
      bump
      match ← blank with
      | some 93 => failAhead .trailingComma
      | some _ => return true
      | none => failAhead .eofValue
    else if first then return true
    else failAhead .expectedListCommaOrEnd

/-- Before an object's next member: `false` at the closing brace, which is not taken; `true` at
the opening quote of a key, which is not taken either. -/
def keyStart (first : Bool) : Scan Bool := do
  match ← blank with
  | none => failAhead .eofObject
  | some 125 => return false
  | some b =>
    let p ← if b = 44 ∧ ¬first then do bump; blank
      else if first then pure (some b)
      else failAhead .expectedObjectCommaOrEnd
    match p with
    | some 34 => return true
    | some 125 => failAhead .trailingComma
    | some _ => failAhead .keyMustBeString
    | none => failAhead .eofValue

/-- The colon between a key and its value. -/
def colon : Scan Unit := do
  match ← blank with
  | some 58 => bump
  | some _ => failAhead .expectedColon
  | none => failAhead .eofObject

/-- The closing bracket of an array. -/
def endArray : Scan Unit := do
  match ← blank with
  | some 93 => bump
  | some 44 => do
    bump
    match ← blank with
    | some 93 => failAhead .trailingComma
    | _ => failAhead .trailingCharacters
  | some _ => failAhead .trailingCharacters
  | none => failAhead .eofList

/-- The closing brace of an object. -/
def endObject : Scan Unit := do
  match ← blank with
  | some 125 => bump
  | some 44 => failAhead .trailingComma
  | some _ => failAhead .trailingCharacters
  | none => failAhead .eofObject

/-- Opens an array or object: one level deeper, unless the limit is reached. -/
def descend (depth : Nat) : Scan Unit := do
  if depth ≤ 1 then failAhead .recursionLimit
  else bump

mutual

/-- Any value, with `depth` levels of nesting still allowed. -/
def readValue : Nat → Nat → Scan Value
  | 0, _ => failHere .eofValue
  | fuel + 1, depth => do
    match ← blank with
    | none => failAhead .eofValue
    | some b =>
      if b = 110 then do bump; ident [117, 108, 108]; return .null
      else if b = 116 then do bump; ident [114, 117, 101]; return .bool true
      else if b = 102 then do bump; ident [97, 108, 115, 101]; return .bool false
      else if b = 45 then do bump; return .num (← readNumber false)
      else if isDigit b then return .num (← readNumber true)
      else if b = 34 then do bump; return .str (← readString)
      else if b = 91 then do
        descend depth
        let items ← closing (readItems fuel (depth - 1) true []) endArray
        return .arr items
      else if b = 123 then do
        descend depth
        let members ← closing (readMembers fuel (depth - 1) true []) endObject
        return .obj members
      else failAhead .expectedValue

/-- The elements of an array, up to its closing bracket. -/
def readItems : Nat → Nat → Bool → List Value → Scan (List Value)
  | 0, _, _, _ => failHere .eofList
  | fuel + 1, depth, first, acc => do
    if ← elementStart first then
      let v ← readValue fuel depth
      readItems fuel depth false (v :: acc)
    else return acc.reverse

/-- The members of an object, up to its closing brace, sorted by key, the last of equal keys
kept. -/
def readMembers : Nat → Nat → Bool → List (String × Value) → Scan (List (String × Value))
  | 0, _, _, _ => failHere .eofObject
  | fuel + 1, depth, first, acc => do
    if ← keyStart first then
      bump
      let k ← readString
      colon
      let v ← readValue fuel depth
      readMembers fuel depth false (insertMember k v acc)
    else return acc

end

/-- A scalar, or the opening bracket of a container, checked; the container's bracket is
returned. -/
def skipOne : Scan (Option UInt8) := do
  match ← blank with
  | none => failAhead .eofValue
  | some b =>
    if b = 110 then do bump; ident [117, 108, 108]; return none
    else if b = 116 then do bump; ident [114, 117, 101]; return none
    else if b = 102 then do bump; ident [97, 108, 115, 101]; return none
    else if b = 45 then do bump; skipNumber; return none
    else if isDigit b then do skipNumber; return none
    else if b = 34 then do bump; skipString; return none
    else if b = 91 || b = 123 then do bump; return some b
    else failAhead .expectedValue

/-- After a value inside containers: takes the closing brackets of the containers it ends and
returns the innermost container still open, with those around it; `none` when the outermost one
closed. -/
def closeFrames : Nat → Bool → UInt8 → List UInt8 → Scan (Option (UInt8 × List UInt8))
  | 0, _, _, _ => failHere .eofValue
  | fuel + 1, acceptComma, frame, outer => do
    match ← blank with
    | some b =>
      if b = 44 ∧ acceptComma then do bump; return some (frame, outer)
      else if (b = 93 ∧ frame = 91) ∨ (b = 125 ∧ frame = 123) then do
        bump
        match outer with
        | [] => return none
        | f :: rest => closeFrames fuel true f rest
      else if acceptComma then
        failAhead (if frame = 91 then .expectedListCommaOrEnd else .expectedObjectCommaOrEnd)
      else return some (frame, outer)
    | none => failAhead (if frame = 91 then .eofList else .eofObject)

/-- A key and its colon, inside an object being skipped. -/
def skipKey : Scan Unit := do
  match ← blank with
  | some 34 => bump
  | some _ => failAhead .keyMustBeString
  | none => failAhead .eofObject
  skipString
  match ← blank with
  | some 58 => bump
  | some _ => failAhead .expectedColon
  | none => failAhead .eofObject

/-- Skips values inside open containers: `inner` is the container of the next value (if any),
`outer` those around it. -/
def skipFrames : Nat → Option UInt8 → List UInt8 → Scan Unit
  | 0, _, _ => failHere .eofValue
  | fuel + 1, inner, outer => do
    let opened ← skipOne
    let outer := match opened, inner with
      | some _, some f => f :: outer
      | _, _ => outer
    let current := match opened, inner, outer with
      | some f, _, o => some (false, f, o)
      | none, some f, o => some (true, f, o)
      | none, none, f :: o => some (true, f, o)
      | none, none, [] => none
    match current with
    | none => pure ()
    | some (acceptComma, frame, outer) =>
      match ← closeFrames fuel acceptComma frame outer with
      | none => pure ()
      | some (frame, outer) => do
        if frame = 123 then skipKey
        skipFrames fuel (some frame) outer

/-- Checks one value's syntax without keeping it. -/
def skipValue : Scan Unit := do
  skipFrames (2 * (← budget) + 2) none []

/-- The end of a document: nothing but blanks. -/
def endDocument : Scan Unit := do
  match ← blank with
  | some _ => failAhead .trailingCharacters
  | none => pure ()

/-- The deepest nesting a document may start with. -/
def depthLimit : Nat := 128

/-- A whole document as a value. -/
def parse (bs : List UInt8) : Except Error Value :=
  Scan.runOn (do let v ← readValue (2 * bs.length + 4) depthLimit; endDocument; pure v) bs

end FaceFraming.Json
