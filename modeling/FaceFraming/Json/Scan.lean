import FaceFraming.Json.Error

/-!
# Reading JSON text byte by byte

A `Cursor` is the rest of the text with the line and column of its next byte. `Scan` reads with a
cursor and may stop with an `Error`; the cursor stays where the reader stopped, since a failed read
of a container's body is placed only after the container's closing step has moved the reader on.

Errors are placed either *here* (the place of the next byte) or *ahead* (the place just after the
next byte), as the step that meets them has or has not taken that byte yet. A column counts the
bytes before the place on its line.
-/

namespace FaceFraming.Json

/-- The rest of a text, with the line (from one) and column of its first byte. -/
structure Cursor where
  /-- The bytes not yet read. -/
  rest : List UInt8
  /-- The line of the next byte. -/
  line : Nat := 1
  /-- The bytes before the next one on its line. -/
  column : Nat := 0

namespace Cursor

/-- A cursor at the start of a text. -/
def ofBytes (bs : List UInt8) : Cursor :=
  { rest := bs }

/-- The cursor after one more byte; at the end of the text it stays. -/
def advance (c : Cursor) : Cursor :=
  match c.rest with
  | [] => c
  | b :: r => if b = 10 then { rest := r, line := c.line + 1, column := 0 }
    else { rest := r, line := c.line, column := c.column + 1 }

/-- The place of the next byte. -/
def here (c : Cursor) : Nat × Nat :=
  (c.line, c.column)

/-- The place just after the next byte, or here at the end of the text. -/
def ahead (c : Cursor) : Nat × Nat :=
  c.advance.here

/-- JSON's blanks: space, tab, line feed and carriage return. -/
def isBlank (b : UInt8) : Bool :=
  b = 32 || b = 9 || b = 10 || b = 13

/-- Skips blanks, counting lines. -/
def skipBlankFrom : List UInt8 → Nat → Nat → Cursor
  | b :: r, line, col =>
    if b = 10 then skipBlankFrom r (line + 1) 0
    else if isBlank b then skipBlankFrom r line (col + 1)
    else { rest := b :: r, line := line, column := col }
  | [], line, col => { rest := [], line := line, column := col }

/-- The cursor after the blanks at its front. -/
def skipBlank (c : Cursor) : Cursor :=
  skipBlankFrom c.rest c.line c.column

/-- Skips to the end of the text, counting lines. -/
def toEndFrom : List UInt8 → Nat → Nat → Cursor
  | b :: r, line, col => if b = 10 then toEndFrom r (line + 1) 0 else toEndFrom r line (col + 1)
  | [], line, col => { rest := [], line := line, column := col }

/-- The cursor at the end of its text. -/
def toEnd (c : Cursor) : Cursor :=
  toEndFrom c.rest c.line c.column

end Cursor

/-- A reader of JSON text. -/
abbrev Scan := ExceptT Error (StateM Cursor)

namespace Scan

/-- The next byte, not taken. -/
def peek : Scan (Option UInt8) := do
  return (← get).rest.head?

/-- Takes the next byte. -/
def bump : Scan Unit :=
  modify Cursor.advance

/-- Takes and returns the next byte, if there is one. -/
def next? : Scan (Option UInt8) := do
  let b ← peek
  bump
  return b

/-- Skips blanks and returns the next byte, not taken. -/
def blank : Scan (Option UInt8) := do
  modify Cursor.skipBlank
  peek

/-- Stops with a syntax fault placed here. -/
def failHere {α : Type} (s : Malformed) : Scan α := do
  throw { fault := .malformed s, place := some (← get).here }

/-- Stops with a syntax fault placed just after the next byte. -/
def failAhead {α : Type} (s : Malformed) : Scan α := do
  throw { fault := .malformed s, place := some (← get).ahead }

/-- Stops with a data fault, to be placed by the reader of the enclosing value. -/
def reject {α : Type} (f : Fault) : Scan α :=
  throw { fault := f }

/-- Runs a value's reader; a data fault it raised unplaced is placed where the reader stopped. -/
def placing {α : Type} (x : Scan α) : Scan α :=
  tryCatch x fun e => do
    match e.place with
    | some _ => throw e
    | none => throw { e with place := some (← get).here }

/-- Runs a container's body, then its closing step even when the body failed, since the closing
step moves the reader before a failure of the body is placed. The body's failure wins. -/
def closing {α : Type} (body : Scan α) (close : Scan Unit) : Scan α := do
  let r ← tryCatch (do let v ← body; pure (Except.ok v)) fun e => pure (Except.error e)
  let c ← tryCatch (do close; pure none) fun e => pure (some e)
  match r, c with
  | .error e, _ => throw e
  | .ok _, some e => throw e
  | .ok v, none => pure v

/-- Expects the given bytes, one by one: the rest of `null`, `true` or `false`. -/
def ident : List UInt8 → Scan Unit
  | [] => pure ()
  | e :: more => do
    match ← next? with
    | none => failHere .eofValue
    | some b => if b = e then ident more else failHere .expectedIdent

/-- A decimal digit. -/
def isDigit (b : UInt8) : Bool :=
  48 ≤ b && b ≤ 57

/-- The value of a decimal digit. -/
def digitValue (b : UInt8) : Nat :=
  b.toNat - 48

/-- Skips decimal digits. -/
def skipDigits : Nat → Scan Unit
  | 0 => pure ()
  | fuel + 1 => do
    match ← peek with
    | some b => if isDigit b then do bump; skipDigits fuel else pure ()
    | none => pure ()

/-- A bound on the steps left: one per byte, and one more. -/
def budget : Scan Nat := do
  return (← get).rest.length + 1

/-- Runs a reader on a text. -/
def runOn {α : Type} (x : Scan α) (bs : List UInt8) : Except Error α :=
  ((ExceptT.run x).run (Cursor.ofBytes bs)).1

end Scan

end FaceFraming.Json
