import FaceFraming.Text.Alphanumeric
import FaceFraming.Text.Space
import FaceFraming.Text.Utf8

/-!
# Environment files

An environment file assigns variables, one per logical line, as `KEY=value` or
`export KEY=value`. Its grammar:

* A logical line is one physical line, or several while a quote or an escape is still open at a
  line's end. A logical line that begins (after white space) with `#` is empty; a `#` that follows
  white space outside quotes starts a comment that ends the line.
* A key starts with an ASCII letter or `_` and continues with ASCII letters, digits, `_` and `.`.
  White space may stand around the `=`.
* In a value, `'…'` keeps its text as it is, `"…"` keeps it but for escapes, a backslash escapes
  one of `\ ' " $`, a space, or `n` for a line feed. `$NAME` or `${NAME}` stands for a variable:
  `NAME` is a run of letters and digits (`${…}` takes anything up to `}`); not inside single quotes.
  White space outside quotes ends the value: only more white space or a comment may follow.
* Reading stops at the first line that breaks these rules, or at a line that is not UTF-8; the
  lines before it still count.

`EnvFile.parse` gives the assignments, each value a list of pieces of text and variable
references, since what a reference stands for depends on the environment at the time the line
is applied.
-/

namespace FaceFraming

/-- A piece of an assigned value. -/
inductive Piece where
  /-- Text as it is. -/
  | text (s : String)
  /-- The value of a variable. -/
  | reference (name : String)
  deriving Repr, DecidableEq

/-- One assignment of an environment file. -/
structure Assignment where
  /-- The variable assigned. -/
  key : String
  /-- The value, in pieces. -/
  value : List Piece
  deriving Repr, DecidableEq

namespace EnvFile

/-- Where the joining of physical lines stands after some text. -/
inductive Joining where
  | complete
  | escape
  | strongOpen
  | strongOpenEscape
  | weakOpen
  | weakOpenEscape
  | comment
  | whiteSpace
  deriving Repr, DecidableEq

/-- Whether a character is white space that can separate a comment. -/
def isBlankInLine (c : Char) : Bool :=
  Text.isSpace c && c ≠ '\n' && c ≠ '\r'

/-- Runs the joining through a line's characters: the state at its end, or the position of a
comment's `#`. -/
def joinEnd (s : Joining) : List Char → Nat → Joining × Option Nat
  | [], _ => (s, none)
  | c :: rest, i =>
    let next : Joining := match s, c with
      | .whiteSpace, '#' => .comment
      | .whiteSpace, '\\' => .escape
      | .whiteSpace, '"' => .weakOpen
      | .whiteSpace, '\'' => .strongOpen
      | .whiteSpace, _ => .complete
      | .escape, _ => .complete
      | .complete, c => if isBlankInLine c then .whiteSpace
          else if c = '\\' then .escape else if c = '"' then .weakOpen
          else if c = '\'' then .strongOpen else .complete
      | .weakOpen, '\\' => .weakOpenEscape
      | .weakOpen, '"' => .complete
      | .weakOpen, _ => .weakOpen
      | .weakOpenEscape, _ => .weakOpen
      | .strongOpen, '\\' => .strongOpenEscape
      | .strongOpen, '\'' => .complete
      | .strongOpen, _ => .strongOpen
      | .strongOpenEscape, _ => .strongOpen
      | .comment, _ => .comment
    if next = .comment then (.comment, some i) else joinEnd next rest (i + 1)

/-- The physical lines of some bytes: split after each line feed, which stays with its line. -/
def physicalLines (bs : List UInt8) : List (List UInt8) :=
  let (done, current) := bs.foldl (fun (done, current) b =>
    if b = 10 then ((b :: current).reverse :: done, []) else (done, b :: current)) ([], [])
  (if current.isEmpty then done else current.reverse :: done).reverse

/-- The text without one final line feed, and then without one final carriage return. -/
def dropLineEnd (cs : List Char) : List Char :=
  match cs.reverse with
  | '\n' :: '\r' :: rest => rest.reverse
  | '\n' :: rest => rest.reverse
  | _ => cs

/-- Joins physical lines into logical lines; stops at a line that is not UTF-8 or at an end
inside a quote or escape. -/
def logicalLines : List (List UInt8) → List Char → Joining → List (List Char)
  | [], _, _ => []
  | line :: rest, buf, s =>
    match Utf8.decode? line with
    | none => []
    | some cs =>
      let buf' := buf ++ cs
      if (buf'.dropWhile Text.isSpace).head? = some '#' then [] :: logicalLines rest [] .complete
      else match joinEnd s cs 0 with
        | (.complete, _) => dropLineEnd buf' :: logicalLines rest [] .complete
        | (.comment, some i) => (buf ++ cs.take i) :: logicalLines rest [] .complete
        | (s', _) =>
          if rest.isEmpty then [] else logicalLines rest buf' s'

/-- Whether a character may stand in a variable name after `$`: a Unicode letter or digit. -/
def isNameChar (c : Char) : Bool :=
  Text.isAlphanumeric c

/-- How a reference is being read. -/
inductive Reference where
  | none
  | plain
  | braced
  deriving Repr, DecidableEq

/-- The state of reading a value. -/
structure ValueState where
  strong : Bool := false
  weak : Bool := false
  escaped : Bool := false
  expectingEnd : Bool := false
  reference : Reference := .none
  name : String := ""
  pieces : List Piece := []

/-- Adds text to the value read so far. -/
def ValueState.push (v : ValueState) (c : Char) : ValueState :=
  { v with pieces := .text (String.singleton c) :: v.pieces }

/-- Ends the reference being read. -/
def ValueState.applyName (v : ValueState) : ValueState :=
  { v with pieces := .reference v.name :: v.pieces, name := "" }

/-- Reads a value's characters; `none` when they break the rules. The flag says to stop at a
comment. -/
def valueChars : ValueState → List Char → Option ValueState
  | v, [] => some v
  | v, c :: rest =>
    if v.expectingEnd then
      if c = ' ' ∨ c = '\t' then valueChars v rest
      else if c = '#' then some v
      else none
    else if v.escaped then
      let out : Option Char := match c with
        | '\\' => some '\\' | '\'' => some '\'' | '"' => some '"' | '$' => some '$'
        | ' ' => some ' ' | 'n' => some '\n' | _ => none
      match out with
      | some o => valueChars { v.push o with escaped := false } rest
      | none => none
    else if v.strong then
      if c = '\'' then valueChars { v with strong := false } rest else valueChars (v.push c) rest
    else if v.reference ≠ .none then
      if isNameChar c then valueChars { v with name := v.name.push c } rest
      else match v.reference with
        | .braced =>
          if c = '}' then valueChars { v.applyName with reference := .none } rest
          else valueChars { v with name := v.name.push c } rest
        | _ =>
          if c = '{' ∧ v.name.isEmpty then valueChars { v with reference := .braced } rest
          else
            let v := v.applyName
            if c = '$' then valueChars { v with reference := .plain } rest
            else valueChars ({ v with reference := .none }.push c) rest
    else if c = '$' then valueChars { v with reference := .plain } rest
    else if v.weak then
      if c = '"' then valueChars { v with weak := false } rest
      else if c = '\\' then valueChars { v with escaped := true } rest
      else valueChars (v.push c) rest
    else if c = '\'' then valueChars { v with strong := true } rest
    else if c = '"' then valueChars { v with weak := true } rest
    else if c = '\\' then valueChars { v with escaped := true } rest
    else if c = ' ' ∨ c = '\t' then valueChars { v with expectingEnd := true } rest
    else valueChars (v.push c) rest

/-- Reads a value; `none` when it breaks the rules or leaves a quote or `${` open. -/
def value (cs : List Char) : Option (List Piece) := do
  let v ← valueChars {} cs
  if v.reference = .braced ∨ v.strong ∨ v.weak then none
  else some (v.applyName.pieces.reverse.filter (· ≠ .reference ""))

/-- Whether a character may start a key. -/
def isKeyStart (c : Char) : Bool :=
  (c.isAlpha && c.toNat < 128) || c = '_'

/-- Whether a character may continue a key. -/
def isKeyChar (c : Char) : Bool :=
  (c.isAlphanum && c.toNat < 128) || c = '_' || c = '.'

/-- Reads a key at the start of the text, with the rest. -/
def key? (cs : List Char) : Option (String × List Char) :=
  match cs with
  | c :: _ => if isKeyStart c then some (String.ofList (cs.takeWhile isKeyChar), cs.dropWhile isKeyChar)
    else none
  | [] => none

/-- Reads one logical line: nothing for a blank or comment line, an assignment, or `none` when the
line breaks the rules. -/
def line (cs : List Char) : Option (Option Assignment) :=
  let cs := ((cs.reverse.dropWhile Text.isSpace).reverse).dropWhile Text.isSpace
  if cs.isEmpty ∨ cs.head? = some '#' then some none
  else do
    let (k, rest) ← key? cs
    let rest := rest.dropWhile Text.isSpace
    let (k, rest) ← match k, rest with
      | "export", '=' :: r => some ("export", r)
      | "export", r => do
        let (k', r) ← key? r
        match r.dropWhile Text.isSpace with
        | '=' :: r => some (k', r)
        | _ => none
      | k, '=' :: r => some (k, r)
      | _, _ => none
    let rest := rest.dropWhile Text.isSpace
    if rest.isEmpty ∨ rest.head? = some '#' then some (some ⟨k, []⟩)
    else do
      let v ← value rest
      some (some ⟨k, v⟩)

/-- The assignments of logical lines, up to the first that breaks the rules. -/
def assignments : List (List Char) → List Assignment
  | [] => []
  | l :: rest =>
    match line l with
    | none => []
    | some none => assignments rest
    | some (some a) => a :: assignments rest

/-- The assignments of an environment file, a byte-order mark at its start skipped. -/
def parse (bs : List UInt8) : List Assignment :=
  let bs := match bs with
    | 0xEF :: 0xBB :: 0xBF :: rest => rest
    | _ => bs
  assignments (logicalLines (physicalLines bs) [] .complete)

end EnvFile

end FaceFraming
