import FaceFraming.Json.Value
import FaceFraming.Double.Layout
import FaceFraming.Text.Quote

/-!
# Why a JSON document could not be read

A reader stops for one of two kinds of reasons. A *syntax* fault is met in the text itself (an
unclosed string, a missing colon, a number too large for a double). A *data* fault is met when the
text is well-formed JSON but not what the reader expects there: a string where a number belongs, an
integer out of range, a required member missing or given twice. An `Error` pairs the fault with the
line and column where the reader stood, when there is one; its `message` cites them as
`… at line L column C`. Errors of a reader that works on a value already read carry no place.
-/

namespace FaceFraming.Json

/-- Faults in the text of a document. -/
inductive Malformed where
  | eofList
  | eofObject
  | eofString
  | eofValue
  | expectedColon
  | expectedListCommaOrEnd
  | expectedObjectCommaOrEnd
  | expectedIdent
  | expectedValue
  | invalidEscape
  | invalidNumber
  | numberOutOfRange
  | invalidCodePoint
  | controlCharacter
  | keyMustBeString
  | loneSurrogate
  | trailingComma
  | trailingCharacters
  | unexpectedEndOfHexEscape
  | recursionLimit
  deriving Repr, DecidableEq

/-- The wording of a syntax fault. -/
def Malformed.message : Malformed → String
  | .eofList => "EOF while parsing a list"
  | .eofObject => "EOF while parsing an object"
  | .eofString => "EOF while parsing a string"
  | .eofValue => "EOF while parsing a value"
  | .expectedColon => "expected `:`"
  | .expectedListCommaOrEnd => "expected `,` or `]`"
  | .expectedObjectCommaOrEnd => "expected `,` or `\x7d`"
  | .expectedIdent => "expected ident"
  | .expectedValue => "expected value"
  | .invalidEscape => "invalid escape"
  | .invalidNumber => "invalid number"
  | .numberOutOfRange => "number out of range"
  | .invalidCodePoint => "invalid unicode code point"
  | .controlCharacter => "control character (\\u0000-\\u001F) found while parsing a string"
  | .keyMustBeString => "key must be a string"
  | .loneSurrogate => "lone leading surrogate in hex escape"
  | .trailingComma => "trailing comma"
  | .trailingCharacters => "trailing characters"
  | .unexpectedEndOfHexEscape => "unexpected end of hex escape"
  | .recursionLimit => "recursion limit exceeded"

/-- What a reader found where it expected something else. -/
inductive Unexpected where
  | bool (b : Bool)
  | unsigned (n : Nat)
  | signed (i : Int)
  | float (f : Float)
  | str (s : String)
  | unit
  | seq
  | map

/-- A double as a message cites it: its shortest decimal, positional near one (with `.0` when it
has no point) and with a signed exponent far from it. -/
def citeFloat (f : Float) : String :=
  Double.Layout.cited.render f

/-- The wording of what was found. -/
def Unexpected.describe : Unexpected → String
  | .bool b => "boolean `" ++ toString b ++ "`"
  | .unsigned n => "integer `" ++ toString n ++ "`"
  | .signed i => "integer `" ++ toString i ++ "`"
  | .float f => "floating point `" ++ citeFloat f ++ "`"
  | .str s => "string " ++ Text.quote s
  | .unit => "null"
  | .seq => "sequence"
  | .map => "map"

/-- What a value read from text is, as a fault cites it. -/
def Unexpected.ofValue : Value → Unexpected
  | .null => .unit
  | .bool b => .bool b
  | .num (.nat n) => .unsigned n
  | .num (.neg i) => .signed i
  | .num (.float f) => .float f
  | .str s => .str s
  | .arr _ => .seq
  | .obj _ => .map

/-- Why a reader stopped. -/
inductive Fault where
  /-- The text is not JSON. -/
  | malformed (s : Malformed)
  /-- A value of the wrong kind. -/
  | invalidType (found : Unexpected) (expected : String)
  /-- A value of the right kind but out of range. -/
  | invalidValue (found : Unexpected) (expected : String)
  /-- An array of the wrong length. -/
  | invalidLength (len : Nat) (expected : String)
  /-- A required member is absent. -/
  | missingField (name : String)
  /-- A member is given twice. -/
  | duplicateField (name : String)

/-- The wording of a fault. -/
def Fault.message : Fault → String
  | .malformed s => s.message
  | .invalidType u e => "invalid type: " ++ u.describe ++ ", expected " ++ e
  | .invalidValue u e => "invalid value: " ++ u.describe ++ ", expected " ++ e
  | .invalidLength n e => "invalid length " ++ toString n ++ ", expected " ++ e
  | .missingField n => "missing field `" ++ n ++ "`"
  | .duplicateField n => "duplicate field `" ++ n ++ "`"

/-- A fault and, when the reader worked on text, the line and column where it stood. -/
structure Error where
  /-- Why the reader stopped. -/
  fault : Fault
  /-- Line (from one) and column (bytes into the line) of the reader. -/
  place : Option (Nat × Nat) := none

/-- The wording of an error: the fault, then its place. -/
def Error.message (e : Error) : String :=
  match e.place with
  | some (l, c) => e.fault.message ++ " at line " ++ toString l ++ " column " ++ toString c
  | none => e.fault.message

end FaceFraming.Json
