import FaceFraming.Json.Value
import FaceFraming.Double.Layout

/-!
# Writing JSON text

Values are written compactly: no blanks, members in the order the object holds them, numbers by
kind (integers in decimal, doubles by `Layout.json`). In strings a quote, a backslash and the
control characters are escaped: `\b \f \n \r \t` by name, other characters below `0x20` as
`\u00XX` with lowercase hexadecimal digits; every other character is written as itself.
-/

namespace FaceFraming.Json

/-- Lowercase hexadecimal digits. -/
def hexDigit (n : Nat) : Char :=
  if n < 10 then Char.ofNat (48 + n) else Char.ofNat (87 + n)

/-- Appends one character as it stands inside a written string. -/
def pushEscaped (acc : String) (c : Char) : String :=
  if c = '"' then acc ++ "\\\""
  else if c = '\\' then acc ++ "\\\\"
  else if c = '\x08' then acc ++ "\\b"
  else if c = '\x0c' then acc ++ "\\f"
  else if c = '\n' then acc ++ "\\n"
  else if c = '\r' then acc ++ "\\r"
  else if c = '\t' then acc ++ "\\t"
  else if c.toNat < 32 then
    ((acc ++ "\\u00").push (hexDigit (c.toNat / 16))).push (hexDigit (c.toNat % 16))
  else acc.push c

/-- Appends a string as written in JSON, with its quotes. -/
def pushQuoted (acc : String) (s : String) : String :=
  (s.toList.foldl pushEscaped (acc.push '"')).push '"'

/-- A string as written in JSON, with its quotes. -/
def quoteString (s : String) : String :=
  pushQuoted "" s

/-- A number as written in JSON. -/
def Number.render : Number → String
  | .nat n => toString n
  | .neg i => toString i
  | .float f => Double.Layout.json.render f

mutual

/-- Appends a value as compact JSON text. -/
def Value.writeTo (acc : String) : Value → String
  | .null => acc ++ "null"
  | .bool b => acc ++ (if b then "true" else "false")
  | .num n => acc ++ n.render
  | .str s => pushQuoted acc s
  | .arr xs => (writeItems (acc.push '[') true xs).push ']'
  | .obj ms => (writeMembers (acc.push '\x7b') true ms).push '\x7d'

/-- Appends array elements separated by commas. -/
def writeItems (acc : String) (first : Bool) : List Value → String
  | [] => acc
  | x :: xs => writeItems (x.writeTo (if first then acc else acc.push ',')) false xs

/-- Appends object members separated by commas. -/
def writeMembers (acc : String) (first : Bool) : List (String × Value) → String
  | [] => acc
  | (k, v) :: ms =>
    writeMembers (v.writeTo ((pushQuoted (if first then acc else acc.push ',') k).push ':')) false ms

end

/-- A value as compact JSON text. -/
def Value.render (v : Value) : String :=
  v.writeTo ""

end FaceFraming.Json
