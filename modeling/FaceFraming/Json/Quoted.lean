import FaceFraming.Json.Scan
import FaceFraming.Text.Utf8

/-!
# Strings in JSON text

A string runs from its opening quote to the next unescaped quote. A raw byte below `0x20` is a
fault, and so is an escape other than `\" \\ \/ \b \f \n \r \t \uXXXX`. A `\u` escape names a
UTF-16 unit: a leading surrogate must be followed at once by a `\u` escape of a trailing one, and
the pair names one character; a trailing surrogate alone is a fault. The bytes of the string,
escapes decoded, must be well-formed UTF-8.

`skipString` checks a string's syntax only: escapes are checked for their form (four hex digits
after `\u`), neither surrogates nor UTF-8 are checked.
-/

namespace FaceFraming.Json

open Scan

/-- The value of a hexadecimal digit. -/
def hexValue (b : UInt8) : Option Nat :=
  if 48 ≤ b && b ≤ 57 then some (b.toNat - 48)
  else if 65 ≤ b && b ≤ 70 then some (b.toNat - 55)
  else if 97 ≤ b && b ≤ 102 then some (b.toNat - 87)
  else none

/-- The four hex digits of a `\u` escape, after the `u`. Fewer than four bytes left is an
unfinished string. -/
def hexUnit : Scan Nat := do
  match (← get).rest with
  | a :: b :: c :: d :: _ =>
    bump; bump; bump; bump
    match hexValue a, hexValue b, hexValue c, hexValue d with
    | some w, some x, some y, some z => return ((w * 16 + x) * 16 + y) * 16 + z
    | _, _, _, _ => failHere .invalidEscape
  | _ =>
    modify Cursor.toEnd
    failHere .eofString

/-- Pushes the UTF-8 bytes of a code point onto a reversed byte list. -/
def pushCodePoint (n : Nat) (acc : List UInt8) : List UInt8 :=
  (Utf8.encode n).reverse ++ acc

/-- A `\u` escape after its `u`, pairing surrogates. -/
def unicodeEscape (acc : List UInt8) : Scan (List UInt8) := do
  let n ← hexUnit
  if 0xDC00 ≤ n ∧ n ≤ 0xDFFF then failHere .loneSurrogate
  else if n < 0xD800 ∨ 0xDBFF < n then return pushCodePoint n acc
  else
    match ← peek with
    | none => failHere .eofString
    | some 92 => bump
    | some _ => do bump; failHere .unexpectedEndOfHexEscape
    match ← peek with
    | none => failHere .eofString
    | some 117 => bump
    | some _ => do bump; failHere .unexpectedEndOfHexEscape
    let m ← hexUnit
    if m < 0xDC00 ∨ 0xDFFF < m then failHere .loneSurrogate
    else return pushCodePoint ((n - 0xD800) * 1024 + (m - 0xDC00) + 0x10000) acc

/-- An escape after its backslash, pushing what it stands for onto a reversed byte list. -/
def escape (acc : List UInt8) : Scan (List UInt8) := do
  match ← next? with
  | none => failHere .eofString
  | some 34 => return 34 :: acc
  | some 92 => return 92 :: acc
  | some 47 => return 47 :: acc
  | some 98 => return 8 :: acc
  | some 102 => return 12 :: acc
  | some 110 => return 10 :: acc
  | some 114 => return 13 :: acc
  | some 116 => return 9 :: acc
  | some 117 => unicodeEscape acc
  | some _ => failHere .invalidEscape

/-- The bytes of a string up to its closing quote, which is taken. -/
def stringBytes : Nat → List UInt8 → Scan (List UInt8)
  | 0, _ => failHere .eofString
  | fuel + 1, acc => do
    match ← peek with
    | none => failHere .eofString
    | some 34 => do bump; return acc.reverse
    | some 92 => do
      bump
      let acc ← escape acc
      stringBytes fuel acc
    | some b =>
      bump
      if b < 32 then failHere .controlCharacter
      else stringBytes fuel (b :: acc)

/-- A string after its opening quote, up to and with its closing quote. -/
def readString : Scan String := do
  let bytes ← stringBytes (← budget) []
  match Utf8.toString? bytes with
  | some s => return s
  | none => failHere .invalidCodePoint

/-- Checks an escape after its backslash. -/
def skipEscape : Scan Unit := do
  match ← next? with
  | none => failHere .eofString
  | some b =>
    if b = 34 || b = 92 || b = 47 || b = 98 || b = 102 || b = 110 || b = 114 || b = 116 then
      pure ()
    else if b = 117 then do
      let _ ← hexUnit
      pure ()
    else failHere .invalidEscape

/-- Checks a string after its opening quote, up to and with its closing quote. -/
def skipStringBytes : Nat → Scan Unit
  | 0 => failHere .eofString
  | fuel + 1 => do
    match ← peek with
    | none => failHere .eofString
    | some 34 => bump
    | some 92 => do
      bump
      skipEscape
      skipStringBytes fuel
    | some b =>
      if b < 32 then failHere .controlCharacter
      else do
        bump
        skipStringBytes fuel

/-- Checks a string after its opening quote. -/
def skipString : Scan Unit := do
  skipStringBytes (← budget)

end FaceFraming.Json
