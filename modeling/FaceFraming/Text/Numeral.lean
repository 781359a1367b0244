import FaceFraming.Double.Nearest

/-!
# Numerals in text

How a setting written as text becomes a number. Integers are an optional sign and decimal digits,
nothing else (no spaces, no separators); types without a sign refuse a minus. A decimal is an
optional sign and then `inf`, `infinity` or `nan` in any case, or digits with an optional point
(digits on at least one side of it) and an optional exponent `e` or `E` with an optional sign and
digits; its value is the double nearest to the decimal.

A refused integer says why: no text, a character that is not a digit, or a value past the bounds of
its type.
-/

namespace FaceFraming.Numeral

/-- Why a text is not an integer of a type. -/
inductive IntegerError where
  /-- The text is empty. -/
  | empty
  /-- A character is not a digit, or there are no digits after the sign. -/
  | invalidDigit
  /-- The value is above the type's largest. -/
  | tooLarge
  /-- The value is below the type's smallest. -/
  | tooSmall
  deriving Repr, DecidableEq

/-- The wording of an integer error. -/
def IntegerError.message : IntegerError → String
  | .empty => "cannot parse integer from empty string"
  | .invalidDigit => "invalid digit found in string"
  | .tooLarge => "number too large to fit in target type"
  | .tooSmall => "number too small to fit in target type"

/-- The value of a run of decimal digits, or none when a character is not a digit. -/
def digitsValue (cs : List Char) : Option Nat :=
  cs.foldlM (fun n c => if c.isDigit then some (10 * n + (c.toNat - 48)) else none) 0

/-- Reads an integer of `[lo, hi]`; a minus sign is only read when `lo` is negative. -/
def parseInteger (lo hi : Int) (s : String) : Except IntegerError Int :=
  let cs := s.toList
  if cs.isEmpty then .error .empty
  else
    let (negative, body) := match cs with
      | '+' :: rest => (false, rest)
      | '-' :: rest => if lo < 0 then (true, rest) else (false, cs)
      | _ => (false, cs)
    if body.isEmpty then .error .invalidDigit
    else match digitsValue body with
      | none => .error .invalidDigit
      | some n =>
        let v : Int := if negative then -(n : Int) else n
        if hi < v then .error .tooLarge
        else if v < lo then .error .tooSmall
        else .ok v

/-- Reads a natural number no larger than `hi`. -/
def parseNatural (hi : Nat) (s : String) : Except IntegerError Nat :=
  (parseInteger 0 hi s).map Int.toNat

/-- The double nearest to `m · 10^e`, with a sign. -/
def scaled (negative : Bool) (m : Nat) (e : Int) : Float :=
  let width : Int := (toString m).length
  if m = 0 then Double.nearest negative 0 1
  else if 310 < e + width then Double.ofFields ⟨negative, 2047, 0⟩
  else if e + width < -330 then Double.nearest negative 0 1
  else if 0 ≤ e then Double.nearest negative (m * Nat.pow 10 e.toNat) 1
  else Double.nearest negative m (Nat.pow 10 (-e).toNat)

/-- Reads the exponent part after `e`: an optional sign and digits. -/
def exponentValue (cs : List Char) : Option Int :=
  let (negative, body) := match cs with
    | '+' :: rest => (false, rest)
    | '-' :: rest => (true, rest)
    | _ => (false, cs)
  if body.isEmpty then none
  else (digitsValue body).map fun n => if negative then -(n : Int) else n

/-- Reads a decimal; none when the text is not one. -/
def parseDecimal? (s : String) : Option Float :=
  let cs := s.toList
  let (negative, body) := match cs with
    | '+' :: rest => (false, rest)
    | '-' :: rest => (true, rest)
    | _ => (false, cs)
  let word := String.ofList (body.map Char.toLower)
  if word = "inf" ∨ word = "infinity" then
    some (if negative then -(1.0 / 0.0) else 1.0 / 0.0)
  else if word = "nan" then some (0.0 / 0.0)
  else
    let mantissa := body.takeWhile fun c => c ≠ 'e' ∧ c ≠ 'E'
    let rest := body.drop mantissa.length
    let whole := mantissa.takeWhile (· ≠ '.')
    let afterWhole := mantissa.drop whole.length
    let (fraction, pointOk) := match afterWhole with
      | [] => ([], true)
      | '.' :: f => (f, true)
      | _ => ([], false)
    let exponent : Option Int := match rest with
      | [] => some 0
      | _ :: e => exponentValue e
    if !pointOk ∨ (whole.isEmpty ∧ fraction.isEmpty) then none
    else do
      let w ← digitsValue whole
      let f ← digitsValue fraction
      let e ← exponent
      pure (scaled negative (w * Nat.pow 10 fraction.length + f) (e - fraction.length))

end FaceFraming.Numeral
