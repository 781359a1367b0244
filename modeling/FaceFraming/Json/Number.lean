import FaceFraming.Json.Scan
import FaceFraming.Double.Nearest

/-!
# Numbers in JSON text

A number is read as an integer while its digits fit: a natural below `2^64`, or a negative
integer down to `-2^63`. Anything else (a fraction, an exponent, more digits than fit, `-0`) is a
double, computed from a 64-bit significand and a power of ten:

* digits past the 64-bit significand are dropped and counted into the exponent;
* the significand is rounded to a double and multiplied or divided by `10^|exp|` from the table of
  doubles `10^0 … 10^308`; a larger negative exponent divides by `10^308` first;
* a product that overflows to infinity, or a positive exponent past the table with a nonzero
  significand, is out of range; an exponent too long for 32 bits gives zero, or out of range when
  positive with a nonzero significand.

`skipNumber` checks a number's syntax alone, without its value, for members a reader skips.
-/

namespace FaceFraming.Json

open Scan

/-- The largest natural that a number read as an integer may have. -/
def natLimit : Nat := 18446744073709551615

/-- The largest exponent the reader keeps exactly. -/
def exponentLimit : Nat := 2147483647

/-- An exponent kept within 32 signed bits, saturating. -/
def clampExponent (e : Int) : Int :=
  max (-2147483648) (min 2147483647 e)

/-- `f · 10^exp` as the reader computes it: one multiplication or division by a power from the
table, after as many divisions by `10^308` as a large negative exponent needs. -/
def scaleByTen (f : Float) (exp : Int) : Scan Float :=
  if h : exp.natAbs ≤ 308 then
    if 0 ≤ exp then
      let g := f * Double.tenPow exp.natAbs
      if g.isInf then failHere .numberOutOfRange else pure g
    else pure (f / Double.tenPow exp.natAbs)
  else if f == 0 then pure f
  else if hexp : 0 ≤ exp then failHere .numberOutOfRange
  else
    have : (exp + 308).natAbs < exp.natAbs := by omega
    scaleByTen (f / Double.tenPow 308) (exp + 308)
termination_by exp.natAbs

/-- The double of a significand and a decimal exponent, with its sign. -/
def fromParts (positive : Bool) (sig : Nat) (exp : Int) : Scan Float := do
  let f ← scaleByTen (Double.ofNat sig) exp
  return if positive then f else -f

/-- An exponent with more digits than 32 bits hold: zero, unless it is positive and the
significand is not, which is out of range. -/
def exponentOverflow (positive zeroSig positiveExp : Bool) : Scan Float := do
  if !zeroSig && positiveExp then failHere .numberOutOfRange
  skipDigits (← budget)
  return if positive then 0.0 else -0.0

/-- The digits of an exponent after its first one. -/
def exponentDigits (positive positiveExp : Bool) (sig : Nat) (start : Int) :
    Nat → Nat → Scan Float
  | 0, exp =>
    fromParts positive sig (clampExponent (if positiveExp then start + exp else start - exp))
  | fuel + 1, exp => do
    match ← peek with
    | some b =>
      if isDigit b then do
        bump
        let e := exp * 10 + digitValue b
        if e > exponentLimit then exponentOverflow positive (sig == 0) positiveExp
        else exponentDigits positive positiveExp sig start fuel e
      else exponentDigits positive positiveExp sig start 0 exp
    | none => exponentDigits positive positiveExp sig start 0 exp

/-- An exponent part, at its `e` or `E`. -/
def readExponent (positive : Bool) (sig : Nat) (start : Int) : Scan Float := do
  bump
  let positiveExp ← match ← peek with
    | some 43 => do bump; pure true
    | some 45 => do bump; pure false
    | _ => pure true
  match ← next? with
  | none => failHere .eofValue
  | some b =>
    if isDigit b then exponentDigits positive positiveExp sig start (← budget) (digitValue b)
    else failHere .invalidNumber

/-- After a fraction's digits overflowed the significand: the rest of them are dropped. -/
def decimalOverflow (positive : Bool) (sig : Nat) (exp : Int) : Scan Float := do
  skipDigits (← budget)
  match ← peek with
  | some 101 | some 69 => readExponent positive sig exp
  | _ => fromParts positive sig exp

/-- The end of a fraction: at least one digit, then an optional exponent. -/
def endFraction (positive : Bool) (sig : Nat) (before after : Int) : Scan Float := do
  if after = 0 then
    match ← peek with
    | some _ => failAhead .invalidNumber
    | none => failAhead .eofValue
  else
    match ← peek with
    | some 101 | some 69 => readExponent positive sig (before + after)
    | _ => fromParts positive sig (before + after)

/-- The digits of a fraction. -/
def fractionDigits (positive : Bool) (before : Int) : Nat → Nat → Int → Scan Float
  | 0, sig, after => endFraction positive sig before after
  | fuel + 1, sig, after => do
    match ← peek with
    | some b =>
      if isDigit b then
        let s := sig * 10 + digitValue b
        if s > natLimit then decimalOverflow positive sig (before + after)
        else do bump; fractionDigits positive before fuel s (after - 1)
      else endFraction positive sig before after
    | none => endFraction positive sig before after

/-- A fraction, at its point. -/
def readFraction (positive : Bool) (sig : Nat) (before : Int) : Scan Float := do
  bump
  fractionDigits positive before (← budget) sig 0

/-- Integer digits past the 64-bit significand: counted into the exponent. -/
def longDigits (positive : Bool) (sig : Nat) : Nat → Int → Scan Float
  | 0, exp => fromParts positive sig exp
  | fuel + 1, exp => do
    match ← peek with
    | some 46 => readFraction positive sig exp
    | some 101 | some 69 => readExponent positive sig exp
    | some b =>
      if isDigit b then do
        bump
        longDigits positive sig fuel (exp + 1)
      else fromParts positive sig exp
    | none => fromParts positive sig exp

/-- What follows the integer digits: a fraction, an exponent, or the end of the number. -/
def afterInteger (positive : Bool) (sig : Nat) : Scan Number := do
  match ← peek with
  | some 46 => return .float (← readFraction positive sig 0)
  | some 101 | some 69 => return .float (← readExponent positive sig 0)
  | _ =>
    if positive then return .nat sig
    else if sig = 0 ∨ 9223372036854775808 < sig then return .float (-(Double.ofNat sig))
    else return .neg (-(sig : Int))

/-- The integer digits after the first one. -/
def integerDigits (positive : Bool) : Nat → Nat → Scan Number
  | 0, sig => afterInteger positive sig
  | fuel + 1, sig => do
    match ← peek with
    | some b =>
      if isDigit b then
        let s := sig * 10 + digitValue b
        if s > natLimit then return .float (← longDigits positive sig (← budget) 0)
        else do bump; integerDigits positive fuel s
      else afterInteger positive sig
    | none => afterInteger positive sig

/-- A number after its sign: one leading zero at most, then digits. -/
def readNumber (positive : Bool) : Scan Number := do
  match ← next? with
  | none => failHere .eofValue
  | some 48 =>
    match ← peek with
    | some b => if isDigit b then failAhead .invalidNumber else afterInteger positive 0
    | none => afterInteger positive 0
  | some b =>
    if 49 ≤ b && b ≤ 57 then integerDigits positive (← budget) (digitValue b)
    else failHere .invalidNumber

/-- Checks an exponent part, at its `e` or `E`. -/
def skipExponent : Scan Unit := do
  bump
  match ← peek with
  | some 43 | some 45 => bump
  | _ => pure ()
  match ← next? with
  | some b => if isDigit b then skipDigits (← budget) else failHere .invalidNumber
  | none => failHere .invalidNumber

/-- Checks a number's syntax after its sign, without computing it. -/
def skipNumber : Scan Unit := do
  match ← next? with
  | some 48 =>
    match ← peek with
    | some b => if isDigit b then failAhead .invalidNumber
    | none => pure ()
  | some b => if 49 ≤ b && b ≤ 57 then skipDigits (← budget) else failHere .invalidNumber
  | none => failHere .invalidNumber
  match ← peek with
  | some 46 => do
    bump
    match ← peek with
    | some b => if isDigit b then skipDigits (← budget) else failAhead .invalidNumber
    | none => failAhead .invalidNumber
    match ← peek with
    | some 101 | some 69 => skipExponent
    | _ => pure ()
  | some 101 | some 69 => skipExponent
  | _ => pure ()

end FaceFraming.Json
