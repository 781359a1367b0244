/-!
# Doubles as sign, integer mantissa and power of two

A finite double is `± m · 2^e` with a natural mantissa `m < 2^53`. Reading that form off the bit
pattern, and building a double back from it, lets every conversion between doubles, integers and
decimals be done in exact natural-number arithmetic.

The module also fixes the rule of the few double operations that the library needs beyond the
hardware's arithmetic:

* `minNum` and `maxNum`, where a number wins over a NaN;
* `toIntClamped`, the conversion to a bounded integer, which truncates toward zero, saturates at
  the bounds and sends NaN to zero;
* `roundClamped`, the same conversion after rounding to the nearest integer, halves away from zero.
-/

namespace FaceFraming.Double

/-- The three fields of a double's bit pattern. -/
structure Fields where
  /-- The sign bit. -/
  negative : Bool
  /-- The biased exponent, below `2048`: `2047` marks infinities and NaNs, `0` zero and the
  subnormals. -/
  biased : Nat
  /-- The fraction, below `2^52`. -/
  fraction : Nat
  deriving Repr, DecidableEq

/-- Splits a double into its sign, biased exponent and fraction. -/
def fields (x : Float) : Fields :=
  let b := x.toBits.toNat
  { negative := b / Nat.pow 2 63 == 1, biased := b / Nat.pow 2 52 % 2048,
    fraction := b % Nat.pow 2 52 }

/-- The double with the given fields. -/
def ofFields (f : Fields) : Float :=
  let sign := if f.negative then Nat.pow 2 63 else 0
  Float.ofBits (UInt64.ofNat (sign + f.biased * Nat.pow 2 52 + f.fraction))

/-- The natural mantissa `m` of a finite double, with `|x| = m · 2^e` for `e = f.exponent`. -/
def Fields.mantissa (f : Fields) : Nat :=
  if f.biased = 0 then f.fraction else f.fraction + Nat.pow 2 52

/-- The power of two that scales the mantissa. -/
def Fields.exponent (f : Fields) : Int :=
  if f.biased = 0 then -1074 else (f.biased : Int) - 1075

/-- A double is finite when its exponent field is not the all-ones pattern. -/
def isFinite (x : Float) : Bool :=
  (fields x).biased != 2047

/-- The integer part of a finite double, rounded toward zero; `none` for NaN and the infinities. -/
def truncate? (x : Float) : Option Int :=
  let f := fields x
  if f.biased = 2047 then none
  else
    let m := f.mantissa
    let e := f.exponent
    let n : Nat := if 0 ≤ e then m * Nat.pow 2 e.toNat else m / Nat.pow 2 (-e).toNat
    some (if f.negative then -(n : Int) else n)

/-- Conversion to an integer of `[lo, hi]`: toward zero, saturating at the bounds, NaN to zero. -/
def toIntClamped (lo hi : Int) (x : Float) : Int :=
  if x.isNaN then 0
  else match truncate? x with
    | some n => max lo (min hi n)
    | none => if x > 0 then hi else lo

/-- The integer nearest a finite double, halves rounded away from zero; `none` for NaN and the
infinities. -/
def roundHalfAway? (x : Float) : Option Int :=
  let f := fields x
  if f.biased = 2047 then none
  else
    let m := f.mantissa
    let e := f.exponent
    let n : Nat :=
      if 0 ≤ e then m * Nat.pow 2 e.toNat
      else (m + Nat.pow 2 (-e).toNat / 2) / Nat.pow 2 (-e).toNat
    some (if f.negative then -(n : Int) else n)

/-- Conversion to an integer of `[lo, hi]` after rounding to the nearest integer, halves away from
zero: saturating at the bounds, NaN to zero. -/
def roundClamped (lo hi : Int) (x : Float) : Int :=
  if x.isNaN then 0
  else match roundHalfAway? x with
    | some n => max lo (min hi n)
    | none => if x > 0 then hi else lo

/-- The smaller of two doubles, a NaN losing to a number. -/
def minNum (a b : Float) : Float :=
  if a.isNaN then b else if b.isNaN then a else if b < a then b else a

/-- The larger of two doubles, a NaN losing to a number. -/
def maxNum (a b : Float) : Float :=
  if a.isNaN then b else if b.isNaN then a else if a < b then b else a

end FaceFraming.Double
