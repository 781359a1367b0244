import FaceFraming.Double.Bits

/-!
# The double nearest to a rational

`nearest neg num den` is the double closest to `num / den`, computed in exact natural arithmetic:
the quotient is scaled by a power of two into `[2^52, 2^53)` (or to the subnormal scale), divided
with remainder, and rounded by the remainder, a tie going to the even mantissa. A quotient past the
largest finite double becomes infinity. Every conversion of an integer or a decimal to a double in
the library goes through it, so all of them round correctly.
-/

namespace FaceFraming.Double

/-- `num · 2^(-e)` divided by `den · 2^e`, whichever of the two powers is whole: quotient,
remainder and divisor. -/
def divPow (num den : Nat) (e : Int) : Nat × Nat × Nat :=
  let n := num * Nat.pow 2 (-e).toNat
  let d := den * Nat.pow 2 e.toNat
  (n / d, n % d, d)

/-- The double nearest to `num / den` with the given sign; of two equally near, the one with an
even mantissa; past the largest finite double, infinity. A zero denominator counts as one. -/
def nearest (negative : Bool) (num den : Nat) : Float :=
  let den := max den 1
  if num = 0 then ofFields ⟨negative, 0, 0⟩
  else
    let guess : Int := (Nat.log2 num : Int) - Nat.log2 den - 52
    let e0 := if (divPow num den guess).1 < Nat.pow 2 52 then guess - 1 else guess
    let e := max e0 (-1074)
    let (q, r, d) := divPow num den e
    let q := if 2 * r > d ∨ (2 * r = d ∧ q % 2 = 1) then q + 1 else q
    let (q, e) := if q = Nat.pow 2 53 then (Nat.pow 2 52, e + 1) else (q, e)
    if q < Nat.pow 2 52 then ofFields ⟨negative, 0, q⟩
    else if 2047 ≤ e + 1075 then ofFields ⟨negative, 2047, 0⟩
    else ofFields ⟨negative, (e + 1075).toNat, q - Nat.pow 2 52⟩

/-- The double nearest to a natural number. -/
def ofNat (n : Nat) : Float :=
  nearest false n 1

/-- The double nearest to an integer. -/
def ofInt (i : Int) : Float :=
  nearest (i < 0) i.natAbs 1

/-- `10^k` as a double, correctly rounded. -/
def tenPow (k : Nat) : Float :=
  nearest false (Nat.pow 10 k) 1

end FaceFraming.Double
