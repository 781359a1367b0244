import FaceFraming.Double.Bits

/-!
# The shortest decimal that reads back as a double

Every positive finite double `m · 2^e` owns an interval of reals that round to it: halfway to its
neighbours, ends included when `m` is even. `shortest` finds the decimal with the fewest
significant digits in that interval, and of two such the one nearer the double; a `Tie` says which
one an exact tie takes (the even digit string, or the larger one). For `n = 1, 2, …, 17` it looks
at the two multiples of `10^k` around the double, where `10^k` is the place of the `n`-th digit;
the first `n` with one of them inside wins. Seventeen digits always suffice.
-/

namespace FaceFraming.Double

/-- A decimal `digits · 10^exponent`. -/
structure Decimal where
  /-- The significant digits as a number. -/
  digits : Nat
  /-- The power of ten of the last digit. -/
  exponent : Int
  deriving Repr, DecidableEq

/-- Which of two decimals equally near a double is taken. -/
inductive Tie where
  /-- The one whose last digit is even. -/
  | even
  /-- The one farther from zero. -/
  | up
  deriving Repr, DecidableEq

/-- Compares `a · 10^i` with `b · 2^j`, exactly. -/
def cmpScaled (a : Nat) (i : Int) (b : Nat) (j : Int) : Ordering :=
  compare (a * Nat.pow 10 i.toNat * Nat.pow 2 (-j).toNat)
    (b * Nat.pow 2 j.toNat * Nat.pow 10 (-i).toNat)

/-- Moves a guess `p` of `⌊log₁₀ (m · 2^e)⌋` to the right value; a few steps suffice. -/
def settleLog (m : Nat) (e : Int) : Nat → Int → Int
  | 0, p => p
  | fuel + 1, p =>
    if cmpScaled 1 (p + 1) m e != .gt then settleLog m e fuel (p + 1)
    else if cmpScaled 1 p m e == .gt then settleLog m e fuel (p - 1)
    else p

/-- `⌊log₁₀ (m · 2^e)⌋` for `m > 0`. -/
def decimalLog (m : Nat) (e : Int) : Int :=
  let bits : Int := (Nat.log2 m : Int) + e
  settleLog m e 4 ((bits * 78913) / 262144)

/-- Drops trailing zero digits, raising the exponent. -/
def Decimal.normalize (d : Decimal) : Decimal :=
  if h : d.digits ≠ 0 ∧ d.digits % 10 = 0 then
    have : d.digits / 10 < d.digits := Nat.div_lt_self (Nat.pos_of_ne_zero h.1) (by decide)
    Decimal.normalize ⟨d.digits / 10, d.exponent + 1⟩
  else d
termination_by d.digits

/-- The shortest decimal inside the rounding interval of `m · 2^e` (`m > 0`). `narrowBelow` says
the gap to the next smaller double is half the gap above, as at a power of two. -/
def shortestOf (tie : Tie) (m : Nat) (e : Int) (narrowBelow : Bool) : Decimal :=
  let low := 4 * m - (if narrowBelow then 1 else 2)
  let high := 4 * m + 2
  let closed := m % 2 == 0
  let inside (c : Nat) (k : Int) : Bool :=
    let below := cmpScaled c k low (e - 2)
    let above := cmpScaled c k high (e - 2)
    (below == .gt || (closed && below == .eq)) && (above == .lt || (closed && above == .eq))
  let p := decimalLog m e
  let attempt (n : Nat) : Option Decimal :=
    let k : Int := p - n + 1
    let num := m * Nat.pow 2 e.toNat * Nat.pow 10 (-k).toNat
    let den := Nat.pow 2 (-e).toNat * Nat.pow 10 k.toNat
    let lo := num / den
    let hi := lo + 1
    match inside lo k, inside hi k with
    | true, true =>
      match compare (2 * num) ((2 * lo + 1) * den) with
      | .lt => some ⟨lo, k⟩
      | .gt => some ⟨hi, k⟩
      | .eq => some ⟨if tie = .even ∧ lo % 2 = 0 then lo else hi, k⟩
    | true, false => some ⟨lo, k⟩
    | false, true => some ⟨hi, k⟩
    | false, false => none
  let found := (List.range 17).findSome? fun i => attempt (i + 1)
  (found.getD ⟨m * Nat.pow 2 e.toNat / Nat.pow 2 (-e).toNat, 0⟩).normalize

/-- The shortest decimal of a double's magnitude, for a finite nonzero double, ties going as
`tie` says. -/
def shortest (tie : Tie) (x : Float) : Decimal :=
  let f := fields x
  shortestOf tie f.mantissa f.exponent (f.fraction = 0 && f.biased > 1)

end FaceFraming.Double
