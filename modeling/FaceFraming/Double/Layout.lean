import FaceFraming.Double.Shortest

/-!
# Writing a double as text

A double is written from its shortest decimal (`Double.shortest`) by a `Layout`: which positions of
the decimal point are written positionally and which with an exponent, what marks a whole number,
and the words for NaN and the infinities. Three layouts are used:

* `Layout.json`, for numbers in JSON documents: positional while the decimal point stays within
  sixteen places left of the first digit and five places right of it, otherwise `1.5e-7` or
  `1e+16`, the exponent always signed; a whole number keeps a `.0`; of two equally near shortest
  decimals the even one; NaN and the infinities are written `null`;
* `Layout.cited`, for a number a JSON reading fault cites: as in JSON documents, with `NaN`, `inf`
  and `-inf`;
* `Layout.plain`, for numbers inside other messages: always positional, a whole number without a
  point, of two equally near shortest decimals the larger, `NaN`, `inf` and `-inf`.
-/

namespace FaceFraming.Double

/-- How the shortest decimal of a double is laid out as text. -/
structure Layout where
  /-- With `some (lo, hi)`, the number `0.d₁d₂… × 10^point` is written positionally exactly when
  `lo < point ≤ hi`, and with an exponent otherwise; `none` writes every number positionally. -/
  positional : Option (Int × Int)
  /-- Whether a non-negative exponent is written with `+`. -/
  signedExponent : Bool := false
  /-- Which of two equally near shortest decimals is written. -/
  tie : Tie
  /-- Appended to a positional number that has no fractional digits. -/
  wholeMark : String
  /-- The text of a NaN. -/
  nan : String
  /-- The text of positive infinity. -/
  infinity : String
  /-- The text of negative infinity. -/
  negInfinity : String

/-- JSON numbers: exponent form, always signed, outside `-5 < point ≤ 16`, `.0` on whole numbers,
`null` for the values JSON cannot hold. -/
def Layout.json : Layout :=
  { positional := some (-5, 16), signedExponent := true, tie := .even, wholeMark := ".0",
    nan := "null", infinity := "null", negInfinity := "null" }

/-- Numbers cited by a JSON reading fault: as in JSON documents, with words for NaN and the
infinities. -/
def Layout.cited : Layout :=
  { Layout.json with nan := "NaN", infinity := "inf", negInfinity := "-inf" }

/-- Numbers in other messages: always positional, no mark on whole numbers, a tie written with the
larger digits. -/
def Layout.plain : Layout :=
  { positional := none, tie := .up, wholeMark := "", nan := "NaN", infinity := "inf",
    negInfinity := "-inf" }

/-- `n` zero digits. -/
def zeros (n : Nat) : String :=
  String.ofList (List.replicate n '0')

/-- The text of a decimal's magnitude under a layout. -/
def Layout.body (l : Layout) (d : Decimal) : String :=
  let ds := toString d.digits
  let len := ds.length
  let point : Int := len + d.exponent
  let scientific := match l.positional with
    | some (lo, hi) => point ≤ lo || hi < point
    | none => false
  if scientific then
    let first := String.ofList (ds.toList.take 1)
    let rest := String.ofList (ds.toList.drop 1)
    let mantissa := if rest.isEmpty then first else first ++ "." ++ rest
    let e := point - 1
    mantissa ++ "e" ++ (if l.signedExponent ∧ 0 ≤ e then "+" else "") ++ toString e
  else if 0 ≤ d.exponent then
    ds ++ zeros d.exponent.toNat ++ l.wholeMark
  else if 0 < point then
    String.ofList (ds.toList.take point.toNat) ++ "." ++ String.ofList (ds.toList.drop point.toNat)
  else
    "0." ++ zeros (-point).toNat ++ ds

/-- The text of a double under a layout. -/
def Layout.render (l : Layout) (x : Float) : String :=
  if x.isNaN then l.nan
  else
    let f := fields x
    if f.biased = 2047 then (if f.negative then l.negInfinity else l.infinity)
    else
      let sign := if f.negative then "-" else ""
      if f.biased = 0 ∧ f.fraction = 0 then sign ++ "0" ++ l.wholeMark
      else sign ++ l.body (shortest l.tie x)

end FaceFraming.Double
