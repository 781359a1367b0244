/-!
# UTF-8

Decoding a byte list as UTF-8 (RFC 3629: no overlong forms, no surrogates, nothing above
`U+10FFFF`), and encoding one code point. Readers of text files, of recorded lines and of JSON
strings all go through `decode?`, so they refuse exactly the same byte lists.
-/

namespace FaceFraming.Utf8

/-- A continuation byte, `10xxxxxx`. -/
def isTail (b : UInt8) : Bool :=
  0x80 ≤ b && b ≤ 0xBF

/-- The low six bits of a continuation byte. -/
def tailBits (b : UInt8) : Nat :=
  b.toNat % 64

/-- One character from the front of a byte list, with the bytes after it; `none` when the list
does not start with a well-formed character. -/
def decodeOne : List UInt8 → Option (Char × List UInt8)
  | [] => none
  | a :: rest =>
    if a < 0x80 then some (Char.ofNat a.toNat, rest)
    else if 0xC2 ≤ a && a ≤ 0xDF then
      match rest with
      | b :: r => if isTail b then some (Char.ofNat ((a.toNat % 32) * 64 + tailBits b), r) else none
      | [] => none
    else if 0xE0 ≤ a && a ≤ 0xEF then
      match rest with
      | b :: c :: r =>
        let lo : UInt8 := if a = 0xE0 then 0xA0 else 0x80
        let hi : UInt8 := if a = 0xED then 0x9F else 0xBF
        if lo ≤ b && b ≤ hi && isTail c then
          some (Char.ofNat ((a.toNat % 16) * 4096 + tailBits b * 64 + tailBits c), r)
        else none
      | _ => none
    else if 0xF0 ≤ a && a ≤ 0xF4 then
      match rest with
      | b :: c :: d :: r =>
        let lo : UInt8 := if a = 0xF0 then 0x90 else 0x80
        let hi : UInt8 := if a = 0xF4 then 0x8F else 0xBF
        if lo ≤ b && b ≤ hi && isTail c && isTail d then
          some (Char.ofNat ((a.toNat % 8) * 262144 + tailBits b * 4096 + tailBits c * 64
            + tailBits d), r)
        else none
      | _ => none
    else none

/-- Decoding one character always consumes at least one byte. -/
theorem decodeOne_length {bs r : List UInt8} {c : Char} (h : decodeOne bs = some (c, r)) :
    r.length < bs.length := by
  unfold decodeOne at h
  repeat' split at h
  all_goals simp only [Option.some.injEq, Prod.mk.injEq, reduceCtorEq,
    Option.ite_none_right_eq_some] at h
  all_goals grind

/-- The characters of a byte list, or `none` when it is not well-formed UTF-8. -/
def decode? (bs : List UInt8) : Option (List Char) :=
  match h : decodeOne bs with
  | none => if bs.isEmpty then some [] else none
  | some (c, r) =>
    have : r.length < bs.length := decodeOne_length h
    (decode? r).map (c :: ·)
termination_by bs.length

/-- A byte list as text, when it is well-formed UTF-8. -/
def toString? (bs : List UInt8) : Option String :=
  (decode? bs).map String.ofList

/-- The UTF-8 bytes of a code point below `0x110000` that is not a surrogate. -/
def encode (n : Nat) : List UInt8 :=
  (String.singleton (Char.ofNat n)).toUTF8.toList

end FaceFraming.Utf8
