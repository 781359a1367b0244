/-!
# Machine words as integers

Quantities of the library are natural numbers or integers; where the program they describe keeps
them in fixed-width words, the width shows only in the few conversions named here: saturating to
sixteen unsigned bits, and reading an integer as a 32-bit two's-complement word.
-/

namespace FaceFraming.Word

/-- The largest 16-bit unsigned value. -/
def u16Max : Nat := 65535

/-- The largest 32-bit unsigned value. -/
def u32Max : Nat := 4294967295

/-- The largest 64-bit unsigned value. -/
def u64Max : Nat := 18446744073709551615

/-- The smallest 32-bit signed value. -/
def i32Min : Int := -2147483648

/-- The largest 32-bit signed value. -/
def i32Max : Int := 2147483647

/-- The smallest 64-bit signed value. -/
def i64Min : Int := -9223372036854775808

/-- The largest 64-bit signed value. -/
def i64Max : Int := 9223372036854775807

/-- A natural number saturated to 16 bits. -/
def sat16 (n : Nat) : Nat :=
  min n u16Max

/-- An integer read as a 32-bit two's-complement word: the value of `[-2^31, 2^31)` congruent to
it modulo `2^32`. -/
def wrap32 (i : Int) : Int :=
  (i + 2147483648) % 4294967296 - 2147483648

/-- An integer clamped to `[lo, hi]`. -/
def clampInt (lo hi i : Int) : Int :=
  max lo (min hi i)

/-- A 32-bit signed subtraction that saturates at the bounds. -/
def subSat32 (a b : Int) : Int :=
  clampInt i32Min i32Max (a - b)

/-- A clamp is at least its lower end. -/
theorem le_clampInt (lo hi i : Int) : lo ≤ clampInt lo hi i :=
  Int.le_max_left _ _

/-- A clamp into a non-empty range is at most its upper end. -/
theorem clampInt_le {lo hi : Int} (h : lo ≤ hi) (i : Int) : clampInt lo hi i ≤ hi := by
  unfold clampInt
  omega

@[simp] theorem sat16_le (n : Nat) : sat16 n ≤ u16Max := Nat.min_le_right _ _

theorem wrap32_of_mem {i : Int} (h1 : -2147483648 ≤ i) (h2 : i < 2147483648) : wrap32 i = i := by
  unfold wrap32
  rw [Int.emod_eq_of_lt (by omega) (by omega)]
  omega

end FaceFraming.Word
