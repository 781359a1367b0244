import FaceFraming.Word

/-!
# Overflow-checked arithmetic

The library computes with unbounded integers. The program it describes keeps its integers in
fixed-width words and, built with overflow checks (as a debug build is), stops with a panic when
an addition, subtraction, multiplication or negation leaves its word, when it divides by zero or
divides the least value by `-1`, and when `clamp` is given bounds out of order. Conversions with
`as` never stop it: they wrap (`Word.wrap32`).

`Checked α` is such a computation: a value, or the panic that stops it, with the program's
wording (`Panic.message`). Each operation here is one of the program's on one word type
(`IntType`), and gives the unbounded result whenever that result is one of the type's values.
The `*_of_holds` lemmas say so; a proof that a whole computation never stops is assembled from
them.
-/

namespace FaceFraming

/-- Why an overflow-checked build stops. -/
inductive Panic where
  /-- A sum left its word. -/
  | addOverflow
  /-- A difference left its word. -/
  | subOverflow
  /-- A product left its word. -/
  | mulOverflow
  /-- A negation left its word. -/
  | negOverflow
  /-- A division by zero. -/
  | divByZero
  /-- A quotient left its word: the least value divided by `-1`. -/
  | divOverflow
  /-- `clamp` was given a lower bound above its upper bound. -/
  | clampBounds
  deriving Repr, DecidableEq

/-- The program's wording of a panic. -/
def Panic.message : Panic → String
  | .addOverflow => "attempt to add with overflow"
  | .subOverflow => "attempt to subtract with overflow"
  | .mulOverflow => "attempt to multiply with overflow"
  | .negOverflow => "attempt to negate with overflow"
  | .divByZero => "attempt to divide by zero"
  | .divOverflow => "attempt to divide with overflow"
  | .clampBounds => "assertion failed: min <= max"

/-- A computation of an overflow-checked build: its value, or the panic that stops it. -/
abbrev Checked := Except Panic

/-- A computation that has its value goes on with it. -/
@[simp] theorem Checked.ok_bind {α β : Type} (a : α) (f : α → Checked β) :
    (Except.ok a >>= f) = f a :=
  rfl

/-- A fixed-width integer type, by its least and greatest values. -/
structure IntType where
  /-- The least value. -/
  least : Int
  /-- The greatest value. -/
  greatest : Int

namespace IntType

/-- Unsigned 32-bit words. -/
def u32 : IntType := ⟨0, Word.u32Max⟩

/-- Signed 32-bit words. -/
def i32 : IntType := ⟨Word.i32Min, Word.i32Max⟩

/-- Signed 64-bit words. -/
def i64 : IntType := ⟨Word.i64Min, Word.i64Max⟩

/-- Unsigned 64-bit words, the size of a count in memory. -/
def u64 : IntType := ⟨0, Word.u64Max⟩

/-- Whether a value is one of the type's. -/
def Holds (ty : IntType) (v : Int) : Prop :=
  ty.least ≤ v ∧ v ≤ ty.greatest

instance (ty : IntType) (v : Int) : Decidable (ty.Holds v) :=
  inferInstanceAs (Decidable (_ ∧ _))

theorem holds_u32 {v : Int} : u32.Holds v ↔ 0 ≤ v ∧ v ≤ 4294967295 := Iff.rfl

theorem holds_i32 {v : Int} : i32.Holds v ↔ -2147483648 ≤ v ∧ v ≤ 2147483647 := Iff.rfl

theorem holds_i64 {v : Int} :
    i64.Holds v ↔ -9223372036854775808 ≤ v ∧ v ≤ 9223372036854775807 := Iff.rfl

/-- A value of the type, or the given panic. -/
def fit (ty : IntType) (e : Panic) (v : Int) : Checked Int :=
  if ty.Holds v then .ok v else .error e

/-- A sum in the type. -/
def add (ty : IntType) (a b : Int) : Checked Int :=
  ty.fit .addOverflow (a + b)

/-- A difference in the type. -/
def sub (ty : IntType) (a b : Int) : Checked Int :=
  ty.fit .subOverflow (a - b)

/-- A product in the type. -/
def mul (ty : IntType) (a b : Int) : Checked Int :=
  ty.fit .mulOverflow (a * b)

/-- A negation in the type. -/
def neg (ty : IntType) (a : Int) : Checked Int :=
  ty.fit .negOverflow (-a)

/-- A quotient in the type, rounded toward zero. -/
def div (ty : IntType) (a b : Int) : Checked Int :=
  if b = 0 then .error .divByZero else ty.fit .divOverflow (a.tdiv b)

/-- A value of the type, or the given panic, is the value when it is one. -/
theorem fit_of_holds {ty : IntType} {v : Int} (e : Panic) (h : ty.Holds v) : ty.fit e v = .ok v :=
  if_pos h

theorem add_of_holds {ty : IntType} {a b : Int} (h : ty.Holds (a + b)) : ty.add a b = .ok (a + b) :=
  fit_of_holds _ h

theorem sub_of_holds {ty : IntType} {a b : Int} (h : ty.Holds (a - b)) : ty.sub a b = .ok (a - b) :=
  fit_of_holds _ h

theorem mul_of_holds {ty : IntType} {a b : Int} (h : ty.Holds (a * b)) : ty.mul a b = .ok (a * b) :=
  fit_of_holds _ h

theorem neg_of_holds {ty : IntType} {a : Int} (h : ty.Holds (-a)) : ty.neg a = .ok (-a) :=
  fit_of_holds _ h

theorem div_of_holds {ty : IntType} {a b : Int} (hb : b ≠ 0) (h : ty.Holds (a.tdiv b)) :
    ty.div a b = .ok (a.tdiv b) := by
  rw [div, if_neg hb]
  exact fit_of_holds _ h

end IntType

/-- `clamp` as the program checks it: a lower bound above the upper one stops it. -/
def clampChecked (lo hi v : Int) : Checked Int :=
  if lo ≤ hi then .ok (Word.clampInt lo hi v) else .error .clampBounds

theorem clampChecked_of_le {lo hi : Int} (h : lo ≤ hi) (v : Int) :
    clampChecked lo hi v = .ok (Word.clampInt lo hi v) :=
  if_pos h

end FaceFraming
