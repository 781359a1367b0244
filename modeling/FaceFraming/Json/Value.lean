/-!
# JSON values

A JSON document as data. Numbers keep the kind they were read as: an integer in `[0, 2^64)`, a
negative integer in `[-2^63, 0)`, or a double for everything else. An object is a list of members;
documents read from text keep their members sorted by key, one member per key (the last one
written wins), while objects built for output keep the order they are built in.
-/

namespace FaceFraming.Json

/-- A JSON number as the reader classifies it. -/
inductive Number where
  /-- An integer of `[0, 2^64)`. -/
  | nat (n : Nat)
  /-- A negative integer of `[-2^63, 0)`. -/
  | neg (i : Int)
  /-- Any other number, as a double. -/
  | float (f : Float)
  deriving Inhabited

/-- A JSON value. -/
inductive Value where
  /-- `null`. -/
  | null
  /-- `true` or `false`. -/
  | bool (b : Bool)
  /-- A number. -/
  | num (n : Number)
  /-- A string. -/
  | str (s : String)
  /-- An array. -/
  | arr (items : List Value)
  /-- An object, as its members. -/
  | obj (members : List (String × Value))
  deriving Inhabited

/-- Inserts a member into a key-sorted member list; a member with the same key is replaced. -/
def insertMember (k : String) (v : Value) : List (String × Value) → List (String × Value)
  | [] => [(k, v)]
  | (k', v') :: rest =>
    if k < k' then (k, v) :: (k', v') :: rest
    else if k = k' then (k, v) :: rest
    else (k', v') :: insertMember k v rest

namespace Value

/-- A natural number. -/
def ofNat (n : Nat) : Value :=
  .num (.nat n)

/-- An integer: natural when non-negative. -/
def ofInt (i : Int) : Value :=
  if 0 ≤ i then .num (.nat i.toNat) else .num (.neg i)

/-- A double. -/
def ofFloat (f : Float) : Value :=
  .num (.float f)

/-- A value or `null`. -/
def ofOption {α : Type} (f : α → Value) : Option α → Value
  | some a => f a
  | none => .null

/-- The member of an object with the given key. -/
def get? (v : Value) (key : String) : Option Value :=
  match v with
  | .obj ms => ms.lookup key
  | _ => none

/-- The member of an object with the given key, unless it is absent or `null`. -/
def field? (v : Value) (key : String) : Option Value :=
  match v.get? key with
  | some .null => none
  | other => other

/-- The natural number a value holds, if it holds one. -/
def asNat? : Value → Option Nat
  | .num (.nat n) => some n
  | _ => none

/-- The integer a value holds, if it holds one. -/
def asInt? : Value → Option Int
  | .num (.nat n) => some n
  | .num (.neg i) => some i
  | _ => none

/-- The number a value holds, as a double. -/
def asFloat? : Value → Option Float
  | .num (.float f) => some f
  | _ => none

/-- The string a value holds. -/
def asString? : Value → Option String
  | .str s => some s
  | _ => none

/-- The boolean a value holds. -/
def asBool? : Value → Option Bool
  | .bool b => some b
  | _ => none

/-- The items of an array. -/
def asList? : Value → Option (List Value)
  | .arr xs => some xs
  | _ => none

end Value

end FaceFraming.Json
