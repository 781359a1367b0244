import FaceFraming.Detection
import Mathlib

/-!
# Reading the faces of a detection document

`Detection.readFaces` turns the bytes a detector attaches to a frame into face boxes. It reads
each entry of the document's `faces` array with the library's shape reader, `Json.conformValue`
at `Detection.entryShape`. Here that reader is shown to read an entry exactly as the fields of a
`RawFace` are read, field by field (`faceOfEntry?_eq`):

* from an object, every member named like a field must be `null` or a 64-bit integer, other
  members are skipped, and a field is its first member of that name;
* from an array, exactly five elements, `null` or 64-bit integers, the fields in declaration
  order;
* and an entry gives a face when all five fields are present, each clamped to `[0, 65535]`.

Main statement (`readFaces_keeps_first_confident`): NUL bytes after a document change nothing,
the bytes read are the given ones less their trailing NULs and no other byte, and the faces are
the first `cap`, in document order, of the entries that give a face whose clamped confidence
reaches the threshold. The cap comes after the threshold, so a larger cap only adds faces at the
end.
-/

namespace FaceFraming.Detection

open Json

/-! ### Entries as fields of a `RawFace` -/

/-- A member read as an optional 64-bit integer: `null` is absent, an integer of the 64-bit range
is present, anything else is refused (`none`). -/
def i64Member? : Value → Option (Option Int)
  | .null => some none
  | .num (.nat n) => if (n : Int) ≤ Word.i64Max then some (some n) else none
  | .num (.neg i) => if Word.i64Min ≤ i then some (some i) else none
  | _ => none

/-- A face entry as read, before any check: five members, each absent when not given. -/
structure RawFace where
  /-- Detection confidence. -/
  confidence : Option Int
  /-- Left column. -/
  x : Option Int
  /-- Top row. -/
  y : Option Int
  /-- Width. -/
  w : Option Int
  /-- Height. -/
  h : Option Int

namespace RawFace

/-- The names of the fields, in declaration order. -/
def keys : List String := ["confidence", "x", "y", "w", "h"]

/-- Whether an object member may stand in an entry: one not named like a field is skipped, one
named like a field must read as an optional integer. -/
def memberFits (m : String × Value) : Bool :=
  !(keys.contains m.1) || (i64Member? m.2).isSome

/-- The field of the given name among an object's members: its first member of that name, absent
when there is none or it is `null`. -/
def fieldOf (ms : List (String × Value)) (k : String) : Option Int :=
  ((ms.lookup k).bind i64Member?).join

/-- An entry read as a `RawFace`. From an object: every member named like a field reads as an
optional integer, the others are skipped, and each field is its first member. From an array:
exactly five elements, the fields in declaration order. Anything else is refused. -/
def ofValue? : Value → Option RawFace
  | .obj ms =>
    if ms.all memberFits then
      some ⟨fieldOf ms "confidence", fieldOf ms "x", fieldOf ms "y", fieldOf ms "w",
        fieldOf ms "h"⟩
    else none
  | .arr [c, x, y, w, h] => do
    some ⟨← i64Member? c, ← i64Member? x, ← i64Member? y, ← i64Member? w, ← i64Member? h⟩
  | _ => none

/-- The face of an entry that gives all five fields, each clamped to `[0, 65535]`. -/
def intoFaceBox (r : RawFace) : Option FaceBox := do
  some ⟨clampToU16 (← r.x), clampToU16 (← r.y), clampToU16 (← r.w), clampToU16 (← r.h),
    clampToU16 (← r.confidence)⟩

/-- The five fields of a record the shape reader returns, read back by name. -/
def ofRecord (r : Value) : RawFace :=
  ⟨(r.field? "confidence").bind Value.asInt?, (r.field? "x").bind Value.asInt?,
    (r.field? "y").bind Value.asInt?, (r.field? "w").bind Value.asInt?,
    (r.field? "h").bind Value.asInt?⟩

end RawFace

/-! ### The shape reader at a face entry -/

/-- The fields of a face entry: five optional 64-bit integers. -/
def entryFields : List (String × Shape × Need) :=
  RawFace.keys.map fun k => (k, optionalInt)

section toOption

variable {ε α β : Type}

@[simp] theorem toOption_ok (a : α) : (Except.ok a : Except ε α).toOption = some a := rfl

@[simp] theorem toOption_error (e : ε) : (Except.error e : Except ε α).toOption = none := rfl

theorem toOption_bind (e : Except ε α) (f : α → Except ε β) :
    (e >>= f).toOption = e.toOption.bind fun a => (f a).toOption := by
  cases e <;> rfl

end toOption

/-- An optional integer member is kept as it is, or refused. -/
theorem conform_optionalInt (n : Nat) (v : Value) :
    (conform (n + 2) optionalInt.1 v).toOption = (i64Member? v).map fun _ => v := by
  rcases v with _ | _ | (k | i | f) | _ | _ | _
  case num.nat | num.neg =>
    -- an integer is kept within the 64-bit range and refused outside it
    simp only [optionalInt, conform, takeNumber, i64Member?]
    split_ifs <;> rfl
  all_goals rfl

/-- The member an optional integer reads as is the integer the value holds. -/
theorem asInt?_of_i64Member? {v : Value} {o : Option Int} (h : i64Member? v = some o) :
    v.asInt? = o := by
  rcases v with _ | _ | (k | i | f) | _ | _ | _ <;> simp only [i64Member?] at h
  case null => cases h; rfl
  case num.nat | num.neg => split_ifs at h; cases h; rfl
  all_goals cases h

/-- A member that reads as an optional integer holds exactly that integer, if any. -/
theorem asInt?_eq_join {v : Value} (h : (i64Member? v).isSome) :
    v.asInt? = (i64Member? v).join := by
  obtain ⟨o, ho⟩ := Option.isSome_iff_exists.1 h
  rw [asInt?_of_i64Member? ho, ho, Option.join_some]

/-- The member of a name skips `null` and a non-integer alike. -/
theorem field?_bind_asInt? (r : Value) (k : String) :
    (r.field? k).bind Value.asInt? = (r.get? k).bind Value.asInt? := by
  unfold Value.field?
  split
  · next h => rw [h]; rfl
  · rfl

/-- A field among optional integers is found by its own name. -/
theorem find?_optionalInts (ks : List String) (k : String) :
    (ks.map fun k' => (k', optionalInt)).find? (·.1 == k) =
      if ks.contains k then some (k, optionalInt) else none := by
  induction ks with
  | nil => rfl
  | cons k' ks ih =>
    by_cases h : k' = k
    · subst h; simp
    · simp [h, ih, Ne.symm h]

theorem find?_entryFields (k : String) :
    entryFields.find? (·.1 == k) =
      if RawFace.keys.contains k then some (k, optionalInt) else none :=
  find?_optionalInts RawFace.keys k

/-- The shape reader takes an array as a record of optional integers by position: as many
elements as fields, each an optional integer, the fields named in order. -/
theorem conformRecordItems_optionalInts (n : Nat) (name : String) (count : Nat)
    (ks : List String) (xs : List Value) (i : Nat) (acc : List (String × Value)) :
    (conformRecordItems (conform (n + 2)) name count (ks.map fun k => (k, optionalInt))
        xs i acc).toOption =
      if xs.length = ks.length ∧ xs.all (fun x => (i64Member? x).isSome) then
        some (.obj (acc.reverse ++ ks.zip xs))
      else none := by
  induction ks generalizing xs i acc with
  | nil => cases xs <;> simp [conformRecordItems]
  | cons k ks ih =>
    rcases xs with _ | ⟨x, rest⟩
    · simp [conformRecordItems, optionalInt]
    · -- the first element is read as the first field, the rest as the others
      simp only [List.map_cons, conformRecordItems, toOption_bind, conform_optionalInt, ih]
      cases hx : i64Member? x <;> simp [hx]

/-- The shape reader takes an object as a face entry when every member named like a field is an
optional integer, and keeps those members, in order, after the ones already taken. -/
theorem conformRecordMembers_entry (n : Nat) (ms acc : List (String × Value)) :
    (conformRecordMembers (conform (n + 2)) entryFields ms acc).toOption =
      if ms.all RawFace.memberFits then
        some (.obj (acc.reverse ++ ms.filter fun m => RawFace.keys.contains m.1))
      else none := by
  induction ms generalizing acc with
  | nil => simp [conformRecordMembers, entryFields, RawFace.keys, optionalInt]
  | cons m more ih =>
    obtain ⟨k, v⟩ := m
    by_cases hk : RawFace.keys.contains k
    · -- a member named like a field is read as an optional integer and kept
      simp only [conformRecordMembers, find?_entryFields, hk, if_true, toOption_bind,
        conform_optionalInt]
      cases hv : i64Member? v with
      | none =>
        simp only [Option.map_none, Option.bind_none, List.all_cons, RawFace.memberFits, hk, hv,
          Option.isSome_none, Bool.not_true, Bool.or_false, Bool.false_and, Bool.false_eq_true,
          if_false]
      | some o =>
        simp only [Option.map_some, Option.bind_some, ih, List.all_cons, RawFace.memberFits, hk,
          hv, Option.isSome_some, Bool.not_true, Bool.or_true, Bool.true_and, List.filter_cons,
          if_true, List.reverse_cons, List.append_assoc, List.singleton_append]
    · -- any other member is skipped
      have hk' : RawFace.keys.contains k = false := by simpa using hk
      simp only [conformRecordMembers, find?_entryFields, hk', Bool.false_eq_true, if_false, ih,
        List.all_cons, RawFace.memberFits, Bool.not_false, Bool.true_or, Bool.true_and,
        List.filter_cons]

namespace RawFace

/-- A record's fields read back through the members of an object. -/
theorem ofRecord_obj (kvs : List (String × Value)) :
    ofRecord (.obj kvs) =
      ⟨(kvs.lookup "confidence").bind Value.asInt?, (kvs.lookup "x").bind Value.asInt?,
        (kvs.lookup "y").bind Value.asInt?, (kvs.lookup "w").bind Value.asInt?,
        (kvs.lookup "h").bind Value.asInt?⟩ := by
  simp only [ofRecord, field?_bind_asInt?, Value.get?]

/-- When every member fits, a field read among the members named like fields is the field. -/
theorem lookup_filter_keys {ms : List (String × Value)} (hfit : ms.all memberFits)
    {k : String} (hk : keys.contains k) :
    ((ms.filter fun m => keys.contains m.1).lookup k).bind Value.asInt? = fieldOf ms k := by
  induction ms with
  | nil => rfl
  | cons m more ih =>
    obtain ⟨k', v⟩ := m
    simp only [List.all_cons, Bool.and_eq_true] at hfit
    obtain ⟨hm, hmore⟩ := hfit
    have hkm : k ∈ keys := by simpa using hk
    by_cases hkk : k = k'
    · -- the first member of the name is the field
      subst hkk
      have hv : (i64Member? v).isSome := by simpa [memberFits, hkm] using hm
      simp [fieldOf, hkm, List.lookup, asInt?_eq_join hv]
    · -- a member of another name is passed over, kept or not
      have hne : (k == k') = false := by simpa using hkk
      have hrest := ih hmore
      simp only [fieldOf] at hrest ⊢
      by_cases hk' : k' ∈ keys <;> simpa [hk', List.lookup, hne] using hrest

end RawFace

/-- The shape reader at a face entry reads exactly the fields of a `RawFace`. -/
theorem conformValue_entryShape (e : Value) :
    (conformValue entryShape e).toOption.map RawFace.ofRecord = RawFace.ofValue? e := by
  rcases e with _ | _ | _ | _ | xs | ms
  case arr =>
    have h : conformValue entryShape (.arr xs) = conformRecordItems (conform (999997 + 2))
        "RawFace" 5 (RawFace.keys.map fun k => (k, optionalInt)) xs 0 [] := rfl
    rw [h, conformRecordItems_optionalInts]
    rcases xs with _ | ⟨c, _ | ⟨x, _ | ⟨y, _ | ⟨w, _ | ⟨hh, _ | ⟨z, zs⟩⟩⟩⟩⟩⟩
    case cons.cons.cons.cons.cons.nil =>
      -- five elements, each read as an optional integer
      cases hc : i64Member? c <;> cases hx : i64Member? x <;> cases hy : i64Member? y <;>
        cases hw : i64Member? w <;> cases hh' : i64Member? hh <;>
        simp [RawFace.ofValue?, RawFace.keys, RawFace.ofRecord_obj, List.lookup, asInt?_eq_join,
          hc, hx, hy, hw, hh']
    all_goals simp [RawFace.keys, RawFace.ofValue?]
  case obj =>
    have h : conformValue entryShape (.obj ms) =
        conformRecordMembers (conform (999997 + 2)) entryFields ms [] := rfl
    rw [h, conformRecordMembers_entry]
    simp only [RawFace.ofValue?]
    split_ifs with hfit
    · have field := fun k (hk : RawFace.keys.contains k) => RawFace.lookup_filter_keys hfit hk
      simp only [Option.map_some, List.reverse_nil, List.nil_append, RawFace.ofRecord_obj,
        field "confidence" (by decide), field "x" (by decide), field "y" (by decide),
        field "w" (by decide), field "h" (by decide)]
    · rfl
  all_goals rfl

/-- An entry gives a face exactly when it reads as a `RawFace` with all five fields present; the
face holds the fields clamped to 16 bits. -/
theorem faceOfEntry?_eq (e : Value) :
    faceOfEntry? e = (RawFace.ofValue? e).bind RawFace.intoFaceBox := by
  rw [← conformValue_entryShape]
  unfold faceOfEntry?
  cases conformValue entryShape e with
  | error _ => rfl
  | ok r =>
    -- both need all five fields; they only take them in another order
    simp only [toOption_ok, Option.map_some, Option.bind_some, RawFace.intoFaceBox,
      RawFace.ofRecord]
    cases (r.field? "confidence").bind Value.asInt? <;> cases (r.field? "x").bind Value.asInt? <;>
      cases (r.field? "y").bind Value.asInt? <;> cases (r.field? "w").bind Value.asInt? <;>
      cases (r.field? "h").bind Value.asInt? <;> rfl

example : faceOfEntry? (.arr [.ofNat 80, .ofNat 20, .num (.neg (-30)), .ofNat 40, .ofNat 70000]) =
    some ⟨20, 0, 40, 65535, 80⟩ := by
  decide

/-! ### The bytes read -/

/-- The bytes read are the given ones less the NUL bytes at their end, and no other byte: what is
dropped is NULs only, and what is kept does not end in one. -/
theorem trimNul_drops_trailing (bs : List UInt8) :
    (∃ j, bs = trimNul bs ++ List.replicate j 0) ∧ (trimNul bs).getLast? ≠ some 0 := by
  constructor
  · -- the NULs dropped are the longest run of them at the end
    obtain ⟨j, hrun⟩ : ∃ j, bs.reverse.takeWhile (· == 0) = List.replicate j 0 :=
      ⟨_, List.eq_replicate_iff.2 ⟨rfl, fun b hb => by simpa using List.mem_takeWhile_imp hb⟩⟩
    refine ⟨j, ?_⟩
    calc bs = (bs.reverse.takeWhile (· == 0) ++ bs.reverse.dropWhile (· == 0)).reverse := by
          rw [List.takeWhile_append_dropWhile, List.reverse_reverse]
      _ = trimNul bs ++ List.replicate j 0 := by
          rw [List.reverse_append, hrun, List.reverse_replicate]; rfl
  · -- read backwards, what is kept starts with a byte that is not NUL
    intro h
    have hne := List.head?_dropWhile_not (· == (0 : UInt8)) bs.reverse
    rw [trimNul, List.getLast?_reverse] at h
    rw [h] at hne
    simp at hne

/-! ### The faces kept -/

/-- A larger cap only adds faces at the end. -/
theorem readFaces_prefix (bs : List UInt8) (t n d : Nat) :
    readFaces bs t n <+: readFaces bs t (n + d) := by
  unfold readFaces readFaces?
  cases entries? bs with
  | none => simp only [Option.map_none, Option.getD_none, List.prefix_refl]
  | some es => exact List.take_prefix_take_left (by omega)

/-- The faces of a detection document. NUL bytes after it change nothing; the bytes read are the
given ones less their trailing NULs and no other byte; the faces are the first `n`, in document
order, of the entries that read as a `RawFace` giving all five fields, clamped to 16 bits, with a
clamped confidence of at least `t` (none when the bytes are no document); so a larger cap only
adds faces at the end. -/
theorem readFaces_keeps_first_confident (m : List UInt8) (k t n : Nat) :
    readFaces (m ++ List.replicate k 0) t n = readFaces m t n ∧
    ((∃ j, m = trimNul m ++ List.replicate j 0) ∧ (trimNul m).getLast? ≠ some 0) ∧
    readFaces m t n =
      ((((entries? m).getD []).filterMap fun e =>
          (RawFace.ofValue? e).bind RawFace.intoFaceBox).filter (t ≤ ·.confidence)).take n ∧
    ∀ d, readFaces m t n <+: readFaces m t (n + d) := by
  refine ⟨?_, trimNul_drops_trailing m, ?_, readFaces_prefix m t n⟩
  · simp only [readFaces, readFaces?_append_zeros]
  · have hface : faceOfEntry? = fun e => (RawFace.ofValue? e).bind RawFace.intoFaceBox :=
      funext faceOfEntry?_eq
    unfold readFaces readFaces?
    cases entries? m <;> simp [hface]

end FaceFraming.Detection
