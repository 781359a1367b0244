import FaceFraming.Double.Nearest
import Mathlib

/-!
# Doubles and their fields

The library reads a double through its fields (`fields`, `Fields.mantissa`, `Fields.exponent`) and
builds one from fields (`ofFields`), while the arithmetic of `Float` is given by its model, which
unpacks a bit pattern into a sign, a mantissa and an exponent, computes on those, and packs the
result. This module ties the two readings together:

* `unpack_eq_unpacked`: a double means what its fields say (`Fields.unpacked`);
* `pack_unpack`, `ofModel_pack_unpack`: packing what a pattern means gives the pattern back, NaN
  apart;
* `fields_ofFields`: a double built from the fields of a number reads those fields back;
* `unpack_ofNat`, `roundClamped_ofNat`: a natural number below `2^53` is a double exactly, and
  rounding that double gives the number back.
-/

namespace FaceFraming.Double

open Float.Model Float.Model.UnpackedFloat

/-! ### The three fields of a bit pattern -/

theorem toNat_packComponents (s : Sign) (E : BitVec 11) (M : BitVec 52) :
    (packComponents Format.binary64 s E M).toNat =
      s.toBitVec.toNat * 2 ^ 63 + E.toNat * 2 ^ 52 + M.toNat := by
  have hE := E.isLt
  have hM := M.isLt
  simp only [packComponents, BitVec.toNat_append]
  rw [← Nat.shiftLeft_add_eq_or_of_lt hE, ← Nat.shiftLeft_add_eq_or_of_lt hM]
  simp only [Nat.shiftLeft_eq]
  omega

theorem toNat_unpackSign (b : BitVec 64) :
    (@unpackSign Format.binary64 b).toNat = b.toNat / 2 ^ 63 := by
  have hb := b.isLt
  simp only [unpackSign, BitVec.toNat_cast, BitVec.extractLsb_toNat, Nat.shiftRight_eq_div_pow]
  omega

theorem toNat_unpackExponent (b : BitVec 64) :
    (@unpackExponent Format.binary64 b).toNat = b.toNat / 2 ^ 52 % 2048 := by
  simp only [unpackExponent, BitVec.toNat_cast, BitVec.extractLsb_toNat, Nat.shiftRight_eq_div_pow]

theorem toNat_unpackMantissa (b : BitVec 64) :
    (@unpackMantissa Format.binary64 b).toNat = b.toNat % 2 ^ 52 := by
  simp [unpackMantissa, BitVec.extractLsb_toNat]


theorem sign_toBitVec_ofBitVec (v : BitVec 1) : (Sign.ofBitVec v).toBitVec = v := by
  unfold Sign.ofBitVec
  split_ifs with h
  · exact h.symm
  · apply BitVec.eq_of_toNat_eq
    have hv := v.isLt
    have : v.toNat ≠ 0 := fun h' => h (BitVec.eq_of_toNat_eq h')
    simp only [Sign.toBitVec, BitVec.toNat_ofNat]
    omega

theorem sign_ofBitVec_toBitVec (s : Sign) : Sign.ofBitVec s.toBitVec = s := by
  cases s <;> rfl

/-- A bit pattern is the concatenation of its three fields. -/
theorem packComponents_unpack (b : BitVec 64) :
    packComponents Format.binary64 (Sign.ofBitVec (@unpackSign Format.binary64 b))
      (@unpackExponent Format.binary64 b) (@unpackMantissa Format.binary64 b) = b := by
  apply BitVec.eq_of_toNat_eq
  have hb := b.isLt
  rw [toNat_packComponents, sign_toBitVec_ofBitVec, toNat_unpackSign, toNat_unpackExponent,
    toNat_unpackMantissa]
  omega

theorem unpackSign_packComponents (s : Sign) (E : BitVec 11) (M : BitVec 52) :
    @unpackSign Format.binary64 (packComponents Format.binary64 s E M) = s.toBitVec := by
  apply BitVec.eq_of_toNat_eq
  have hE := E.isLt
  have hM := M.isLt
  rw [toNat_unpackSign, toNat_packComponents]
  cases s <;> simp [Sign.toBitVec] <;> omega

theorem toNat_one_append (M : BitVec 52) : (1#1 ++ M).toNat = 2 ^ 52 + M.toNat := by
  rw [BitVec.toNat_append, ← Nat.shiftLeft_add_eq_or_of_lt M.isLt]
  simp [Nat.shiftLeft_eq]

/-- What a bit pattern means, read off its three fields: the all-ones exponent holds the
infinities and NaN, the zero exponent the zeros and the subnormals (scale `2^-1074`), every other
exponent a normal number whose mantissa carries the implicit bit. -/
theorem unpack_eq_fields (b : BitVec 64) :
    UnpackedFloat.unpack Format.binary64 b =
      let s := Sign.ofBitVec (@unpackSign Format.binary64 b)
      let E := @unpackExponent Format.binary64 b
      let M := @unpackMantissa Format.binary64 b
      if E = -1#11 then (if M = 0#52 then .infinity s else .notANumber)
      else if E = 0#11 then
        (if h : M = 0#52 then .zero s
         else .finite s M.toNat (-1074) (by simpa [BitVec.toNat_pos, BitVec.pos_iff_ne_zero]))
      else .finite s (2 ^ 52 + M.toNat) ((E.toNat : Int) - 1075) (by omega) := by
  simp only [UnpackedFloat.unpack, toNat_one_append]
  split_ifs
  · rfl
  · rfl
  · rfl
  · obtain h : @unpackExponent Format.binary64 b = 0#11 := ‹_›
    simp only [h]
    rfl
  · rfl

theorem unpack_packComponents (s : Sign) (E : BitVec 11) (M : BitVec 52) :
    UnpackedFloat.unpack Format.binary64 (packComponents Format.binary64 s E M) =
      if E = -1#11 then (if M = 0#52 then .infinity s else .notANumber)
      else if E = 0#11 then
        (if h : M = 0#52 then .zero s
         else .finite s M.toNat (-1074) (by simpa [BitVec.toNat_pos, BitVec.pos_iff_ne_zero]))
      else .finite s (2 ^ 52 + M.toNat) ((E.toNat : Int) - 1075) (by omega) := by
  rw [unpack_eq_fields]
  simp only [unpackMantissa_packComponents, unpackExponent_packComponents,
    unpackSign_packComponents, sign_ofBitVec_toBitVec]

/-! ### Packing -/

theorem biased_eq (e : Int) :
    e + (Format.binary64.exponentBias : Int) + ((52 : Nat) : Int) = e + 1075 := by
  have : Format.binary64.exponentBias = 1023 := rfl
  rw [this]
  omega

/-- A finite value with a full 53-bit mantissa and an exponent in range packs as a normal number. -/
theorem pack_normal (s : Sign) (m : Nat) (e : Int) (hm : 0 < m) (hlog : m.log2 = 52)
    (he : e + 1075 < 2047) :
    UnpackedFloat.pack Format.binary64 (.finite s m e hm) =
      packComponents Format.binary64 s (BitVec.ofNat 11 (e + 1075).toNat) (BitVec.ofNat 52 m) := by
  simp only [UnpackedFloat.pack, biased_eq]
  rw [if_neg (by show ¬ 2 ^ 11 ≤ (e + 1075).toNat + 1; omega), if_pos (by rw [hlog]; rfl)]

/-- A finite value whose mantissa is not 53 bits long packs with the zero exponent, as a subnormal
number, whatever its exponent (as long as it is in range): the low 52 bits of the mantissa are
kept. -/
theorem pack_subnormal (s : Sign) (m : Nat) (e : Int) (hm : 0 < m) (hlog : m.log2 ≠ 52)
    (he : e + 1075 < 2047) :
    UnpackedFloat.pack Format.binary64 (.finite s m e hm) =
      packComponents Format.binary64 s 0#11 (BitVec.ofNat 52 m) := by
  simp only [UnpackedFloat.pack, biased_eq]
  rw [if_neg (by show ¬ 2 ^ 11 ≤ (e + 1075).toNat + 1; omega),
    if_neg (by show ¬ m.log2 + 1 = 53; omega)]

theorem toNat_lt_of_ne_allOnes {E : BitVec 11} (h : E ≠ -1#11) : E.toNat < 2047 := by
  have hE := E.isLt
  have : E.toNat ≠ 2047 := fun h' => h (BitVec.eq_of_toNat_eq (by rw [h']; rfl))
  omega

/-- Packing what a bit pattern means gives the pattern back, unless it is a NaN (which packs as
the one canonical NaN). -/
theorem pack_unpack (b : BitVec 64) (h : (UnpackedFloat.unpack Format.binary64 b).isNaN = false) :
    UnpackedFloat.pack Format.binary64 (UnpackedFloat.unpack Format.binary64 b) = b := by
  rw [unpack_eq_fields] at h ⊢
  dsimp only at h ⊢
  refine Eq.trans ?_ (packComponents_unpack b)
  have hM : (@unpackMantissa Format.binary64 b).toNat < 2 ^ 52 :=
    (@unpackMantissa Format.binary64 b).isLt
  split_ifs at h ⊢ with h1 h2 h3 h4
  · rw [h1, h2]
    rfl
  · simp [UnpackedFloat.isNaN] at h
  · rw [h3, h4]
    rfl
  · have hpos : 0 < (@unpackMantissa Format.binary64 b).toNat := by
      simpa [BitVec.toNat_pos, BitVec.pos_iff_ne_zero] using h4
    have hlog : (@unpackMantissa Format.binary64 b).toNat.log2 < 52 :=
      (Nat.log2_lt (by omega)).mpr hM
    rw [pack_subnormal _ _ (-1074) _ (by omega) (by omega), BitVec.ofNat_toNat,
      BitVec.setWidth_eq, h3]
  · have hE := toNat_lt_of_ne_allOnes h1
    have hlog : (2 ^ 52 + (@unpackMantissa Format.binary64 b).toNat).log2 = 52 := by
      rw [Nat.log2_eq_iff (by omega)]
      omega
    have hM' : BitVec.ofNat 52 (2 ^ 52 + (@unpackMantissa Format.binary64 b).toNat) =
        @unpackMantissa Format.binary64 b := by
      apply BitVec.eq_of_toNat_eq
      simp only [BitVec.toNat_ofNat]
      omega
    have hE' : BitVec.ofNat 11 ((@unpackExponent Format.binary64 b).toNat - 1075 + 1075 : Int).toNat =
        @unpackExponent Format.binary64 b := by
      simp
    rw [pack_normal _ _ _ _ hlog (by omega), hE', hM']

/-! ### Doubles and their fields -/

/-- The sign a sign bit stands for. -/
def Fields.sign (f : Fields) : Sign :=
  if f.negative then .negative else .positive

/-- What the fields of a double mean: the infinities and NaN under the all-ones exponent, otherwise
`± mantissa · 2^exponent`, a zero when the mantissa is. -/
def Fields.unpacked (f : Fields) : UnpackedFloat :=
  if f.biased = 2047 then (if f.fraction = 0 then .infinity f.sign else .notANumber)
  else if h : f.mantissa = 0 then .zero f.sign
  else .finite f.sign f.mantissa f.exponent (Nat.pos_of_ne_zero h)

theorem fields_biased (x : Float) :
    (fields x).biased = (@unpackExponent Format.binary64 x.toModel.toBits.toBitVec).toNat := by
  rw [toNat_unpackExponent]
  rfl

theorem fields_fraction (x : Float) :
    (fields x).fraction = (@unpackMantissa Format.binary64 x.toModel.toBits.toBitVec).toNat := by
  rw [toNat_unpackMantissa]
  rfl

theorem fields_sign (x : Float) :
    (fields x).sign = Sign.ofBitVec (@unpackSign Format.binary64 x.toModel.toBits.toBitVec) := by
  have hb := x.toModel.toBits.toBitVec.isLt
  have hs := toNat_unpackSign x.toModel.toBits.toBitVec
  have hn : (fields x).negative = (x.toModel.toBits.toBitVec.toNat / 2 ^ 63 == 1) := rfl
  by_cases h0 : x.toModel.toBits.toBitVec.toNat / 2 ^ 63 = 0
  · have hneg : (fields x).negative = false := by rw [hn, h0]; rfl
    have hbit : @unpackSign Format.binary64 x.toModel.toBits.toBitVec = 0#1 :=
      BitVec.eq_of_toNat_eq (by rw [hs, h0]; rfl)
    simp only [Fields.sign, Sign.ofBitVec, hneg, hbit]
    rfl
  · have h1 : x.toModel.toBits.toBitVec.toNat / 2 ^ 63 = 1 := by omega
    have hneg : (fields x).negative = true := by rw [hn, h1]; rfl
    have hbit : @unpackSign Format.binary64 x.toModel.toBits.toBitVec ≠ 0#1 := fun h =>
      absurd (congrArg BitVec.toNat h) (by rw [hs, h1]; decide)
    simp only [Fields.sign, Sign.ofBitVec, hneg, hbit]
    rfl

theorem finite_congr {s : Sign} {m m' : Nat} {e e' : Int} (hm : m = m') (he : e = e')
    {p : 0 < m} {p' : 0 < m'} : UnpackedFloat.finite s m e p = .finite s m' e' p' := by
  subst hm he
  rfl

/-- A double means what its fields say. -/
theorem unpack_eq_unpacked (x : Float) : x.toModel.unpack = (fields x).unpacked := by
  have hE1 : @unpackExponent Format.binary64 x.toModel.toBits.toBitVec = -1#11 ↔
      (fields x).biased = 2047 := by
    rw [fields_biased, ← BitVec.toNat_inj]
    rfl
  have hE0 : @unpackExponent Format.binary64 x.toModel.toBits.toBitVec = 0#11 ↔
      (fields x).biased = 0 := by
    rw [fields_biased, ← BitVec.toNat_inj]
    rfl
  have hM0 : @unpackMantissa Format.binary64 x.toModel.toBits.toBitVec = 0#52 ↔
      (fields x).fraction = 0 := by
    rw [fields_fraction, ← BitVec.toNat_inj]
    rfl
  have hm0 : (fields x).mantissa = 0 ↔ (fields x).biased = 0 ∧ (fields x).fraction = 0 := by
    by_cases hz : (fields x).biased = 0 <;> simp [Fields.mantissa, hz]
  rw [Float.Model.unpack, unpack_eq_fields]
  dsimp only
  rw [← fields_sign]
  unfold Fields.unpacked
  by_cases hb : (fields x).biased = 2047
  · rw [if_pos (hE1.mpr hb), if_pos hb]
    by_cases hf : (fields x).fraction = 0
    · rw [if_pos (hM0.mpr hf), if_pos hf]
    · rw [if_neg (mt hM0.mp hf), if_neg hf]
  rw [if_neg (mt hE1.mp hb), if_neg hb]
  by_cases h0 : (fields x).biased = 0
  · rw [if_pos (hE0.mpr h0)]
    by_cases hf : (fields x).fraction = 0
    · rw [dif_pos (hM0.mpr hf), dif_pos (hm0.mpr ⟨h0, hf⟩)]
    · rw [dif_neg (mt hM0.mp hf), dif_neg (fun h => hf (hm0.mp h).2)]
      apply finite_congr
      · simp only [Fields.mantissa, if_pos h0, fields_fraction]
      · simp only [Fields.exponent, if_pos h0]
  · rw [if_neg (mt hE0.mp h0), dif_neg (fun h => h0 (hm0.mp h).1)]
    apply finite_congr
    · simp only [Fields.mantissa, if_neg h0, fields_fraction, Nat.pow_eq]
      omega
    · rw [Fields.exponent, if_neg h0, fields_biased]

theorem isNaN_unpack_of_ne_allOnes {b : BitVec 64} (h : @unpackExponent Format.binary64 b ≠ -1#11) :
    (UnpackedFloat.unpack Format.binary64 b).isNaN = false := by
  rw [unpack_eq_fields]
  dsimp only
  rw [if_neg h]
  split_ifs <;> rfl

/-- Reading a bit pattern that is not a NaN as a double keeps it. -/
theorem toBits_ofBits (a : UInt64) (h : (UnpackedFloat.unpack Format.binary64 a.toBitVec).isNaN = false) :
    (Float.ofBits a).toBits = a := by
  show UInt64.ofBitVec (UnpackedFloat.pack Format.binary64 (UnpackedFloat.unpack Format.binary64 a.toBitVec)) = a
  rw [pack_unpack _ h]

/-- A double built from fields of a number reads those fields back. -/
theorem fields_ofFields {f : Fields} (hb : f.biased < 2047) (hf : f.fraction < 2 ^ 52) :
    fields (ofFields f) = f := by
  obtain ⟨neg, biased, fraction⟩ := f
  dsimp only at hb hf
  have hofFields : ofFields ⟨neg, biased, fraction⟩ = Float.ofBits (UInt64.ofNat
      ((if neg then 2 ^ 63 else 0) + biased * 2 ^ 52 + fraction)) := rfl
  generalize hn : (if neg then 2 ^ 63 else 0) + biased * 2 ^ 52 + fraction = n at hofFields
  have hlt : n < 2 ^ 64 := by
    subst hn
    cases neg <;> simp <;> omega
  have hbits : (UInt64.ofNat n).toBitVec.toNat = n := by
    rw [UInt64.toNat_toBitVec, UInt64.toNat_ofNat']
    exact Nat.mod_eq_of_lt hlt
  have hexp : @unpackExponent Format.binary64 (UInt64.ofNat n).toBitVec ≠ -1#11 := by
    intro h
    have h' := congrArg BitVec.toNat h
    rw [toNat_unpackExponent, hbits] at h'
    have : n / 2 ^ 52 % 2048 = biased := by
      subst hn
      cases neg <;> simp <;> omega
    rw [this] at h'
    exact absurd h' (by rw [show (-1#11 : BitVec 11).toNat = 2047 from rfl]; omega)
  have hrt := toBits_ofBits (UInt64.ofNat n) (isNaN_unpack_of_ne_allOnes hexp)
  have hnat : (ofFields ⟨neg, biased, fraction⟩).toBits.toNat = n := by
    rw [hofFields, hrt, UInt64.toNat, hbits]
  simp only [fields, hnat]
  subst hn
  cases neg <;> simp <;> omega

/-- Packing what a double means gives the double back, unless it is a NaN. -/
theorem ofModel_pack_unpack (x : Float) (h : x.isNaN = false) :
    Float.ofModel (Float.Model.pack x.toModel.unpack) = x := by
  obtain ⟨⟨bits, valid⟩⟩ := x
  have h' : (UnpackedFloat.unpack Format.binary64 bits.toBitVec).isNaN = false := h
  simp only [Float.Model.pack, Float.Model.unpack, pack_unpack _ h']

/-! ### Natural numbers -/

theorem divPow_one (n : Nat) (e : Int) (he : e ≤ 0) :
    divPow n 1 e = (n * 2 ^ (-e).toNat, 0, 1) := by
  simp [divPow, Nat.pow_eq, show e.toNat = 0 by omega, Nat.mod_one]

/-- A natural number below `2^53` scaled into `[2^52, 2^53)`. -/
theorem scaled_bounds {n : Nat} (h0 : 0 < n) (h53 : n < 2 ^ 53) :
    2 ^ 52 ≤ n * 2 ^ (52 - n.log2) ∧ n * 2 ^ (52 - n.log2) < 2 ^ 53 := by
  have hk : n.log2 < 53 := (Nat.log2_lt (by omega)).mpr h53
  have hlo := Nat.log2_self_le (show n ≠ 0 by omega)
  have hhi := Nat.lt_log2_self (n := n)
  have hp : (2 : Nat) ^ 52 = 2 ^ n.log2 * 2 ^ (52 - n.log2) := by
    rw [← Nat.pow_add]
    congr 1
    omega
  have hp' : (2 : Nat) ^ 53 = 2 ^ (n.log2 + 1) * 2 ^ (52 - n.log2) := by
    rw [← Nat.pow_add]
    congr 1
    omega
  constructor
  · rw [hp]
    exact Nat.mul_le_mul_right _ hlo
  · rw [hp']
    exact Nat.mul_lt_mul_of_pos_right hhi (Nat.two_pow_pos _)

theorem ofNat_eq {n : Nat} (h0 : 0 < n) (h53 : n < 2 ^ 53) :
    ofNat n = ofFields ⟨false, n.log2 + 1023, n * 2 ^ (52 - n.log2) - 2 ^ 52⟩ := by
  have hk : n.log2 < 53 := (Nat.log2_lt (by omega)).mpr h53
  obtain ⟨hlo, hhi⟩ := scaled_bounds h0 h53
  have hg : ((n.log2 : Int) - ((Nat.log2 1 : Nat) : Int) - 52) = (n.log2 : Int) - 52 := by
    simp [show Nat.log2 1 = 0 from rfl]
  have hdiv := divPow_one n ((n.log2 : Int) - 52) (by omega)
  have hshift : (-((n.log2 : Int) - 52)).toNat = 52 - n.log2 := by omega
  rw [hshift] at hdiv
  unfold ofNat nearest
  have hmax : max ((n.log2 : Int) - 52) (-1074) = (n.log2 : Int) - 52 := by omega
  simp only [show max 1 1 = 1 from rfl, if_neg (show n ≠ 0 by omega), hg, hdiv, Nat.pow_eq,
    if_neg (Nat.not_lt.mpr hlo), hmax]
  have hround : ¬ (2 * 0 > 1 ∨ 2 * 0 = 1 ∧ n * 2 ^ (52 - n.log2) % 2 = 1) := by omega
  have hbiased : ((n.log2 : Int) - 52 + 1075).toNat = n.log2 + 1023 := by omega
  simp only [if_neg hround, if_neg (Nat.ne_of_lt hhi), if_neg (Nat.not_lt.mpr hlo),
    if_neg (show ¬ (2047 ≤ (n.log2 : Int) - 52 + 1075) by omega), hbiased]


theorem ofNat_zero : ofNat 0 = ofFields ⟨false, 0, 0⟩ := rfl

theorem fields_ofNat {n : Nat} (h0 : 0 < n) (h53 : n < 2 ^ 53) :
    fields (ofNat n) = ⟨false, n.log2 + 1023, n * 2 ^ (52 - n.log2) - 2 ^ 52⟩ := by
  have hk : n.log2 < 53 := (Nat.log2_lt (by omega)).mpr h53
  obtain ⟨hlo, hhi⟩ := scaled_bounds h0 h53
  rw [ofNat_eq h0 h53, fields_ofFields (by dsimp only; omega) (by dsimp only; omega)]

theorem mantissa_fields_ofNat {n : Nat} (h0 : 0 < n) (h53 : n < 2 ^ 53) :
    (fields (ofNat n)).mantissa = n * 2 ^ (52 - n.log2) := by
  obtain ⟨hlo, hhi⟩ := scaled_bounds h0 h53
  simp only [fields_ofNat h0 h53, Fields.mantissa, Nat.pow_eq]
  rw [if_neg (by omega)]
  omega

theorem exponent_fields_ofNat {n : Nat} (h0 : 0 < n) (h53 : n < 2 ^ 53) :
    (fields (ofNat n)).exponent = (n.log2 : Int) - 52 := by
  simp only [fields_ofNat h0 h53, Fields.exponent]
  rw [if_neg (by omega)]
  omega

/-- A natural number below `2^53` is a double exactly: its bits scaled into `[2^52, 2^53)`, times
the power of two that scales them back. -/
theorem unpack_ofNat {n : Nat} (h0 : 0 < n) (h53 : n < 2 ^ 53) :
    (ofNat n).toModel.unpack =
      .finite .positive (n * 2 ^ (52 - n.log2)) ((n.log2 : Int) - 52)
        (Nat.lt_of_lt_of_le (Nat.two_pow_pos 52) (scaled_bounds h0 h53).1) := by
  have hk : n.log2 < 53 := (Nat.log2_lt (by omega)).mpr h53
  have hm := mantissa_fields_ofNat h0 h53
  have hb : (fields (ofNat n)).biased ≠ 2047 := by rw [fields_ofNat h0 h53]; dsimp only; omega
  rw [unpack_eq_unpacked, Fields.unpacked, if_neg hb,
    dif_neg (by rw [hm]; have := (scaled_bounds h0 h53).1; omega)]
  have hs : (fields (ofNat n)).sign = .positive := by rw [fields_ofNat h0 h53]; rfl
  rw [hs]
  exact finite_congr hm (exponent_fields_ofNat h0 h53)

theorem unpack_ofNat_zero : (ofNat 0).toModel.unpack = .zero .positive := by
  rw [unpack_eq_unpacked, ofNat_zero, fields_ofFields (by decide) (by decide)]
  rfl

theorem isNaN_ofNat_false (n : Nat) (h53 : n < 2 ^ 53) : (ofNat n).isNaN = false := by
  show (ofNat n).toModel.unpack.isNaN = false
  rcases Nat.eq_zero_or_pos n with rfl | h0
  · rw [unpack_ofNat_zero]
    rfl
  · rw [unpack_ofNat h0 h53]
    rfl

/-- Rounding the double of a natural number below `2^53` to an integer gives the number back. -/
theorem roundHalfAway?_ofNat {n : Nat} (h53 : n < 2 ^ 53) :
    roundHalfAway? (ofNat n) = some (n : Int) := by
  rcases Nat.eq_zero_or_pos n with rfl | h0
  · rw [roundHalfAway?, ofNat_zero, fields_ofFields (by decide) (by decide)]
    have h (k : Nat) : 2 ^ k / 2 / 2 ^ k = 0 :=
      Nat.div_eq_of_lt (Nat.div_lt_self (Nat.two_pow_pos k) (by decide))
    simp only [Fields.mantissa, Fields.exponent, Nat.pow_eq, ↓reduceIte, Nat.zero_add, h,
      -Nat.reducePow]
    simp
  have hk : n.log2 < 53 := (Nat.log2_lt (by omega)).mpr h53
  have hb : (fields (ofNat n)).biased ≠ 2047 := by rw [fields_ofNat h0 h53]; dsimp only; omega
  have hneg : (fields (ofNat n)).negative = false := by rw [fields_ofNat h0 h53]
  rw [roundHalfAway?, if_neg hb, mantissa_fields_ofNat h0 h53, exponent_fields_ofNat h0 h53, hneg]
  simp only [Bool.false_eq_true, if_false, Nat.pow_eq]
  by_cases h52 : n.log2 = 52
  · rw [if_pos (by omega), h52]
    simp
  · rw [if_neg (by omega), show (-((n.log2 : Int) - 52)).toNat = 52 - n.log2 by omega]
    have hpos : 0 < 2 ^ (52 - n.log2) := Nat.two_pow_pos _
    have hhalf : 2 ^ (52 - n.log2) / 2 < 2 ^ (52 - n.log2) := Nat.div_lt_self hpos (by decide)
    rw [Nat.mul_comm, Nat.mul_add_div hpos, Nat.div_eq_of_lt hhalf]
    simp

/-- Rounding the double of a natural number below `2^53` within bounds that hold it gives the
number back. -/
theorem roundClamped_ofNat {lo hi : Int} {n : Nat} (h53 : n < 2 ^ 53) (hlo : lo ≤ n) (hhi : n ≤ hi) :
    roundClamped lo hi (ofNat n) = n := by
  rw [roundClamped, isNaN_ofNat_false n h53, roundHalfAway?_ofNat h53]
  simp only [Bool.false_eq_true, if_false]
  omega

end FaceFraming.Double
