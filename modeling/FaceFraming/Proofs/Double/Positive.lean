import FaceFraming.Proofs.Double.Magnitude

/-!
# Positive doubles

The frame-rate estimator divides by a span it computes in doubles and reports no rate when that
span is not positive, so which spans it rejects depends on whether rounding can turn a positive
quantity into zero. This module is the lower-bound counterpart of
`FaceFraming.Proofs.Double.Magnitude`: it bounds computed values from below, by their leading bit.

`Above k u` says that `u` is positive infinity or a positive normal value whose leading bit
(`totalExponent`) is at least `k`, so that `u ≥ 2^(k-1)`. For `k ≥ -1021`, where every value is
normal, it is kept by

* `roundWithAccuracy_normal`, `round_normal`: rounding leaves 53 bits and never lowers the leading
  bit;
* `above_unpack_pack`: packing, a value past the largest double becoming `+∞`;
* `above_add`, `above_mul`, `above_div`: a sum with a value that is not negative, a product (the
  bounds add) and a quotient by a finite positive value (the bounds subtract);
* `above_ofNat`: the double of a positive natural number;
* `above_unpack_add`, `above_unpack_mul`, `above_unpack_div`: the same for the operations on
  doubles, which round and pack;

and `not_le_zero_of_above` reads it as a comparison: such a double is not `≤ 0`.
-/

namespace FaceFraming.Double

open Float.Model Float.Model.UnpackedFloat

/-! ### Positive values with a lower bound -/

/-- Positive infinity, or a positive normal value (a 53-bit mantissa) whose leading bit is at least
`k`. -/
def Above (k : Int) : UnpackedFloat → Prop
  | .finite .positive m e _ => m.log2 = 52 ∧ k ≤ totalExponent m e
  | .infinity .positive => True
  | _ => False

/-- A value that is not negative: a zero of either sign, a positive finite value or positive
infinity. -/
def NotNeg : UnpackedFloat → Prop
  | .zero _ => True
  | .finite .positive .. => True
  | .infinity .positive => True
  | _ => False

@[simp] theorem above_finite {k : Int} {m : Nat} {e : Int} {h : 0 < m} :
    Above k (.finite .positive m e h) ↔ m.log2 = 52 ∧ k ≤ totalExponent m e := Iff.rfl

@[simp] theorem above_infinity (k : Int) : Above k (.infinity .positive) := trivial

/-- What a value with a lower bound can be. -/
theorem Above.cases {k : Int} {u : UnpackedFloat} (hu : Above k u) :
    u = .infinity .positive ∨
      ∃ m e h, u = .finite .positive m e h ∧ m.log2 = 52 ∧ k ≤ totalExponent m e := by
  cases u with
  | finite s m e h =>
    cases s with
    | positive => exact Or.inr ⟨m, e, h, rfl, hu⟩
    | negative => exact hu.elim
  | infinity s =>
    cases s with
    | positive => exact Or.inl rfl
    | negative => exact hu.elim
  | zero s => exact hu.elim
  | notANumber => exact hu.elim

theorem Above.mono {k k' : Int} {u : UnpackedFloat} (hu : Above k u) (hk : k' ≤ k) :
    Above k' u := by
  rcases hu.cases with rfl | ⟨m, e, h, rfl, hlog, hte⟩
  · trivial
  · exact ⟨hlog, Int.le_trans hk hte⟩

theorem Above.notNeg {k : Int} {u : UnpackedFloat} (hu : Above k u) : NotNeg u := by
  rcases hu.cases with rfl | ⟨m, e, h, rfl, -, -⟩ <;> trivial

@[simp] theorem not_above_zero (k : Int) (s : Sign) : ¬ Above k (.zero s) := id

/-- What a value that is not negative can be. -/
theorem NotNeg.cases {u : UnpackedFloat} (hu : NotNeg u) :
    (∃ s, u = .zero s) ∨ u = .infinity .positive ∨ ∃ m e h, u = .finite .positive m e h := by
  cases u with
  | finite s m e h =>
    cases s with
    | positive => exact Or.inr (Or.inr ⟨m, e, h, rfl⟩)
    | negative => exact hu.elim
  | infinity s =>
    cases s with
    | positive => exact Or.inr (Or.inl rfl)
    | negative => exact hu.elim
  | zero s => exact Or.inl ⟨s, rfl⟩
  | notANumber => exact hu.elim

/-- A positive double is not `≤ 0`: it compares above every zero. -/
theorem not_le_zero_of_above {k : Int} {x : Float} (hx : Above k x.toModel.unpack) : ¬ x ≤ 0 := by
  intro h
  have hle : x.toModel.unpack.le (0 : Float).toModel.unpack = true := of_decide_eq_true h
  have h0 : (0 : Float).toModel.unpack = .zero .positive := rfl
  rw [h0] at hle
  rcases hx.cases with hu | ⟨m, e, hm, hu, -, -⟩ <;> rw [hu] at hle <;> exact Bool.false_ne_true hle

/-! ### Leading bits -/

theorem log2_mono {a b : Nat} (ha : 0 < a) (h : a ≤ b) : a.log2 ≤ b.log2 :=
  (Nat.le_log2 (by omega)).mpr (Nat.le_trans (Nat.log2_self_le (by omega)) h)

theorem pos_of_le_log2 {m k : Nat} (h : k + 1 ≤ m.log2) : 0 < m :=
  Nat.pos_of_ne_zero fun h0 => by simp [h0] at h

/-- Dropping `k` low bits lowers the leading bit by `k`. -/
theorem log2_div_two_pow {m k : Nat} (hm : 0 < m) (hk : k ≤ m.log2) :
    (m / 2 ^ k).log2 = m.log2 - k := by
  have hlo : 2 ^ (m.log2 - k) ≤ m / 2 ^ k := by
    rw [Nat.le_div_iff_mul_le (Nat.two_pow_pos k), ← Nat.pow_add, Nat.sub_add_cancel hk]
    exact Nat.log2_self_le (by omega)
  rw [Nat.log2_eq_iff (Nat.ne_of_gt (Nat.lt_of_lt_of_le (Nat.two_pow_pos _) hlo))]
  refine ⟨hlo, ?_⟩
  rw [Nat.div_lt_iff_lt_mul (Nat.two_pow_pos k), ← Nat.pow_add,
    show m.log2 - k + 1 + k = m.log2 + 1 by omega]
  exact Nat.lt_log2_self

theorem totalExponent_mono {a b : Nat} (ha : 0 < a) (h : a ≤ b) (e : Int) :
    totalExponent a e ≤ totalExponent b e := by
  have := log2_mono ha h
  unfold totalExponent
  omega

theorem log2_add_le_log2_mul {a b : Nat} (ha : 0 < a) (hb : 0 < b) :
    a.log2 + b.log2 ≤ (a * b).log2 := by
  rw [Nat.le_log2 (Nat.mul_ne_zero (by omega) (by omega)), Nat.pow_add]
  exact Nat.mul_le_mul (Nat.log2_self_le (by omega)) (Nat.log2_self_le (by omega))

/-! ### Rounding in the normal range -/

theorem le_roundedMantissa (em : ExtendedMantissa) : em.mantissa ≤ em.roundedMantissa := by
  obtain ⟨m, r, s⟩ := em
  cases r <;> cases s <;>
    simp only [ExtendedMantissa.roundedMantissa, ExtendedMantissa.accuracy,
      Accuracy.roundToNearestEven] <;> omega

/-- On a mantissa of at least 53 bits whose leading bit is in the normal range, the shift to the
target exponent leaves exactly 53 bits and keeps the leading bit where it was. -/
theorem shiftToTargetExponent_normal (m : Nat) (e : Int) (a : Accuracy) (hm : 52 ≤ m.log2)
    (hk : -1021 ≤ totalExponent m e) :
    (shiftToTargetExponent Format.binary64 m e a).1.mantissa.log2 = 52 ∧
      totalExponent (shiftToTargetExponent Format.binary64 m e a).1.mantissa
        (shiftToTargetExponent Format.binary64 m e a).2 = totalExponent m e := by
  obtain ⟨hm₁, he₁⟩ := shiftToTargetExponent_eq m e a
  have hs : (max e (max (totalExponent m e - 53) (-1074)) - e).toNat = m.log2 - 52 := by
    unfold totalExponent at hk ⊢
    omega
  have hlog : (m / 2 ^ (m.log2 - 52)).log2 = 52 := by
    rw [log2_div_two_pow (pos_of_le_log2 (k := 51) hm) (by omega)]
    omega
  rw [hs] at hm₁
  rw [hm₁, he₁, hlog]
  refine ⟨rfl, ?_⟩
  unfold totalExponent at hk ⊢
  omega

/-- Rounding a mantissa of at least 53 bits whose leading bit is in the normal range gives a
normal value (53 bits) whose leading bit is not lower: a carry out of the last bit can only raise
it. -/
theorem roundWithAccuracy_normal (s : Sign) {m : Nat} {e : Int} (a : Accuracy) (hm : 52 ≤ m.log2)
    (hk : -1021 ≤ totalExponent m e) :
    ∃ m' e' h, roundWithAccuracy Format.binary64 s m e a = .finite s m' e' h ∧ m'.log2 = 52 ∧
      totalExponent m e ≤ totalExponent m' e' := by
  obtain ⟨hlog₁, hte₁⟩ := shiftToTargetExponent_normal m e a hm hk
  unfold roundWithAccuracy
  generalize shiftToTargetExponent Format.binary64 m e a = first at *
  obtain ⟨em₁, e₁⟩ := first
  dsimp only at *
  have hr := le_roundedMantissa em₁
  have hpos₁ : 0 < em₁.mantissa := pos_of_le_log2 (k := 51) (by omega)
  have hlogr := log2_mono hpos₁ hr
  have hter : totalExponent em₁.mantissa e₁ ≤ totalExponent em₁.roundedMantissa e₁ := by
    unfold totalExponent
    omega
  obtain ⟨hlog₂, hte₂⟩ :=
    shiftToTargetExponent_normal em₁.roundedMantissa e₁ .exact (by omega) (by omega)
  generalize shiftToTargetExponent Format.binary64 em₁.roundedMantissa e₁ .exact = second at *
  obtain ⟨em₂, e₂⟩ := second
  dsimp only at *
  have h0 : em₂.mantissa ≠ 0 := fun h => by simp [h] at hlog₂
  rw [dif_neg h0]
  exact ⟨_, _, _, rfl, hlog₂, by omega⟩

/-- Rounding any positive mantissa in the normal range: the mantissa is first widened to 53 bits,
which keeps its leading bit. -/
theorem round_normal (s : Sign) {m : Nat} (hm : 0 < m) (e : Int)
    (hk : -1021 ≤ totalExponent m e) :
    ∃ m' e' h, UnpackedFloat.round Format.binary64 s m e = .finite s m' e' h ∧ m'.log2 = 52 ∧
      totalExponent m e ≤ totalExponent m' e' := by
  unfold UnpackedFloat.round decreaseExponent
  simp only [targetExponent_binary64, Nat.shiftLeft_eq]
  generalize hk' : (e - max (totalExponent m e - 53) (-1074)).toNat = k
  have hte := totalExponent_mul_two_pow hm k e
  have hlog : 52 ≤ (m * 2 ^ k).log2 := by
    rw [log2_mul_two_pow k hm]
    unfold totalExponent at hk hk'
    omega
  rw [← hte]
  exact roundWithAccuracy_normal s .exact hlog (by rw [hte]; exact hk)

/-! ### Packing -/

/-- A value past the largest double packs as the infinity of its sign. -/
theorem unpack_pack_overflow (s : Sign) {m : Nat} {e : Int} (h : 0 < m) (he : 2047 ≤ e + 1075) :
    UnpackedFloat.unpack Format.binary64 (UnpackedFloat.pack Format.binary64 (.finite s m e h)) =
      .infinity s := by
  simp only [UnpackedFloat.pack, biased_eq]
  rw [if_pos (by show 2 ^ 11 ≤ (e + 1075).toNat + 1; omega)]
  simp [packedInfinity, unpack_packComponents]

theorem unpack_pack_infinity (s : Sign) :
    UnpackedFloat.unpack Format.binary64 (UnpackedFloat.pack Format.binary64 (.infinity s)) =
      .infinity s := by
  simp [UnpackedFloat.pack, packedInfinity, unpack_packComponents]

/-- Packing keeps a lower bound in the normal range: the value comes back, or becomes `+∞`. -/
theorem above_unpack_pack {k : Int} {u : UnpackedFloat} (hu : Above k u) (hk : -1021 ≤ k) :
    Above k (UnpackedFloat.unpack Format.binary64 (UnpackedFloat.pack Format.binary64 u)) := by
  cases u with
  | finite s m e h =>
    cases s with
    | positive =>
      obtain ⟨hlog, hte⟩ := hu
      have he : -1074 ≤ e := by
        unfold totalExponent at hte
        omega
      by_cases ho : e + 1075 < 2047
      · rw [unpack_pack_normal .positive h hlog he ho]
        exact ⟨hlog, hte⟩
      · rw [unpack_pack_overflow .positive h (by omega)]
        trivial
    | negative => exact hu.elim
  | infinity s =>
    cases s with
    | positive =>
      rw [unpack_pack_infinity]
      trivial
    | negative => exact hu.elim
  | zero s => exact hu.elim
  | notANumber => exact hu.elim

/-! ### Sums, products and quotients -/

/-- The sum of two positive finite values, rounded: at least the larger of the two, since the
exact sum is. -/
theorem above_add_finite {k : Int} {m₁ m₂ : Nat} {e₁ e₂ : Int} (h₁ : 0 < m₁) (h₂ : 0 < m₂)
    (h : k ≤ totalExponent m₁ e₁ ∨ k ≤ totalExponent m₂ e₂) (hk : -1021 ≤ k) :
    Above k (UnpackedFloat.add Format.binary64 (.finite .positive m₁ e₁ h₁)
      (.finite .positive m₂ e₂ h₂)) := by
  simp only [UnpackedFloat.add, decreaseExponent, Nat.shiftLeft_eq, Sign.apply]
  -- both mantissas are moved down to the smaller exponent, which keeps their leading bits
  generalize hs₁ : (e₁ - min e₁ e₂).toNat = s₁
  generalize hs₂ : (e₂ - min e₁ e₂).toNat = s₂
  have hte₁ : totalExponent (m₁ * 2 ^ s₁) (min e₁ e₂) = totalExponent m₁ e₁ := by
    rw [show min e₁ e₂ = e₁ - s₁ by omega]
    exact totalExponent_mul_two_pow h₁ s₁ e₁
  have hte₂ : totalExponent (m₂ * 2 ^ s₂) (min e₁ e₂) = totalExponent m₂ e₂ := by
    rw [show min e₁ e₂ = e₂ - s₂ by omega]
    exact totalExponent_mul_two_pow h₂ s₂ e₂
  have hp₁ : 0 < m₁ * 2 ^ s₁ := Nat.mul_pos h₁ (Nat.two_pow_pos s₁)
  have hp₂ : 0 < m₂ * 2 ^ s₂ := Nat.mul_pos h₂ (Nat.two_pow_pos s₂)
  have hsum : k ≤ totalExponent (m₁ * 2 ^ s₁ + m₂ * 2 ^ s₂) (min e₁ e₂) := by
    have := totalExponent_mono hp₁ (Nat.le_add_right _ (m₂ * 2 ^ s₂)) (min e₁ e₂)
    have := totalExponent_mono hp₂ (Nat.le_add_left _ (m₁ * 2 ^ s₁)) (min e₁ e₂)
    omega
  have hM : compare ((m₁ * 2 ^ s₁ : Nat) + (m₂ * 2 ^ s₂ : Nat) : Int) 0 = .gt :=
    Int.compare_eq_gt.mpr (by omega)
  rw [UnpackedFloat.normalize, hM]
  dsimp only
  rw [show (((m₁ * 2 ^ s₁ : Nat) + (m₂ * 2 ^ s₂ : Nat) : Int)).toNat = m₁ * 2 ^ s₁ + m₂ * 2 ^ s₂ by
    omega]
  obtain ⟨m', e', h', hr, hlog, hte⟩ := round_normal .positive (Nat.add_pos_left hp₁ (m₂ * 2 ^ s₂))
    (min e₁ e₂) (by omega)
  rw [hr]
  exact ⟨hlog, by omega⟩

/-- Adding two values that are not negative, one of them with a lower bound in the normal range,
keeps that bound. -/
theorem above_add {k : Int} {x y : UnpackedFloat} (hx : NotNeg x) (hy : NotNeg y)
    (h : Above k x ∨ Above k y) (hk : -1021 ≤ k) :
    Above k (UnpackedFloat.add Format.binary64 x y) := by
  rcases hx.cases with ⟨s₁, rfl⟩ | rfl | ⟨m₁, e₁, h₁, rfl⟩ <;>
    rcases hy.cases with ⟨s₂, rfl⟩ | rfl | ⟨m₂, e₂, h₂, rfl⟩
  case inl.inl => simp at h
  case inl.inr.inr => exact h.resolve_left (not_above_zero k s₁)
  case inr.inr.inl => exact h.resolve_right (not_above_zero k s₂)
  case inr.inr.inr =>
    refine above_add_finite h₁ h₂ ?_ hk
    exact h.imp (fun h => h.2) (fun h => h.2)
  all_goals trivial

/-- A product of values with lower bounds: the leading bits add, less one. -/
theorem above_mul {a b : Int} {x y : UnpackedFloat} (hx : Above a x) (hy : Above b y)
    (hk : -1021 ≤ a + b - 1) : Above (a + b - 1) (UnpackedFloat.mul Format.binary64 x y) := by
  rcases hx.cases with rfl | ⟨m₁, e₁, h₁, rfl, hlog₁, hte₁⟩ <;>
    rcases hy.cases with rfl | ⟨m₂, e₂, h₂, rfl, hlog₂, hte₂⟩
  case inr.inr =>
    -- the exact product has at least 105 bits and its leading bit at `te₁ + te₂ - 1` or above
    have hlog := log2_add_le_log2_mul h₁ h₂
    have hte : a + b - 1 ≤ totalExponent (m₁ * m₂) (e₁ + e₂) := by
      unfold totalExponent at hte₁ hte₂ ⊢
      omega
    obtain ⟨m', e', h', hr, hlog', hte'⟩ :=
      roundWithAccuracy_normal .positive .exact (m := m₁ * m₂) (e := e₁ + e₂) (by omega) (by omega)
    show Above _ (roundWithAccuracy Format.binary64 .positive (m₁ * m₂) (e₁ + e₂) .exact)
    rw [hr]
    exact ⟨hlog', by omega⟩
  all_goals trivial

/-- The quotient `divCore` hands to rounding, when the operands' leading bits differ by an amount
in the normal range: at least 53 bits, and a leading bit at least that difference. -/
theorem divCore_normal {m₁ m₂ : Nat} (e₁ e₂ : Int) (h₁ : 0 < m₁) (h₂ : 0 < m₂)
    (hk : -1021 ≤ totalExponent m₁ e₁ - totalExponent m₂ e₂) :
    52 ≤ (divCore Format.binary64 m₁ e₁ m₂ e₂).1.log2 ∧
      totalExponent m₁ e₁ - totalExponent m₂ e₂ ≤
        totalExponent (divCore Format.binary64 m₁ e₁ m₂ e₂).1
          (divCore Format.binary64 m₁ e₁ m₂ e₂).2.1 := by
  simp only [divCore, targetExponent_binary64, Nat.shiftLeft_eq]
  generalize hT : min (e₁ - e₂) (max (totalExponent m₁ e₁ - totalExponent m₂ e₂ - 53) (-1074)) = T
  generalize hs : (e₁ - e₂ - T).toNat = s
  -- the dividend is shifted far enough up that the quotient keeps at least 53 bits
  have hj : m₂.log2 + 1 ≤ m₁.log2 + s := by
    unfold totalExponent at hk hT
    omega
  have hq : 2 ^ (m₁.log2 + s - (m₂.log2 + 1)) ≤ m₁ * 2 ^ s / m₂ := by
    rw [Nat.le_div_iff_mul_le h₂]
    calc 2 ^ (m₁.log2 + s - (m₂.log2 + 1)) * m₂
        ≤ 2 ^ (m₁.log2 + s - (m₂.log2 + 1)) * 2 ^ (m₂.log2 + 1) :=
          Nat.mul_le_mul_left _ (Nat.le_of_lt Nat.lt_log2_self)
      _ = 2 ^ m₁.log2 * 2 ^ s := by rw [← Nat.pow_add, ← Nat.pow_add, Nat.sub_add_cancel hj]
      _ ≤ m₁ * 2 ^ s := Nat.mul_le_mul_right _ (Nat.log2_self_le (by omega))
  have hlog : m₁.log2 + s - (m₂.log2 + 1) ≤ (m₁ * 2 ^ s / m₂).log2 :=
    (Nat.le_log2 (Nat.ne_of_gt (Nat.lt_of_lt_of_le (Nat.two_pow_pos _) hq))).mpr hq
  unfold totalExponent at hk hT ⊢
  omega

/-- Dividing a value with a lower bound by a finite positive value with an upper bound on its
leading bit: the bounds subtract. -/
theorem above_div {a b : Int} {x : UnpackedFloat} (hx : Above a x) {m : Nat} {e : Int} {h : 0 < m}
    (hb : totalExponent m e ≤ b) (hk : -1021 ≤ a - b) :
    Above (a - b) (UnpackedFloat.div Format.binary64 x (.finite .positive m e h)) := by
  rcases hx.cases with rfl | ⟨m₁, e₁, h₁, rfl, hlog₁, hte₁⟩
  · trivial
  · obtain ⟨hlog, hte⟩ := divCore_normal e₁ e h₁ h (by omega)
    obtain ⟨m', e', h', hr, hlog', hte'⟩ := roundWithAccuracy_normal .positive
      (e := (divCore Format.binary64 m₁ e₁ m e).2.1) (divCore Format.binary64 m₁ e₁ m e).2.2 hlog
      (by omega)
    show Above _ (roundWithAccuracy Format.binary64 .positive (divCore Format.binary64 m₁ e₁ m e).1
      (divCore Format.binary64 m₁ e₁ m e).2.1 (divCore Format.binary64 m₁ e₁ m e).2.2)
    rw [hr]
    exact ⟨hlog', by omega⟩

/-! ### Arithmetic on doubles -/

theorem unpack_add (x y : Float) :
    (x + y).toModel.unpack = UnpackedFloat.unpack Format.binary64 (UnpackedFloat.pack Format.binary64
      (UnpackedFloat.add Format.binary64 x.toModel.unpack y.toModel.unpack)) := rfl

theorem above_unpack_add {k : Int} {x y : Float} (hx : NotNeg x.toModel.unpack)
    (hy : NotNeg y.toModel.unpack) (h : Above k x.toModel.unpack ∨ Above k y.toModel.unpack)
    (hk : -1021 ≤ k) : Above k (x + y).toModel.unpack := by
  rw [unpack_add]
  exact above_unpack_pack (above_add hx hy h hk) hk

theorem above_unpack_mul {a b : Int} {x y : Float} (hx : Above a x.toModel.unpack)
    (hy : Above b y.toModel.unpack) (hk : -1021 ≤ a + b - 1) :
    Above (a + b - 1) (x * y).toModel.unpack := by
  rw [unpack_mul]
  exact above_unpack_pack (above_mul hx hy hk) hk

theorem above_unpack_div {a b : Int} {x y : Float} (hx : Above a x.toModel.unpack) {m : Nat} {e : Int}
    {h : 0 < m} (hy : y.toModel.unpack = .finite .positive m e h) (hb : totalExponent m e ≤ b)
    (hk : -1021 ≤ a - b) : Above (a - b) (x / y).toModel.unpack := by
  rw [unpack_div, hy]
  exact above_unpack_pack (above_div hx hb hk) hk

/-! ### Natural numbers -/

/-- A positive number scaled by the power of two its leading bit asks for lies in `[2^52, 2^53)`. -/
theorem divPow_scaled {n : Nat} (h0 : 0 < n) :
    2 ^ 52 ≤ (divPow n 1 ((n.log2 : Int) - 52)).1 ∧ (divPow n 1 ((n.log2 : Int) - 52)).1 < 2 ^ 53 := by
  have hq : (divPow n 1 ((n.log2 : Int) - 52)).1 = n * 2 ^ (52 - n.log2) / 2 ^ (n.log2 - 52) := by
    simp only [divPow, Nat.pow_eq, Nat.one_mul]
    congr 3 <;> omega
  have hlo := Nat.log2_self_le (show n ≠ 0 by omega)
  have hhi := Nat.lt_log2_self (n := n)
  rw [hq]
  constructor
  · rw [Nat.le_div_iff_mul_le (Nat.two_pow_pos _), ← Nat.pow_add]
    calc 2 ^ (52 + (n.log2 - 52)) = 2 ^ n.log2 * 2 ^ (52 - n.log2) := by
          rw [← Nat.pow_add]
          congr 1
          omega
      _ ≤ n * 2 ^ (52 - n.log2) := Nat.mul_le_mul_right _ hlo
  · rw [Nat.div_lt_iff_lt_mul (Nat.two_pow_pos _), ← Nat.pow_add]
    calc n * 2 ^ (52 - n.log2) < 2 ^ (n.log2 + 1) * 2 ^ (52 - n.log2) :=
          Nat.mul_lt_mul_of_pos_right hhi (Nat.two_pow_pos _)
      _ = 2 ^ (53 + (n.log2 - 52)) := by
          rw [← Nat.pow_add]
          congr 1
          omega

/-- Positive fields with an exponent strictly between the extremes and a fraction below `2^52`
spell the normal value `(2^52 + fraction) · 2^(biased - 1075)`. -/
theorem unpack_ofFields_normal {b f : Nat} (hb0 : 0 < b) (hb : b < 2047) (hf : f < 2 ^ 52) :
    (ofFields ⟨false, b, f⟩).toModel.unpack =
      .finite .positive (2 ^ 52 + f) ((b : Int) - 1075) (Nat.add_pos_left (Nat.two_pow_pos 52) f) := by
  have hm : Fields.mantissa ⟨false, b, f⟩ = 2 ^ 52 + f := by
    simp only [Fields.mantissa, Nat.pow_eq]
    rw [if_neg (by omega)]
    omega
  have hb' : ¬ (Fields.biased ⟨false, b, f⟩ = 2047) := by
    dsimp only
    omega
  have hm0 : ¬ (Fields.mantissa ⟨false, b, f⟩ = 0) := by
    rw [hm]
    omega
  have he : Fields.exponent ⟨false, b, f⟩ = (b : Int) - 1075 := by
    simp only [Fields.exponent]
    rw [if_neg (by omega)]
  rw [unpack_eq_unpacked, fields_ofFields hb hf, Fields.unpacked, if_neg hb', dif_neg hm0]
  exact finite_congr hm he

/-- The double of a positive natural number is `+∞` or a normal value whose leading bit is at least
the number's: rounding to 53 bits can only carry upwards. -/
theorem above_ofNat {n : Nat} (h0 : 0 < n) : Above (n.log2 + 1) (ofNat n).toModel.unpack := by
  obtain ⟨hlo, hhi⟩ := divPow_scaled h0
  have hg : ((n.log2 : Int) - ((Nat.log2 1 : Nat) : Int) - 52) = (n.log2 : Int) - 52 := by
    simp [show Nat.log2 1 = 0 from rfl]
  unfold ofNat nearest
  simp only [show max 1 1 = 1 from rfl, if_neg (show n ≠ 0 by omega), hg, Nat.pow_eq,
    if_neg (Nat.not_lt.mpr hlo), show max ((n.log2 : Int) - 52) (-1074) = (n.log2 : Int) - 52 by omega]
  generalize divPow n 1 ((n.log2 : Int) - 52) = p at hlo hhi
  obtain ⟨q, r, d⟩ := p
  dsimp only at hlo hhi ⊢
  -- rounding adds at most one to the scaled quotient; a carry into a 54th bit moves up a binade
  generalize hq : (if 2 * r > d ∨ 2 * r = d ∧ q % 2 = 1 then q + 1 else q) = q₁
  have hq₁ : q ≤ q₁ ∧ q₁ ≤ 2 ^ 53 := by split_ifs at hq <;> omega
  generalize hc : (if q₁ = 2 ^ 53 then (2 ^ 52, (n.log2 : Int) - 52 + 1)
    else (q₁, (n.log2 : Int) - 52)) = c
  have hc' : 2 ^ 52 ≤ c.1 ∧ c.1 < 2 ^ 53 ∧ (n.log2 : Int) - 52 ≤ c.2 := by
    split_ifs at hc with h53 <;> subst hc <;> dsimp only <;> omega
  obtain ⟨q₂, e₂⟩ := c
  dsimp only at hc' ⊢
  rw [if_neg (by omega)]
  split
  · exact above_infinity _
  · rw [unpack_ofFields_normal (by omega) (by omega) (by omega)]
    have hlog : (2 ^ 52 + (q₂ - 2 ^ 52)).log2 = 52 := by
      rw [Nat.log2_eq_iff (by omega)]
      omega
    refine ⟨hlog, ?_⟩
    unfold totalExponent
    omega

end FaceFraming.Double
