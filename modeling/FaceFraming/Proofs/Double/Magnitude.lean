import FaceFraming.Proofs.Double.Fields

/-!
# How large a computed double can be

The planner computes its zoom step in doubles from the frame size, the target's size, a ratio and a
zoom limit taken as they come, and the crop it places is right only if that step is a number: an
infinity or a NaN there would spoil every crop computed from it. This module bounds the magnitude
of what rounding, division and subtraction produce, without computing the rounded value itself.

`Within k u` says that `u` is a zero or a finite value whose leading bit (`totalExponent`) is at
most `k`, so that `|u| < 2^k`. The results:

* `roundWithAccuracy_cases`: rounding gives a zero or a mantissa below `2^53` at an exponent at
  most one above the larger of the input's exponent and the one its leading bit asks for;
* `within_unpack_pack`: packing a value below `2^972` keeps it finite and within its bound (a
  normal value in range comes back unchanged: `unpack_pack_normal`);
* `within_div`, `within_sub`: a quotient by a value whose leading bit is at least `b`, and a
  difference, stay within a bound computed from the operands' (up to two bits more);
* `unpack_finite_shape`, `within_ofNat`, `maxNum_one_cases`: the shapes of the doubles the planner
  starts from.
-/

namespace FaceFraming.Double

open Float.Model Float.Model.UnpackedFloat

/-! ### Values within a bound -/

/-- A finite value whose leading bit is at most `k`, so that its magnitude is below `2^k`: a zero,
or a finite value with `totalExponent m e ≤ k`. Infinities and NaN are not within any bound. -/
def Within (k : Int) : UnpackedFloat → Prop
  | .zero _ => True
  | .finite _ m e _ => totalExponent m e ≤ k
  | _ => False

@[simp] theorem within_zero (k : Int) (s : Sign) : Within k (.zero s) := trivial

@[simp] theorem within_finite {k : Int} {s : Sign} {m : Nat} {e : Int} {h : 0 < m} :
    Within k (.finite s m e h) ↔ totalExponent m e ≤ k := Iff.rfl

theorem Within.mono {k k' : Int} {u : UnpackedFloat} (hu : Within k u) (hk : k ≤ k') :
    Within k' u := by
  cases u with
  | zero s => trivial
  | finite s m e h => exact Int.le_trans hu hk
  | infinity s => exact hu.elim
  | notANumber => exact hu.elim

/-- A rounded value, with at most 53 bits of mantissa and an exponent at most `k`, lies below
`2^(k + 53)`. -/
theorem within_of_lt {k : Int} {s : Sign} {m : Nat} {e : Int} {h : 0 < m} (hm : m < 2 ^ 53)
    (he : e ≤ k) : Within (k + 53) (.finite s m e h) := by
  have := (Nat.log2_lt (by omega)).mpr hm
  simp only [within_finite, totalExponent]
  omega

/-! ### Leading bits -/

theorem log2_le_of_le_two_pow {r n : Nat} (h : r ≤ 2 ^ n) : r.log2 ≤ n := by
  rcases Nat.eq_zero_or_pos r with rfl | hr
  · simp
  · have := (Nat.log2_lt (by omega)).mpr (Nat.lt_of_le_of_lt h (Nat.pow_lt_pow_right (by decide)
      (Nat.lt_succ_self n)))
    omega

theorem log2_mul_two_pow {n : Nat} (k : Nat) (hn : 0 < n) : (n * 2 ^ k).log2 = n.log2 + k := by
  rw [Nat.log2_eq_iff (Nat.mul_ne_zero (by omega) (by simp))]
  constructor
  · rw [Nat.pow_add]
    exact Nat.mul_le_mul_right _ (Nat.log2_self_le (by omega))
  · rw [show n.log2 + k + 1 = (n.log2 + 1) + k by omega, Nat.pow_add]
    exact Nat.mul_lt_mul_of_pos_right Nat.lt_log2_self (Nat.two_pow_pos k)

/-- Moving a mantissa `k` bits up and its exponent `k` down keeps its leading bit. -/
theorem totalExponent_mul_two_pow {m : Nat} (hm : 0 < m) (k : Nat) (e : Int) :
    totalExponent (m * 2 ^ k) (e - k) = totalExponent m e := by
  simp only [totalExponent, log2_mul_two_pow k hm]
  omega

theorem log2_div_add_le {n d : Nat} (hd : 0 < d) (hq : 0 < n / d) :
    (n / d).log2 + d.log2 ≤ n.log2 := by
  have hn : 0 < n := Nat.lt_of_lt_of_le hq (Nat.div_le_self n d)
  have h1 : 2 ^ ((n / d).log2 + d.log2) ≤ n := by
    rw [Nat.pow_add]
    calc 2 ^ (n / d).log2 * 2 ^ d.log2 ≤ n / d * d :=
          Nat.mul_le_mul (Nat.log2_self_le (by omega)) (Nat.log2_self_le (by omega))
      _ ≤ n := Nat.div_mul_le_self n d
  exact (Nat.le_log2 (by omega)).mpr h1

/-- A mantissa moved to a lower exponent is below the power of two its leading bit gives. -/
theorem mul_two_pow_lt (m k : Nat) : m * 2 ^ k < 2 ^ (m.log2 + 1 + k) := by
  rw [Nat.pow_add]
  exact Nat.mul_lt_mul_of_pos_right Nat.lt_log2_self (Nat.two_pow_pos k)

/-- The difference of two signed naturals below `2^p` has its leading bit at most at `p`. -/
theorem log2_natAbs_sub_le (s₁ s₂ : Sign) {x y p : Nat} (hx : x < 2 ^ p) (hy : y < 2 ^ p) :
    (s₁.apply (x : Int) - s₂.apply (y : Int)).natAbs.log2 ≤ p := by
  have hle : (s₁.apply (x : Int) - s₂.apply (y : Int)).natAbs < 2 ^ (p + 1) := by
    rw [Nat.pow_succ]
    cases s₁ <;> cases s₂ <;> simp only [Sign.apply] <;> omega
  rcases Nat.eq_zero_or_pos (s₁.apply (x : Int) - s₂.apply (y : Int)).natAbs with h0 | hpos
  · rw [h0]
    simp
  · have := (Nat.log2_lt (by omega)).mpr hle
    omega

/-! ### Rounding -/

theorem targetExponent_binary64 (t : Int) :
    Format.binary64.targetExponent t = max (t - 53) (-1074) := by
  simp only [Format.targetExponent, Format.mantissaBits, Format.minExponent]
  rfl

theorem shiftRight_mantissa (em : ExtendedMantissa) (n : Nat) :
    (em >>> n).mantissa = em.mantissa / 2 ^ n := by
  induction n generalizing em with
  | zero =>
    show em.mantissa = em.mantissa / 2 ^ 0
    rw [Nat.pow_zero, Nat.div_one]
  | succ n ih =>
    show (ExtendedMantissa.shiftRightOne (em >>> n)).mantissa = _
    rw [ExtendedMantissa.shiftRightOne, ih, Nat.div_div_eq_div_mul, Nat.pow_succ]

theorem roundedMantissa_le (em : ExtendedMantissa) : em.roundedMantissa ≤ em.mantissa + 1 := by
  obtain ⟨m, r, s⟩ := em
  cases r <;> cases s <;>
    simp only [ExtendedMantissa.roundedMantissa, ExtendedMantissa.accuracy,
      Accuracy.roundToNearestEven] <;> omega

theorem mantissa_ofMantissaAndAccuracy (m : Nat) (a : Accuracy) :
    (ExtendedMantissa.ofMantissaAndAccuracy m a).mantissa = m := by
  cases a with
  | exact => rfl
  | inexact o => cases o <;> rfl

/-- The first shift of rounding: the exponent rises to the one the leading bit asks for (never
below `-1074`), and the mantissa loses the bits below it. -/
theorem shiftToTargetExponent_eq (m : Nat) (e : Int) (a : Accuracy) :
    (shiftToTargetExponent Format.binary64 m e a).1.mantissa =
        m / 2 ^ (max e (max (totalExponent m e - 53) (-1074)) - e).toNat ∧
      (shiftToTargetExponent Format.binary64 m e a).2 =
        max e (max (totalExponent m e - 53) (-1074)) := by
  simp only [shiftToTargetExponent, shiftToExponent, targetExponent_binary64, shiftRight_mantissa,
    mantissa_ofMantissaAndAccuracy]
  constructor
  · congr 2
    omega
  · omega

/-- After the first shift the mantissa has at most 53 bits. -/
theorem mantissa_shiftToTargetExponent_lt (m : Nat) (e : Int) (a : Accuracy) :
    (shiftToTargetExponent Format.binary64 m e a).1.mantissa < 2 ^ 53 := by
  rw [(shiftToTargetExponent_eq m e a).1]
  generalize hk : (max e (max (totalExponent m e - 53) (-1074)) - e).toNat = k
  have hlog : m.log2 + 1 ≤ 53 + k := by
    unfold totalExponent at hk
    omega
  rw [Nat.div_lt_iff_lt_mul (Nat.two_pow_pos k), ← Nat.pow_add]
  exact Nat.lt_of_lt_of_le Nat.lt_log2_self (Nat.pow_le_pow_right (by decide) hlog)

/-- Rounding to 53 bits gives a zero, or a value with a mantissa below `2^53` whose exponent is at
most one above the larger of the input's exponent and the one its leading bit asks for. -/
theorem roundWithAccuracy_cases (s : Sign) (m : Nat) (e : Int) (a : Accuracy) :
    roundWithAccuracy Format.binary64 s m e a = .zero s ∨
      ∃ m' e' h, roundWithAccuracy Format.binary64 s m e a = .finite s m' e' h ∧
        m' < 2 ^ 53 ∧ e' ≤ max e (max (totalExponent m e - 53) (-1074)) + 1 := by
  obtain ⟨-, he₁⟩ := shiftToTargetExponent_eq m e a
  have hlt₁ := mantissa_shiftToTargetExponent_lt m e a
  unfold roundWithAccuracy
  generalize shiftToTargetExponent Format.binary64 m e a = first at *
  obtain ⟨em₁, e₁⟩ := first
  dsimp only at *
  -- the rounding adds at most one to a mantissa below `2^53`
  have hr : em₁.roundedMantissa ≤ 2 ^ 53 := Nat.le_trans (roundedMantissa_le em₁) (by omega)
  have hlogr := log2_le_of_le_two_pow hr
  obtain ⟨-, he₂⟩ := shiftToTargetExponent_eq em₁.roundedMantissa e₁ .exact
  have hlt₂ := mantissa_shiftToTargetExponent_lt em₁.roundedMantissa e₁ .exact
  generalize shiftToTargetExponent Format.binary64 em₁.roundedMantissa e₁ .exact = second at *
  obtain ⟨em₂, e₂⟩ := second
  dsimp only at *
  split
  · exact Or.inl rfl
  · rename_i h
    refine Or.inr ⟨_, _, Nat.pos_of_ne_zero h, rfl, hlt₂, ?_⟩
    unfold totalExponent at he₂
    omega

/-- Decreasing the exponent keeps the leading bit where it was. -/
theorem round_cases (s : Sign) {n : Nat} (hn : 0 < n) (e : Int) :
    UnpackedFloat.round Format.binary64 s n e = .zero s ∨
      ∃ m' e' h, UnpackedFloat.round Format.binary64 s n e = .finite s m' e' h ∧
        m' < 2 ^ 53 ∧ e' ≤ max (totalExponent n e - 53) (-1074) + 1 := by
  unfold UnpackedFloat.round decreaseExponent
  simp only [targetExponent_binary64, Nat.shiftLeft_eq]
  generalize hk : (e - max (totalExponent n e - 53) (-1074)).toNat = k
  have hte := totalExponent_mul_two_pow hn k e
  rcases roundWithAccuracy_cases s (n * 2 ^ k) (e - k) .exact with h | ⟨m', e', hm, h, hlt, he⟩
  · exact Or.inl h
  · refine Or.inr ⟨m', e', hm, h, hlt, ?_⟩
    rw [hte] at he
    omega

/-- Normalizing an integer mantissa gives the zero of the given sign or the rounding of its
magnitude. -/
theorem normalize_cases (M e : Int) (z : Sign) :
    UnpackedFloat.normalize Format.binary64 M e z = .zero z ∨
      ∃ s, 0 < M.natAbs ∧
        UnpackedFloat.normalize Format.binary64 M e z =
          UnpackedFloat.round Format.binary64 s M.natAbs e := by
  unfold UnpackedFloat.normalize
  split
  · rename_i h
    have : M < 0 := Int.compare_eq_lt.mp h
    exact Or.inr ⟨.negative, by omega, by congr 1; omega⟩
  · exact Or.inl rfl
  · rename_i h
    have : 0 < M := Int.compare_eq_gt.mp h
    exact Or.inr ⟨.positive, by omega, by congr 1; omega⟩

/-! ### Packing -/

theorem unpack_pack_zero (s : Sign) :
    UnpackedFloat.unpack Format.binary64 (UnpackedFloat.pack Format.binary64 (.zero s)) = .zero s := by
  simp [UnpackedFloat.pack, packedZero, unpack_packComponents]

theorem within_unpack_packComponents_zero (s : Sign) (M : BitVec 52) :
    Within (-1021) (UnpackedFloat.unpack Format.binary64 (packComponents Format.binary64 s 0#11 M)) := by
  rw [unpack_packComponents, if_neg (by decide), if_pos rfl]
  split
  · trivial
  · rename_i hM
    have hM0 : M.toNat ≠ 0 := fun h0 => hM (BitVec.eq_of_toNat_eq h0)
    have := (Nat.log2_lt hM0).mpr M.isLt
    simp only [within_finite, totalExponent]
    omega

/-- A normal value in range packs and unpacks to itself. -/
theorem unpack_pack_normal (s : Sign) {m : Nat} {e : Int} (h : 0 < m) (hlog : m.log2 = 52)
    (he : -1074 ≤ e) (he' : e + 1075 < 2047) :
    UnpackedFloat.unpack Format.binary64 (UnpackedFloat.pack Format.binary64 (.finite s m e h)) =
      .finite s m e h := by
  have hE : BitVec.ofNat 11 (e + 1075).toNat ≠ -1#11 := fun h' => by
    have := congrArg BitVec.toNat h'
    simp only [BitVec.toNat_ofNat] at this
    rw [show (-1#11 : BitVec 11).toNat = 2047 from rfl] at this
    omega
  have hE0 : BitVec.ofNat 11 (e + 1075).toNat ≠ 0#11 := fun h' => by
    have := congrArg BitVec.toNat h'
    simp only [BitVec.toNat_ofNat] at this
    omega
  have hM : 2 ^ 52 + (BitVec.ofNat 52 m).toNat = m := by
    have hlo := Nat.log2_self_le (show m ≠ 0 by omega)
    have hhi := Nat.lt_log2_self (n := m)
    rw [hlog] at hlo hhi
    simp only [BitVec.toNat_ofNat]
    omega
  rw [pack_normal s m e h hlog he', unpack_packComponents, if_neg hE, if_neg hE0]
  exact finite_congr hM (by simp only [BitVec.toNat_ofNat]; omega)

/-- Packing a value below `2^972` and reading it back gives a value within the same bound, or
within `2^-1021` when the value is cut to the subnormal scale. -/
theorem within_unpack_pack {k : Int} {u : UnpackedFloat} (hu : Within k u) (hk : k ≤ 972) :
    Within (max k (-1021))
      (UnpackedFloat.unpack Format.binary64 (UnpackedFloat.pack Format.binary64 u)) := by
  cases u with
  | zero s =>
    rw [unpack_pack_zero]
    trivial
  | finite s m e h =>
    have hte : totalExponent m e ≤ k := hu
    have he : e + 1075 < 2047 := by
      unfold totalExponent at hte
      omega
    by_cases hlog : m.log2 = 52
    · by_cases hz : (e + 1075).toNat = 0
      · rw [pack_normal s m e h hlog he, hz]
        exact (within_unpack_packComponents_zero s _).mono (by omega)
      · rw [unpack_pack_normal s h hlog (by omega) he]
        simp only [within_finite]
        omega
    · rw [pack_subnormal s m e h hlog he]
      exact (within_unpack_packComponents_zero s _).mono (by omega)
  | infinity s => exact hu.elim
  | notANumber => exact hu.elim

/-! ### Arithmetic -/

theorem unpack_div (x y : Float) :
    (x / y).toModel.unpack = UnpackedFloat.unpack Format.binary64 (UnpackedFloat.pack Format.binary64
      (UnpackedFloat.div Format.binary64 x.toModel.unpack y.toModel.unpack)) := rfl

theorem unpack_sub (x y : Float) :
    (x - y).toModel.unpack = UnpackedFloat.unpack Format.binary64 (UnpackedFloat.pack Format.binary64
      (UnpackedFloat.sub Format.binary64 x.toModel.unpack y.toModel.unpack)) := rfl

theorem unpack_mul (x y : Float) :
    (x * y).toModel.unpack = UnpackedFloat.unpack Format.binary64 (UnpackedFloat.pack Format.binary64
      (UnpackedFloat.mul Format.binary64 x.toModel.unpack y.toModel.unpack)) := rfl

/-- The quotient `divCore` hands to rounding: neither its exponent nor the exponent its leading
bit asks for is above the difference of the operands' leading bits, less 52. -/
theorem divCore_bound (m₁ : Nat) (e₁ : Int) {m₂ : Nat} (e₂ : Int) (h₂ : 0 < m₂) :
    max (divCore Format.binary64 m₁ e₁ m₂ e₂).2.1
        (max (totalExponent (divCore Format.binary64 m₁ e₁ m₂ e₂).1
          (divCore Format.binary64 m₁ e₁ m₂ e₂).2.1 - 53) (-1074)) ≤
      max (totalExponent m₁ e₁ - totalExponent m₂ e₂ - 52) (-1074) := by
  simp only [divCore, targetExponent_binary64, Nat.shiftLeft_eq]
  generalize hT : min (e₁ - e₂) (max (totalExponent m₁ e₁ - totalExponent m₂ e₂ - 53) (-1074)) = T
  generalize hs : (e₁ - e₂ - T).toNat = s
  -- the quotient's leading bit sits at most one above the difference of the operands'
  have hq : totalExponent (m₁ * 2 ^ s / m₂) T ≤
      max (totalExponent m₁ e₁ - totalExponent m₂ e₂ + 1) (T + 1) := by
    rcases Nat.eq_zero_or_pos (m₁ * 2 ^ s / m₂) with h0 | hpos
    · simp only [totalExponent, h0, Nat.log2_zero]
      omega
    · have hm₁ : 0 < m₁ := by
        rcases Nat.eq_zero_or_pos m₁ with rfl | hm₁
        · simp at hpos
        · exact hm₁
      have hlog := log2_div_add_le h₂ hpos
      rw [log2_mul_two_pow s hm₁] at hlog
      unfold totalExponent at hT ⊢
      omega
  omega

/-- Dividing a value below `2^a` by a finite one whose leading bit is at least `b` gives a value
below `2^(a - b + 2)`, or within the subnormal scale. -/
theorem within_div {x y : Float} {a b : Int} (hx : Within a x.toModel.unpack)
    (hy : ∃ s m e h, y.toModel.unpack = .finite s m e h ∧ b ≤ totalExponent m e)
    (hab : a - b ≤ 900) :
    Within (max (a - b + 2) (-1020)) (x / y).toModel.unpack := by
  obtain ⟨s₂, m₂, e₂, h₂, hy, hb⟩ := hy
  rw [unpack_div, hy]
  generalize x.toModel.unpack = u at hx
  cases u with
  | zero s₁ =>
    rw [UnpackedFloat.div, unpack_pack_zero]
    trivial
  | finite s₁ m₁ e₁ h₁ =>
    have ha : totalExponent m₁ e₁ ≤ a := hx
    have hcore := divCore_bound m₁ e₁ e₂ h₂
    simp only [UnpackedFloat.div]
    rcases roundWithAccuracy_cases (s₁ / s₂) (divCore Format.binary64 m₁ e₁ m₂ e₂).1
        (divCore Format.binary64 m₁ e₁ m₂ e₂).2.1 (divCore Format.binary64 m₁ e₁ m₂ e₂).2.2
      with h | ⟨m', e', hm', h, hlt, he⟩
    · rw [h, unpack_pack_zero]
      trivial
    · rw [h]
      exact (within_unpack_pack (within_of_lt hlt (Int.le_refl e')) (by omega)).mono (by omega)
  | infinity s => exact hx.elim
  | notANumber => exact hx.elim

/-- Subtracting two finite values gives a zero or a rounded value whose exponent is at most one
above the one the larger leading bit, plus one, asks for. -/
theorem sub_finite_cases (s₁ s₂ : Sign) {m₁ m₂ : Nat} (e₁ e₂ : Int) (h₁ : 0 < m₁) (h₂ : 0 < m₂) :
    (∃ s, UnpackedFloat.sub Format.binary64 (.finite s₁ m₁ e₁ h₁) (.finite s₂ m₂ e₂ h₂) = .zero s) ∨
      ∃ s m' e' h, UnpackedFloat.sub Format.binary64 (.finite s₁ m₁ e₁ h₁) (.finite s₂ m₂ e₂ h₂) =
          .finite s m' e' h ∧ m' < 2 ^ 53 ∧
        e' ≤ max (max (totalExponent m₁ e₁) (totalExponent m₂ e₂) - 52) (-1074) + 1 := by
  simp only [UnpackedFloat.sub, decreaseExponent, Nat.shiftLeft_eq]
  generalize hk₁ : (e₁ - min e₁ e₂).toNat = k₁
  generalize hk₂ : (e₂ - min e₁ e₂).toNat = k₂
  -- both mantissas, moved to the smaller exponent, lie below the larger leading bit
  generalize hp : (max (totalExponent m₁ e₁) (totalExponent m₂ e₂) - min e₁ e₂).toNat = p
  have hx : m₁ * 2 ^ k₁ < 2 ^ p := Nat.lt_of_lt_of_le (mul_two_pow_lt m₁ k₁)
    (Nat.pow_le_pow_right (by decide) (by unfold totalExponent at hp; omega))
  have hy : m₂ * 2 ^ k₂ < 2 ^ p := Nat.lt_of_lt_of_le (mul_two_pow_lt m₂ k₂)
    (Nat.pow_le_pow_right (by decide) (by unfold totalExponent at hp; omega))
  have hlog := log2_natAbs_sub_le s₁ s₂ hx hy
  rcases normalize_cases (s₁.apply ((m₁ * 2 ^ k₁ : Nat) : Int) - s₂.apply ((m₂ * 2 ^ k₂ : Nat) : Int))
      (min e₁ e₂) .positive with h | ⟨s, hpos, h⟩
  · exact Or.inl ⟨_, h⟩
  · rw [h]
    rcases round_cases s hpos (min e₁ e₂) with h' | ⟨m', e', hm', h', hlt, he⟩
    · exact Or.inl ⟨_, h'⟩
    · refine Or.inr ⟨s, m', e', hm', h', hlt, ?_⟩
      unfold totalExponent at he hp ⊢
      omega

/-- Subtracting values below `2^a` and `2^b` gives a value below `2^(max a b + 2)`, or within the
subnormal scale. -/
theorem within_sub {x y : Float} {a b : Int} (hx : Within a x.toModel.unpack)
    (hy : Within b y.toModel.unpack) (hab : max a b ≤ 900) :
    Within (max (max a b + 2) (-1020)) (x - y).toModel.unpack := by
  rw [unpack_sub]
  generalize x.toModel.unpack = u at hx
  generalize y.toModel.unpack = v at hy
  cases u with
  | zero s₁ =>
    cases v with
    | zero s₂ =>
      have hz : ∃ s, UnpackedFloat.sub Format.binary64 (.zero s₁) (.zero s₂) = .zero s := by
        simp only [UnpackedFloat.sub]
        split
        · exact ⟨_, rfl⟩
        · exact ⟨_, rfl⟩
      obtain ⟨s, hs⟩ := hz
      rw [hs, unpack_pack_zero]
      trivial
    | finite s₂ m₂ e₂ h₂ =>
      have hneg : UnpackedFloat.sub Format.binary64 (.zero s₁) (.finite s₂ m₂ e₂ h₂) =
          .finite (-s₂) m₂ e₂ h₂ := rfl
      rw [hneg]
      exact (within_unpack_pack (show Within b (.finite (-s₂) m₂ e₂ h₂) from hy) (by omega)).mono
        (by omega)
    | infinity s => exact hy.elim
    | notANumber => exact hy.elim
  | finite s₁ m₁ e₁ h₁ =>
    cases v with
    | zero s₂ =>
      have hkeep : UnpackedFloat.sub Format.binary64 (.finite s₁ m₁ e₁ h₁) (.zero s₂) =
          .finite s₁ m₁ e₁ h₁ := rfl
      rw [hkeep]
      exact (within_unpack_pack hx (by omega)).mono (by omega)
    | finite s₂ m₂ e₂ h₂ =>
      have ha : totalExponent m₁ e₁ ≤ a := hx
      have hb : totalExponent m₂ e₂ ≤ b := hy
      rcases sub_finite_cases s₁ s₂ e₁ e₂ h₁ h₂ with ⟨s, h⟩ | ⟨s, m', e', hm', h, hlt, he⟩
      · rw [h, unpack_pack_zero]
        trivial
      · rw [h]
        exact (within_unpack_pack (within_of_lt hlt (Int.le_refl e')) (by omega)).mono (by omega)
    | infinity s => exact hy.elim
    | notANumber => exact hy.elim
  | infinity s => exact hx.elim
  | notANumber => exact hx.elim

/-- Subtracting a zero from a nonzero number gives the number back, to the bit. -/
theorem sub_zero_of_finite {x z : Float} {s : Sign} {m : Nat} {e : Int} {h : 0 < m}
    (hx : x.toModel.unpack = .finite s m e h) {s' : Sign} (hz : z.toModel.unpack = .zero s') :
    x - z = x := by
  have hnan : x.isNaN = false := by
    show x.toModel.unpack.isNaN = false
    rw [hx]
    rfl
  have hsub : UnpackedFloat.sub Format.binary64 x.toModel.unpack z.toModel.unpack =
      x.toModel.unpack := by
    rw [hx, hz]
    rfl
  show Float.ofModel (Float.Model.pack
    (UnpackedFloat.sub Format.binary64 x.toModel.unpack z.toModel.unpack)) = x
  rw [hsub]
  exact ofModel_pack_unpack x hnan

/-- A finite value divided by an infinity is a zero. -/
theorem div_infinity_eq_zero {x y : Float} {a : Int} {s : Sign} (hx : Within a x.toModel.unpack)
    (hy : y.toModel.unpack = .infinity s) : ∃ s', (x / y).toModel.unpack = .zero s' := by
  rw [unpack_div, hy]
  generalize x.toModel.unpack = u at hx
  cases u with
  | zero s₁ => exact ⟨_, unpack_pack_zero _⟩
  | finite s₁ m₁ e₁ h₁ => exact ⟨_, unpack_pack_zero _⟩
  | infinity s₁ => exact hx.elim
  | notANumber => exact hx.elim

/-- A finite value times a zero is a zero. -/
theorem mul_zero_eq_zero {x z : Float} {a : Int} {s : Sign} (hx : Within a x.toModel.unpack)
    (hz : z.toModel.unpack = .zero s) : ∃ s', (x * z).toModel.unpack = .zero s' := by
  rw [unpack_mul, hz]
  generalize x.toModel.unpack = u at hx
  cases u with
  | zero s₁ => exact ⟨_, unpack_pack_zero _⟩
  | finite s₁ m₁ e₁ h₁ => exact ⟨_, unpack_pack_zero _⟩
  | infinity s₁ => exact hx.elim
  | notANumber => exact hx.elim

/-! ### Doubles the planner starts from -/

theorem fraction_lt (x : Float) : (fields x).fraction < 2 ^ 52 :=
  Nat.mod_lt _ (Nat.two_pow_pos 52)

theorem biased_lt (x : Float) : (fields x).biased < 2048 :=
  Nat.mod_lt _ (by decide)

/-- The finite values a double holds: a mantissa below `2^52` at the subnormal scale `2^-1074`, or a
53-bit mantissa at an exponent of at least `-1074`. -/
theorem unpack_finite_shape {x : Float} {s : Sign} {m : Nat} {e : Int} {h : 0 < m}
    (hx : x.toModel.unpack = .finite s m e h) :
    (e = -1074 ∧ m < 2 ^ 52) ∨ (m.log2 = 52 ∧ -1074 ≤ e) := by
  have hf := fraction_lt x
  have hb := biased_lt x
  rw [unpack_eq_unpacked, Fields.unpacked] at hx
  split_ifs at hx with h1 h2
  injection hx with hs hm he
  subst hm he
  unfold Fields.mantissa Fields.exponent
  by_cases h0 : (fields x).biased = 0
  · rw [if_pos h0, if_pos h0]
    exact Or.inl ⟨rfl, hf⟩
  · simp only [if_neg h0, Nat.pow_eq]
    refine Or.inr ⟨?_, by omega⟩
    rw [Nat.log2_eq_iff (by omega)]
    omega

/-- The double of a natural number below `2^53` is finite and positive, its leading bit at
`log2 n + 1`. -/
theorem within_ofNat {n : Nat} (h0 : 0 < n) (h53 : n < 2 ^ 53) :
    Within (n.log2 + 1) (ofNat n).toModel.unpack ∧
      ∃ m e h, (ofNat n).toModel.unpack = .finite .positive m e h ∧
        (n.log2 : Int) + 1 ≤ totalExponent m e := by
  have hte : totalExponent (n * 2 ^ (52 - n.log2)) ((n.log2 : Int) - 52) = n.log2 + 1 := by
    have hk : n.log2 < 53 := (Nat.log2_lt (by omega)).mpr h53
    simp only [totalExponent, log2_mul_two_pow _ h0]
    omega
  rw [unpack_ofNat h0 h53]
  exact ⟨Int.le_of_eq hte, _, _, _, rfl, Int.le_of_eq hte.symm⟩

/-- `maxNum x 1.0` is positive infinity or a finite positive value of at least one: its leading
bit is at least `1`. -/
theorem maxNum_one_cases (x : Float) :
    (maxNum x 1.0).toModel.unpack = .infinity .positive ∨
      ∃ m e h, (maxNum x 1.0).toModel.unpack = .finite .positive m e h ∧ 1 ≤ totalExponent m e := by
  have hpos : 0 < 2 ^ 52 := Nat.two_pow_pos 52
  have hone : (1.0 : Float).toModel.unpack = .finite .positive (2 ^ 52) (-52) hpos := rfl
  have hone_te : (1 : Int) ≤ totalExponent (2 ^ 52) (-52) := by
    unfold totalExponent
    rw [Nat.log2_two_pow]
    omega
  unfold maxNum
  split_ifs with h1 h2 h3
  · exact Or.inr ⟨_, _, hpos, hone, hone_te⟩
  · exact absurd h2 (by decide)
  · exact Or.inr ⟨_, _, hpos, hone, hone_te⟩
  · -- a number that is not below one
    have hnan : x.toModel.unpack.isNaN ≠ true := h1
    have hlt : ¬ (x.toModel.unpack.lt (1.0 : Float).toModel.unpack = true) := fun h =>
      h3 (show Float.lt x 1.0 = true from decide_eq_true h)
    rw [hone] at hlt
    generalize hu : x.toModel.unpack = u at hnan hlt
    cases u with
    | notANumber => exact absurd rfl hnan
    | infinity s =>
      cases s with
      | positive => exact Or.inl rfl
      | negative => exact absurd rfl hlt
    | zero s => exact absurd rfl hlt
    | finite s m e h =>
      cases s with
      | negative => exact absurd rfl hlt
      | positive =>
        simp only [UnpackedFloat.lt, UnpackedFloat.compare, beq_iff_eq, Option.some.injEq,
          Ordering.then_eq_lt, Int.compare_eq_lt, Int.compare_eq_eq, Nat.compare_eq_lt] at hlt
        rcases unpack_finite_shape hu with ⟨rfl, -⟩ | ⟨hlog, -⟩
        · omega
        · refine Or.inr ⟨m, e, h, rfl, ?_⟩
          simp only [totalExponent, hlog]
          omega

end FaceFraming.Double
