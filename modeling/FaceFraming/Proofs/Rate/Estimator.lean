import FaceFraming.Rate.Estimator
import FaceFraming.Proofs.Double.Positive
import FaceFraming.Proofs.Smoothing.Window

/-!
# The frame-rate estimator

Callers push timestamps in any order (a replayed recording may go back in time), and the rate
controller keeps its tiers exactly when the estimator has no rate. This module says what the
estimator holds after any sequence of pushes, and exactly when it has a rate.

* It keeps the newest `max c 2` of the timestamps pushed, oldest first (`Keeps`, carried by each
  push: `Keeps.push`, `Keeps.pushAll`).
* The span between two timestamps, computed in doubles, is `+0` when the last is not after the
  first (`unpack_spanMillis_of_le`) and positive when it is (`above_spanMillis`): no rounding on
  the way turns a positive span into zero. So a span is `≤ 0` exactly when the last timestamp is
  not after the first (`spanMillis_le_zero_iff`), whatever the timestamps between them.
* Hence the rate is missing exactly when fewer than two timestamps are kept or the newest is not
  after the oldest (`fps?_eq_none_iff`), and is otherwise the count per second over that span
  (`fps?_of_lt`). The main statement is `rate_after_pushes`.
-/

namespace FaceFraming

open Double Float.Model Float.Model.UnpackedFloat

namespace RateEstimator

/-! ### The kept timestamps -/

/-- The estimator keeps the newest of the timestamps `pushed`, oldest first, as many as its
capacity allows, and that capacity is at least two. -/
structure Keeps (e : RateEstimator) (pushed : List Nat) : Prop where
  capacity_two : 2 ≤ e.capacity
  samples : e.samples = pushed.drop (pushed.length - e.capacity)

theorem Keeps.create (c : Nat) : (create c).Keeps [] where
  capacity_two := Nat.le_max_right c 2
  samples := List.drop_nil.symm

theorem Keeps.push {e : RateEstimator} {pushed : List Nat} (h : e.Keeps pushed) (ms : Nat) :
    (e.push ms).Keeps (pushed ++ [ms]) where
  capacity_two := h.capacity_two
  samples := by
    show (if e.samples.length = e.capacity then e.samples.drop 1 else e.samples) ++ [ms] = _
    rw [h.samples]
    exact CropWindow.drop_append_singleton pushed ms (by have := h.capacity_two; omega)

/-- The estimator after `ts` are pushed, in order. -/
def pushAll (e : RateEstimator) (ts : List Nat) : RateEstimator :=
  ts.foldl push e

@[simp] theorem pushAll_nil (e : RateEstimator) : e.pushAll [] = e := rfl

@[simp] theorem pushAll_cons (e : RateEstimator) (t : Nat) (ts : List Nat) :
    e.pushAll (t :: ts) = (e.push t).pushAll ts := rfl

/-- Every sequence of pushes keeps the newest of the timestamps pushed. -/
theorem Keeps.pushAll {e : RateEstimator} {pushed : List Nat} (h : e.Keeps pushed) (ts : List Nat) :
    (e.pushAll ts).Keeps (pushed ++ ts) := by
  induction ts generalizing e pushed with
  | nil => simpa using h
  | cons t ts ih => simpa using ih (h.push t)

@[simp] theorem capacity_create (c : Nat) : (create c).capacity = max c 2 := rfl

@[simp] theorem capacity_push (e : RateEstimator) (ms : Nat) : (e.push ms).capacity = e.capacity :=
  rfl

theorem capacity_pushAll (e : RateEstimator) (ts : List Nat) :
    (e.pushAll ts).capacity = e.capacity := by
  induction ts generalizing e with
  | nil => rfl
  | cons t ts ih => rw [pushAll_cons, ih, capacity_push]

/-- After pushing `ts` into a new estimator of capacity `c`, it holds the last `max c 2` of them. -/
theorem samples_pushAll_create (c : Nat) (ts : List Nat) :
    ((create c).pushAll ts).samples = ts.drop (ts.length - max c 2) := by
  have h := ((Keeps.create c).pushAll ts).samples
  rw [List.nil_append, capacity_pushAll, capacity_create] at h
  exact h

/-! ### The span -/

theorem unpack_thousand :
    (1000.0 : Float).toModel.unpack = .finite .positive 8796093022208000 (-43) (by decide) := rfl

theorem unpack_oneE9 :
    (1e9 : Float).toModel.unpack = .finite .positive 8388608000000000 (-23) (by decide) := rfl

theorem above_thousand : Above 10 (1000.0 : Float).toModel.unpack := by
  rw [unpack_thousand]
  exact ⟨by decide, by decide⟩

theorem totalExponent_oneE9 : totalExponent 8388608000000000 (-23) = 30 := by
  unfold totalExponent
  rw [show Nat.log2 8388608000000000 = 52 by decide]
  rfl

/-- With no time from the first timestamp to the last, the span is `+0`. -/
theorem unpack_spanMillis_of_le {first last : Nat} (h : last ≤ first) :
    (spanMillis first last).toModel.unpack = .zero .positive := by
  unfold spanMillis
  rw [Nat.sub_eq_zero_of_le h]
  rfl

/-- The nanoseconds of a span as a fraction of a second: not negative, and at least `2^-11` when
there are any, since they come in whole milliseconds. -/
theorem nanos_cases (d : Nat) :
    NotNeg (Double.ofNat (d % 1000 * 1000000) / 1e9).toModel.unpack ∧
      (0 < d % 1000 → Above (-10) (Double.ofNat (d % 1000 * 1000000) / 1e9).toModel.unpack) := by
  have habove (h : 0 < d % 1000) : Above (-10) (Double.ofNat (d % 1000 * 1000000) / 1e9).toModel.unpack := by
    have hn : 0 < d % 1000 * 1000000 := Nat.mul_pos h (by decide)
    -- a million nanoseconds or more have their leading bit at 20 or above
    have hlog : 19 ≤ (d % 1000 * 1000000).log2 :=
      (Nat.le_log2 (by omega)).mpr (Nat.le_trans (by decide) (Nat.le_mul_of_pos_left 1000000 h))
    have ha := (above_ofNat hn).mono (show (20 : Int) ≤ (d % 1000 * 1000000).log2 + 1 by omega)
    exact above_unpack_div ha unpack_oneE9 (Int.le_of_eq totalExponent_oneE9) (by decide)
  refine ⟨?_, habove⟩
  rcases Nat.eq_zero_or_pos (d % 1000) with h0 | h0
  · rw [h0, Nat.zero_mul, unpack_div, unpack_ofNat_zero, unpack_oneE9]
    show NotNeg (UnpackedFloat.unpack Format.binary64 (UnpackedFloat.pack Format.binary64
      (.zero .positive)))
    rw [unpack_pack_zero]
    trivial
  · exact (habove h0).notNeg

/-- A span to a strictly later timestamp is positive: at least a quarter of a millisecond, whole
seconds and nanoseconds rounded as they are. -/
theorem above_spanMillis {first last : Nat} (h : first < last) :
    Above (-1) (spanMillis first last).toModel.unpack := by
  unfold spanMillis
  generalize hd : last - first = d
  obtain ⟨hnn, hna⟩ := nanos_cases d
  -- the sum of whole seconds and the fraction is at least `2^-11` whichever part carries it
  have hsum : Above (-10) (Double.ofNat (d / 1000) + Double.ofNat (d % 1000 * 1000000) / 1e9).toModel.unpack := by
    rcases Nat.eq_zero_or_pos (d / 1000) with hs | hs
    · have hz : NotNeg (Double.ofNat (d / 1000)).toModel.unpack := by
        rw [hs, unpack_ofNat_zero]
        trivial
      exact above_unpack_add hz hnn (Or.inr (hna (by omega))) (by decide)
    · have ha := (above_ofNat hs).mono (show (-10 : Int) ≤ (d / 1000).log2 + 1 by omega)
      exact above_unpack_add ha.notNeg hnn (Or.inl ha) (by decide)
  exact above_unpack_mul hsum above_thousand (by decide)

/-- The span is `≤ 0` exactly when the last timestamp is not after the first. -/
theorem spanMillis_le_zero_iff {first last : Nat} : spanMillis first last ≤ 0 ↔ last ≤ first := by
  constructor
  · intro h
    by_contra hlt
    exact not_le_zero_of_above (above_spanMillis (Nat.lt_of_not_le hlt)) h
  · intro h
    have hle : (spanMillis first last).toModel.unpack.le (0 : Float).toModel.unpack = true := by
      rw [unpack_spanMillis_of_le h]
      rfl
    exact decide_eq_true hle

/-! ### The rate -/

theorem fps?_of_length_lt {e : RateEstimator} (h : e.samples.length < 2) : e.fps? = none := by
  unfold fps?
  rcases hs : e.samples with _ | ⟨a, _ | ⟨b, rest⟩⟩
  · rfl
  · rfl
  · rw [hs] at h
    simp at h

/-- With two timestamps or more, the rate is read off the two ends. -/
theorem fps?_of_ends {e : RateEstimator} {first last : Nat} (hf : e.samples.head? = some first)
    (hl : e.samples.getLast? = some last) (h2 : 2 ≤ e.samples.length) :
    e.fps? = if spanMillis first last ≤ 0 then none
      else some (Double.ofNat e.samples.length * 1000.0 / spanMillis first last) := by
  unfold fps?
  rcases hs : e.samples with _ | ⟨a, _ | ⟨b, rest⟩⟩
  · rw [hs] at h2
    simp at h2
  · rw [hs] at h2
    simp at h2
  · rw [hs] at hf hl
    rw [hl]
    simp only [List.head?_cons, Option.some.injEq] at hf
    subst hf
    rfl

theorem exists_ends {e : RateEstimator} (h : 0 < e.samples.length) :
    ∃ first last, e.samples.head? = some first ∧ e.samples.getLast? = some last := by
  rcases hs : e.samples with _ | ⟨a, rest⟩
  · rw [hs] at h
    simp at h
  · cases hl : (a :: rest).getLast? with
    | none => simp at hl
    | some last => exact ⟨a, last, rfl, rfl⟩

/-- One timestamp is its own first and last. -/
theorem two_le_length_of_ends {e : RateEstimator} {first last : Nat}
    (hf : e.samples.head? = some first) (hl : e.samples.getLast? = some last) (h : first < last) :
    2 ≤ e.samples.length := by
  rcases hs : e.samples with _ | ⟨a, _ | ⟨b, rest⟩⟩
  · rw [hs] at hf
    simp at hf
  · rw [hs] at hf hl
    simp only [List.head?_cons, List.getLast?_singleton, Option.some.injEq] at hf hl
    omega
  · simp

/-- No rate exactly when fewer than two timestamps are kept or the newest is not after the
oldest. -/
theorem fps?_eq_none_iff (e : RateEstimator) :
    e.fps? = none ↔ e.samples.length < 2 ∨
      ∃ first last, e.samples.head? = some first ∧ e.samples.getLast? = some last ∧
        last ≤ first := by
  constructor
  · -- no rate: too few timestamps, or a span that is not positive
    intro hnone
    by_cases h2 : e.samples.length < 2
    · exact Or.inl h2
    · obtain ⟨first, last, hf, hl⟩ := exists_ends (e := e) (by omega)
      rw [fps?_of_ends hf hl (by omega)] at hnone
      split_ifs at hnone with hspan
      exact Or.inr ⟨first, last, hf, hl, spanMillis_le_zero_iff.mp hspan⟩
  · rintro (h2 | ⟨first, last, hf, hl, hle⟩)
    · exact fps?_of_length_lt h2
    · by_cases h2 : e.samples.length < 2
      · exact fps?_of_length_lt h2
      · rw [fps?_of_ends hf hl (by omega), if_pos (spanMillis_le_zero_iff.mpr hle)]

/-- With the newest timestamp after the oldest, the rate is the count per second over the span
between them. -/
theorem fps?_of_lt {e : RateEstimator} {first last : Nat} (hf : e.samples.head? = some first)
    (hl : e.samples.getLast? = some last) (hlt : first < last) :
    e.fps? = some (Double.ofNat e.samples.length * 1000.0 / spanMillis first last) := by
  rw [fps?_of_ends hf hl (two_le_length_of_ends hf hl hlt),
    if_neg (fun h => Nat.not_le_of_lt hlt (spanMillis_le_zero_iff.mp h))]

/-- After any pushes, in any order, the estimator of capacity `c` holds the last `max c 2` of the
timestamps, in the order they were pushed. Whatever it holds, it has no rate exactly when it holds
fewer than two or the newest is not after the oldest, and otherwise its rate is the count of
timestamps per second over the span from the oldest to the newest, whatever the timestamps between
them. -/
theorem rate_after_pushes (c : Nat) (ts : List Nat) :
    ((create c).pushAll ts).samples = ts.drop (ts.length - max c 2) ∧
      ((create c).pushAll ts).samples.length = min ts.length (max c 2) ∧
      ∀ e : RateEstimator,
        (e.fps? = none ↔ e.samples.length < 2 ∨
          ∃ first last, e.samples.head? = some first ∧ e.samples.getLast? = some last ∧
            last ≤ first) ∧
        ∀ first last, e.samples.head? = some first → e.samples.getLast? = some last →
          first < last →
          e.fps? = some (Double.ofNat e.samples.length * 1000.0 / spanMillis first last) := by
  have hs := samples_pushAll_create c ts
  refine ⟨hs, ?_, fun e => ⟨fps?_eq_none_iff e, fun _ _ hf hl hlt => fps?_of_lt hf hl hlt⟩⟩
  rw [hs, List.length_drop]
  omega

end RateEstimator

end FaceFraming
