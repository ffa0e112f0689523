-- SUMMARY: Which number literals overflow: none of up to 308 digits, and with one all of a larger exponent.
import Overseer.Json.Numeral
import Overseer.Proofs.Number.Rounding

/-!
# Magnitudes of numerals

A literal overflows when its significand, scaled by its exponent, is too large for binary64. Digits alone
need more than 308 places for that, and a larger exponent never brings a literal back into range.
-/

namespace Overseer.Json.Numeral

/-! ## Powers of ten -/

/-- The exponent of the largest power of ten that is not too large. -/
def largestPower : Nat := 308

/-- More than half as much again is not too large either. -/
theorem largestPower_fits : (Binary64.ofRatio? (25 * 10 ^ largestPower) 16).isSome := by
  decide +kernel

theorem fits_of_le {n k : Nat} (le : n ≤ 10 ^ k) (h : k ≤ largestPower) :
    (Binary64.ofRatio? n 1).isSome := by
  obtain ⟨_, eq⟩ := Option.isSome_iff_exists.mp largestPower_fits
  have le : n ≤ 10 ^ largestPower := le.trans (Nat.pow_le_pow_right (by decide) h)
  have ratios : (n : ℚ) / (1 : Nat) ≤ (25 * 10 ^ largestPower : Nat) / (16 : Nat) := by
    generalize 10 ^ largestPower = limit at le ⊢
    have : (n : ℚ) ≤ limit := by exact_mod_cast le
    push_cast
    linarith
  obtain ⟨_, found, -⟩ := Binary64.ofRatio?_mono Nat.one_pos (by decide) ratios eq
  exact Option.isSome_iff_exists.mpr ⟨_, found⟩

theorem powerOfTen_mono {j k : Nat} (h : j ≤ k) (fits : k ≤ largestPower) :
    (Binary64.powerOfTen j).magnitude ≤ (Binary64.powerOfTen k).magnitude :=
  Binary64.magnitude_ofNat_mono (Nat.pow_le_pow_right (by decide) h) (fits_of_le le_rfl fits)

/-- A significand times a power of ten does not overflow if the exact product is at most `10 ^ 308`:
    rounding the factors adds less than half to it. -/
theorem mul_powerOfTen_isSome {n k : Nat} (small : k ≤ largestPower)
    (h : n ≤ 10 ^ (largestPower - k)) :
    ((Binary64.ofNat n).mul? (.powerOfTen k)).isSome := by
  refine Binary64.mul?_isSome_of_le_ratio (by decide) ?_ largestPower_fits
  have first := Binary64.magnitude_ofNat_le n (fits_of_le h (Nat.sub_le largestPower k))
  have second := Binary64.magnitude_ofNat_le (10 ^ k) (fits_of_le le_rfl small)
  have product : n * 10 ^ k ≤ 10 ^ largestPower := by
    calc n * 10 ^ k ≤ 10 ^ (largestPower - k) * 10 ^ k := Nat.mul_le_mul_right _ h
      _ = 10 ^ (largestPower - k + k) := (pow_add 10 _ _).symm
      _ = 10 ^ largestPower := by rw [Nat.sub_add_cancel small]
  generalize 10 ^ largestPower = limit at product ⊢
  calc (Binary64.ofNat n).magnitude * (Binary64.powerOfTen k).magnitude
      ≤ 5 / 4 * n * (5 / 4 * (10 ^ k : Nat)) :=
        mul_le_mul first second (Binary64.magnitude_nonneg _) (by positivity)
    _ = 25 * (n * 10 ^ k : Nat) / 16 := by push_cast; ring
    _ ≤ 25 * limit / 16 := by
        have : ((n * 10 ^ k : Nat) : ℚ) ≤ limit := by exact_mod_cast product
        linarith
    _ = (25 * limit : Nat) / (16 : Nat) := by push_cast; ring

/-! ## Range -/

/-- The value is below `10 ^ 308`, and so it stays when the significand is given digits in exchange for
    the exponent. -/
def InRange (significand : Nat) (exponent : Int) : Prop :=
  ∀ k : Nat, (k : Int) ≤ exponent → k ≤ largestPower ∧ significand < 10 ^ (largestPower - k)

theorem inRange_zero {exponent : Int} (h : exponent ≤ largestPower) : InRange 0 exponent := by
  intro k le
  exact ⟨by omega, Nat.pow_pos (by decide)⟩

/-- A digit takes the place of a power of ten. -/
theorem InRange.digit {significand d : Nat} {exponent : Int} (h : InRange significand exponent)
    (small : d < 10) : InRange (significand * 10 + d) (exponent - 1) := by
  intro k le
  obtain ⟨fits, below⟩ := h (k + 1) (by omega)
  refine ⟨by omega, ?_⟩
  have : largestPower - k = largestPower - (k + 1) + 1 := by omega
  rw [this, Nat.pow_succ]
  omega

theorem InRange.mono {significand : Nat} {exponent exponent' : Int} (h : InRange significand exponent)
    (le : exponent' ≤ exponent) : InRange significand exponent' :=
  fun k small => h k (small.trans le)

theorem scale?_isSome_of_inRange {significand : Nat} {exponent : Int}
    (h : InRange significand exponent) : (scale? significand exponent).isSome := by
  unfold scale?
  dsimp only
  split
  · rfl
  rename_i nonneg
  obtain ⟨k, rfl⟩ := Int.eq_ofNat_of_zero_le (Int.not_lt.mp nonneg)
  obtain ⟨small, below⟩ := h k le_rfl
  have place : (k : Int) ≤ 308 := by unfold largestPower at small; omega
  rw [if_pos place]
  exact mul_powerOfTen_isSome small below.le

/-- Zero does not overflow. -/
theorem isZero_of_scale?_none {significand : Nat} {exponent : Int}
    (h : scale? significand exponent = none) : (Binary64.ofNat significand).isZero = false := by
  by_contra zero
  rw [Bool.not_eq_false] at zero
  have product (y : Binary64) : (Binary64.ofNat significand).mul? y = some .zero := by
    have none : (Binary64.ofNat significand).mantissa = 0 := by simpa [Binary64.isZero] using zero
    simp [Binary64.mul?, Binary64.ratio, Binary64.scaled, none, Binary64.ofRatio?_zero]
  unfold scale? at h
  simp only [product, zero, if_true, ite_self] at h
  split at h
  · cases h
  · cases h

theorem ne_zero_of_scale?_none {significand : Nat} {exponent : Int}
    (h : scale? significand exponent = none) : significand ≠ 0 := by
  rintro rfl
  exact absurd (isZero_of_scale?_none h) (by decide)

/-- A literal that overflows does so with every larger exponent. -/
theorem scale?_none_of_le {significand : Nat} {exponent exponent' : Int}
    (h : scale? significand exponent = none) (le : exponent ≤ exponent') :
    scale? significand exponent' = none := by
  have nonzero := isZero_of_scale?_none h
  have nonneg : ¬ exponent < 0 := by
    intro lt
    rw [scale?, if_pos lt] at h
    cases h
  unfold scale? at h ⊢
  dsimp only at h ⊢
  rw [if_neg nonneg] at h
  rw [if_neg (by omega)]
  split
  · rename_i small
    have fits : exponent'.toNat ≤ largestPower := by unfold largestPower; omega
    rw [if_pos (by omega)] at h
    by_contra some'
    have := Binary64.mul?_isSome_of_le (le_refl _)
      (powerOfTen_mono (j := exponent.toNat) (by omega) fits) (Option.isSome_iff_ne_none.mpr some')
    rw [h] at this
    cases this
  · simp [nonzero]

/-! ## Gathered digits -/

theorem digit_lt {b : UInt8} (h : isDigit b) : digit b < 10 := by
  simp only [isDigit, Bool.and_eq_true, decide_eq_true_eq, UInt8.le_iff_toNat_le] at h
  have : (0x39 : UInt8).toNat = 57 := rfl
  unfold digit
  omega

/-- Digits are gathered up to a place from which on they are left. -/
theorem gather_append (limit value : Nat) (ds more : Bytes) :
    gather limit value (ds ++ more) =
      match gather limit value ds with
      | (v, []) => gather limit v more
      | (v, d :: left) => (v, d :: left ++ more) := by
  induction ds generalizing value with
  | nil => rfl
  | cons d ds ih =>
    simp only [List.cons_append, gather]
    split
    · rfl
    · exact ih _

theorem le_gather (limit value : Nat) (ds : Bytes) : value ≤ (gather limit value ds).1 := by
  induction ds generalizing value with
  | nil => exact le_rfl
  | cons d ds ih =>
    simp only [gather]
    split
    · exact le_rfl
    · have := ih (value * 10 + digit d)
      omega

theorem gather_length_le (limit value : Nat) (ds : Bytes) :
    (gather limit value ds).2.length ≤ ds.length := by
  induction ds generalizing value with
  | nil => exact le_rfl
  | cons d ds ih =>
    simp only [gather]
    split
    · exact le_rfl
    · exact (ih _).trans (Nat.le_succ _)

/-- Gathered digits keep a literal in range. -/
theorem inRange_gather (limit : Nat) {value : Nat} {ds : Bytes} {exponent : Int}
    (h : InRange value exponent) (all : ∀ d ∈ ds, isDigit d) :
    InRange (gather limit value ds).1
      (exponent - (ds.length - (gather limit value ds).2.length : Nat)) := by
  induction ds generalizing value exponent with
  | nil => simpa [gather] using h
  | cons d ds ih =>
    simp only [gather]
    split
    · simpa using h
    · have step := ih (h.digit (digit_lt (all d List.mem_cons_self)))
        fun d mem => all d (List.mem_cons_of_mem _ mem)
      have := gather_length_le limit (value * 10 + digit d) ds
      refine step.mono ?_
      rw [List.length_cons]
      omega

end Overseer.Json.Numeral
