-- SUMMARY: Rounding to binary64 is monotone: of two ratios the smaller is not rounded to more.
import Mathlib.Algebra.Order.Field.Power
import Mathlib.Data.Nat.Cast.Order.Field
import Mathlib.Data.Int.Log
import Mathlib.Data.Rat.Floor
import Mathlib.Tactic.FieldSimp
import Mathlib.Tactic.Linarith
import Mathlib.Tactic.Positivity
import Overseer.Number.Binary64

/-!
# Rounding

A positive ratio is rounded to a number of units, the unit being the power of two that leaves 53 binary
places. Both the unit and, where two ratios have one unit, the number of units grow with the ratio, so
that no smaller ratio overflows where a larger one does not.
-/

namespace Overseer.Binary64

/-- The exact value of a number without its sign. -/
def magnitude (x : Binary64) : ℚ := x.mantissa * (2 : ℚ) ^ x.exponent

/-! ## Nearest integers -/

theorem div_le_roundDiv (num den : Nat) : num / den ≤ roundDiv num den := by
  unfold roundDiv
  grind

theorem roundDiv_le (num den : Nat) : roundDiv num den ≤ num / den + 1 := by
  unfold roundDiv
  grind

/-- Two ratios with one integer part are compared by their remainders. -/
theorem mod_mul_le {a b c d : Nat} (h : a * d ≤ c * b) (same : a / b = c / d) :
    a % b * d ≤ c % d * b := by
  have ha : a = b * (a / b) + a % b := (Nat.div_add_mod a b).symm
  have hc : c = d * (a / b) + c % d := by rw [same]; exact (Nat.div_add_mod c d).symm
  generalize a / b = q at ha hc
  generalize a % b = r at ha ⊢
  generalize c % d = t at hc ⊢
  subst ha hc
  nlinarith

theorem roundDiv_mono {a b c d : Nat} (hb : 0 < b) (hd : 0 < d) (h : a * d ≤ c * b) :
    roundDiv a b ≤ roundDiv c d := by
  have le : a / b ≤ c / d := by
    rw [Nat.le_div_iff_mul_le hd]
    refine Nat.le_of_mul_le_mul_right ?_ hb
    calc a / b * d * b = a / b * b * d := by ring
      _ ≤ a * d := Nat.mul_le_mul_right d (Nat.div_mul_le_self a b)
      _ ≤ c * b := h
  rcases Nat.lt_or_eq_of_le le with lt | same
  · exact (roundDiv_le a b).trans (lt.trans_le (div_le_roundDiv c d))
  · have rem := mod_mul_le h same
    have up : d < 2 * (c % d) ∨ 2 * (c % d) ≤ d := lt_or_ge _ _
    unfold roundDiv
    simp only [same]
    -- The remainder of the larger ratio is at least as far beyond the half.
    have below : 2 * (c % d) < d → 2 * (a % b) < b := by
      intro lt
      refine Nat.lt_of_mul_lt_mul_right (a := d) ?_
      nlinarith
    have above : b < 2 * (a % b) → d < 2 * (c % d) := by
      intro lt
      refine Nat.lt_of_mul_lt_mul_right (a := b) ?_
      nlinarith
    grind

/-! ## Units -/

theorem scaled_pos (num : Nat) {den : Nat} (shift : Int) (h : 0 < den) : 0 < (scaled num den shift).2 :=
  Nat.mul_pos h (Nat.pow_pos (by decide))

/-- Scaling multiplies a ratio by a power of two. -/
theorem scaled_ratio (num den : Nat) (shift : Int) :
    ((scaled num den shift).1 : ℚ) / (scaled num den shift).2 = num / den * 2 ^ shift := by
  have split : (2 : ℚ) ^ shift = 2 ^ shift.toNat / 2 ^ (-shift).toNat := by
    rw [← zpow_natCast, ← zpow_natCast, ← zpow_sub₀ (by norm_num)]
    congr 1
    omega
  simp only [scaled, Nat.pow_eq, Nat.cast_mul, Nat.cast_pow, Nat.cast_ofNat]
  rw [split]
  field_simp

theorem log_eq {r : ℚ} {z : Int} (pos : 0 < r) (low : 2 ^ z ≤ r) (high : r < 2 ^ (z + 1)) :
    Int.log 2 r = z := by
  have := (Int.zpow_le_iff_le_log (b := 2) (by decide) pos).mp (by exact_mod_cast low)
  have := (Int.lt_zpow_iff_log_lt (b := 2) (by decide) pos).mp (by exact_mod_cast high)
  omega

/-- The binary logarithms of numerator and denominator tell that of the ratio up to one. -/
theorem ratio_bounds {num den : Nat} (hn : 0 < num) (hd : 0 < den) :
    (2 : ℚ) ^ ((Nat.log2 num : Int) - Nat.log2 den - 1) ≤ num / den ∧
      (num / den : ℚ) < 2 ^ ((Nat.log2 num : Int) - Nat.log2 den + 1) := by
  have hd' : (0 : ℚ) < den := by exact_mod_cast hd
  have lowN : (2 : ℚ) ^ (Nat.log2 num : Int) ≤ num := by
    exact_mod_cast Nat.log2_self_le hn.ne'
  have highN : (num : ℚ) < 2 ^ ((Nat.log2 num : Int) + 1) := by
    exact_mod_cast Nat.lt_log2_self
  have lowD : (2 : ℚ) ^ (Nat.log2 den : Int) ≤ den := by
    exact_mod_cast Nat.log2_self_le hd.ne'
  have highD : (den : ℚ) < 2 ^ ((Nat.log2 den : Int) + 1) := by
    exact_mod_cast Nat.lt_log2_self
  set guess : Int := (Nat.log2 num : Int) - Nat.log2 den with hg
  constructor
  · rw [le_div_iff₀ hd']
    calc (2 : ℚ) ^ (guess - 1) * den ≤ 2 ^ (guess - 1) * 2 ^ ((Nat.log2 den : Int) + 1) := by gcongr
      _ = 2 ^ (Nat.log2 num : Int) := by rw [← zpow_add₀ (by norm_num)]; congr 1; omega
      _ ≤ num := lowN
  · rw [div_lt_iff₀ hd']
    calc (num : ℚ) < 2 ^ ((Nat.log2 num : Int) + 1) := highN
      _ = 2 ^ (guess + 1) * 2 ^ (Nat.log2 den : Int) := by
        rw [← zpow_add₀ (by norm_num)]; congr 1; omega
      _ ≤ 2 ^ (guess + 1) * den := by gcongr

/-- A ratio is compared with a power of two by scaling it down. -/
theorem scaled_le_iff (num : Nat) {den : Nat} (hd : 0 < den) (place : Int) :
    (scaled num den (-place)).2 ≤ (scaled num den (-place)).1 ↔ (2 : ℚ) ^ place ≤ num / den := by
  have pos : (0 : ℚ) < (scaled num den (-place)).2 := by
    exact_mod_cast scaled_pos num (-place) hd
  rw [← Nat.cast_le (α := ℚ), ← one_le_div pos, scaled_ratio, zpow_neg, ← div_eq_mul_inv,
    one_le_div (by positivity)]

theorem floorLog2_eq_log {num den : Nat} (hn : 0 < num) (hd : 0 < den) :
    floorLog2 num den = Int.log 2 (num / den : ℚ) := by
  have pos : (0 : ℚ) < num / den := by positivity
  obtain ⟨low, high⟩ := ratio_bounds hn hd
  symm
  unfold floorLog2
  dsimp only
  split
  · rename_i reached
    exact log_eq pos ((scaled_le_iff num hd _).mp reached) high
  · rename_i missed
    refine log_eq pos low ?_
    rw [sub_add_cancel]
    exact lt_of_not_ge fun le => missed ((scaled_le_iff num hd _).mpr le)

/-! ## Rounding -/

/-- The exponent of the last place that is kept of a ratio. -/
def lastPlace (num den : Nat) : Int := max (floorLog2 num den - 52) minExponent

/-- The number of last places that a ratio is rounded to. -/
def places (num den : Nat) : Nat :=
  roundDiv (scaled num den (-lastPlace num den)).1 (scaled num den (-lastPlace num den)).2

/-- A ratio is rounded to its places, of which `2 ^ 53` are half as many larger ones. -/
theorem ofRatio?_eq {num : Nat} (den : Nat) (h : num ≠ 0) :
    ofRatio? num den =
      if places num den = 2 ^ 53 then
        if maxExponent < lastPlace num den + 1 then none
        else some ⟨false, 2 ^ 52, lastPlace num den + 1⟩
      else if maxExponent < lastPlace num den then none
      else some ⟨false, places num den, lastPlace num den⟩ := by
  have full : Width.count 53 = 2 ^ 53 := rfl
  have half : Width.count 52 = 2 ^ 52 := rfl
  unfold ofRatio?
  rw [if_neg h]
  simp only [full, half]
  unfold places lastPlace
  split <;> rfl

theorem ofRatio?_zero (den : Nat) : ofRatio? 0 den = some zero := rfl

/-- Whatever a positive ratio is rounded to has the value of its places. -/
theorem magnitude_of_ofRatio? {num den : Nat} {x : Binary64} (h : num ≠ 0)
    (eq : ofRatio? num den = some x) :
    x.magnitude = places num den * (2 : ℚ) ^ lastPlace num den := by
  rw [ofRatio?_eq den h] at eq
  split at eq
  · rename_i full
    split at eq
    · cases eq
    · cases eq
      simp only [magnitude, full]
      rw [zpow_add₀ (by norm_num)]
      norm_num
      ring
  · split at eq
    · cases eq
    · cases eq; rfl

section Monotonicity

variable {num den num' den' : Nat}

theorem lastPlace_mono (hn : 0 < num) (hd : 0 < den) (hd' : 0 < den')
    (h : (num / den : ℚ) ≤ num' / den') : lastPlace num den ≤ lastPlace num' den' := by
  have pos : (0 : ℚ) < num / den := by positivity
  have hn' : 0 < num' := by
    rcases Nat.eq_zero_or_pos num' with rfl | pos'
    · simp only [Nat.cast_zero, zero_div] at h; linarith
    · exact pos'
  have := Int.log_mono_right (b := 2) pos h
  unfold lastPlace
  rw [floorLog2_eq_log hn hd, floorLog2_eq_log hn' hd']
  omega

/-- The ratio in units of its last place. -/
theorem scaled_lastPlace (num den : Nat) :
    ((scaled num den (-lastPlace num den)).1 : ℚ) / (scaled num den (-lastPlace num den)).2
      = num / den / 2 ^ lastPlace num den := by
  rw [scaled_ratio, zpow_neg, div_eq_mul_inv (_ / _ : ℚ)]

/-- Rounding leaves at most 53 binary places and the carry. -/
theorem places_le (hn : 0 < num) (hd : 0 < den) : places num den ≤ 2 ^ 53 := by
  have hb := scaled_pos num (-lastPlace num den) hd
  have below : (num / den : ℚ) / 2 ^ lastPlace num den < 2 ^ 53 := by
    rw [div_lt_iff₀ (by positivity)]
    calc (num / den : ℚ) < 2 ^ (floorLog2 num den + 1) := by
          rw [floorLog2_eq_log hn hd]
          exact_mod_cast Int.lt_zpow_succ_log_self (b := 2) (by decide) (num / den : ℚ)
      _ ≤ 2 ^ ((53 : Int) + lastPlace num den) := by
          refine zpow_le_zpow_right₀ (by norm_num) ?_
          unfold lastPlace; omega
      _ = 2 ^ 53 * 2 ^ lastPlace num den := by rw [zpow_add₀ (by norm_num)]; norm_cast
  rw [← scaled_lastPlace, div_lt_iff₀ (by exact_mod_cast hb)] at below
  have := Nat.div_lt_of_lt_mul (k := 2 ^ 53) (n := (scaled num den (-lastPlace num den)).2)
    (m := (scaled num den (-lastPlace num den)).1) (by rw [Nat.mul_comm]; exact_mod_cast below)
  have := roundDiv_le (scaled num den (-lastPlace num den)).1 (scaled num den (-lastPlace num den)).2
  unfold places
  omega

/-- A ratio above the smallest unit has all its 53 binary places. -/
theorem le_places (hn : 0 < num) (hd : 0 < den) (h : minExponent < lastPlace num den) :
    2 ^ 52 ≤ places num den := by
  have hb := scaled_pos num (-lastPlace num den) hd
  have above : (2 : ℚ) ^ 52 ≤ num / den / 2 ^ lastPlace num den := by
    have place : lastPlace num den = floorLog2 num den - 52 := by unfold lastPlace at h ⊢; omega
    rw [le_div_iff₀ (by positivity)]
    calc (2 : ℚ) ^ 52 * 2 ^ lastPlace num den = 2 ^ floorLog2 num den := by
          rw [place, ← zpow_natCast, ← zpow_add₀ (by norm_num)]; congr 1; omega
      _ ≤ num / den := by
          rw [floorLog2_eq_log hn hd]
          exact_mod_cast Int.zpow_log_le_self (b := 2) (by decide)
            (show (0 : ℚ) < num / den by positivity)
  rw [← scaled_lastPlace, le_div_iff₀ (by exact_mod_cast hb)] at above
  refine le_trans ?_ (div_le_roundDiv _ _)
  rw [Nat.le_div_iff_mul_le hb]
  exact_mod_cast above

theorem places_mono (hd : 0 < den) (hd' : 0 < den') (h : (num / den : ℚ) ≤ num' / den')
    (same : lastPlace num den = lastPlace num' den') : places num den ≤ places num' den' := by
  have hb := scaled_pos num (-lastPlace num den) hd
  have hb' := scaled_pos num' (-lastPlace num' den') hd'
  refine roundDiv_mono hb hb' ?_
  have le : (num / den : ℚ) / 2 ^ lastPlace num den ≤ num' / den' / 2 ^ lastPlace num' den' := by
    rw [same]; gcongr
  rw [← scaled_lastPlace, ← scaled_lastPlace,
    div_le_div_iff₀ (by exact_mod_cast hb) (by exact_mod_cast hb')] at le
  exact_mod_cast le

/-- Where a ratio can be rounded, a smaller one can, and not to more. -/
theorem ofRatio?_mono (hd : 0 < den) (hd' : 0 < den') (h : (num / den : ℚ) ≤ num' / den')
    {y : Binary64} (eq : ofRatio? num' den' = some y) :
    ∃ x, ofRatio? num den = some x ∧ x.magnitude ≤ y.magnitude := by
  rcases Nat.eq_zero_or_pos num with rfl | hn
  · refine ⟨zero, ofRatio?_zero den, ?_⟩
    simp only [magnitude, zero, Nat.cast_zero, zero_mul]
    positivity
  have hn' : 0 < num' := by
    refine Nat.pos_of_ne_zero fun none => ?_
    have : (0 : ℚ) < num / den := by positivity
    rw [none, Nat.cast_zero, zero_div] at h
    linarith
  have place := lastPlace_mono hn hd hd' h
  have fits : lastPlace num' den' ≤ maxExponent
      ∧ (places num' den' = 2 ^ 53 → lastPlace num' den' + 1 ≤ maxExponent) := by
    rw [ofRatio?_eq den' hn'.ne'] at eq
    grind
  have full : places num den ≤ 2 ^ 53 := places_le hn hd
  have full' : places num' den' ≤ 2 ^ 53 := places_le hn' hd'
  obtain ⟨x, found⟩ : ∃ x, ofRatio? num den = some x := by
    rw [ofRatio?_eq den hn.ne']
    rcases Int.lt_or_eq_of_le place with lt | same
    · grind
    · have := places_mono hd hd' h same
      grind
  refine ⟨x, found, ?_⟩
  rw [magnitude_of_ofRatio? hn.ne' found, magnitude_of_ofRatio? hn'.ne' eq]
  rcases Int.lt_or_eq_of_le place with lt | same
  · have lower : 2 ^ 52 ≤ places num' den' := by
      refine le_places hn' hd' (lt_of_le_of_lt ?_ lt)
      exact le_max_right _ _
    calc (places num den : ℚ) * 2 ^ lastPlace num den
        ≤ 2 ^ 53 * 2 ^ lastPlace num den := by gcongr; exact_mod_cast full
      _ = 2 ^ 52 * 2 ^ (lastPlace num den + 1) := by rw [zpow_add₀ (by norm_num)]; ring
      _ ≤ 2 ^ 52 * 2 ^ lastPlace num' den' := by gcongr; norm_num; omega
      _ ≤ places num' den' * 2 ^ lastPlace num' den' := by gcongr; exact_mod_cast lower
  · rw [same]
    gcongr
    exact places_mono hd hd' h same

end Monotonicity

/-! ## Products -/

theorem ratio_eq (x : Binary64) : (x.ratio.1 : ℚ) / x.ratio.2 = x.magnitude := by
  unfold ratio magnitude
  rw [scaled_ratio, Nat.cast_one, div_one]

theorem ratio_pos (x : Binary64) : 0 < x.ratio.2 := scaled_pos _ _ Nat.one_pos

theorem magnitude_nonneg (x : Binary64) : 0 ≤ x.magnitude := by
  unfold magnitude; positivity

/-- The exact product, as the ratio that is rounded. -/
theorem mul_ratio (x y : Binary64) :
    ((x.ratio.1 * y.ratio.1 : Nat) : ℚ) / (x.ratio.2 * y.ratio.2 : Nat) = x.magnitude * y.magnitude := by
  rw [← ratio_eq, ← ratio_eq]
  push_cast
  ring

/-- A product does not overflow if it is at most a ratio that does not. -/
theorem mul?_isSome_of_le_ratio {x y : Binary64} {num den : Nat} (hd : 0 < den)
    (h : x.magnitude * y.magnitude ≤ num / den) (fits : (ofRatio? num den).isSome) :
    (x.mul? y).isSome := by
  obtain ⟨z, eq⟩ := Option.isSome_iff_exists.mp fits
  rw [← mul_ratio] at h
  obtain ⟨w, found, -⟩ := ofRatio?_mono (Nat.mul_pos x.ratio_pos y.ratio_pos) hd h eq
  exact Option.isSome_iff_exists.mpr ⟨w, found⟩

/-- Where a product does not overflow, none of smaller factors does. -/
theorem mul?_isSome_of_le {x y x' y' : Binary64} (hx : x.magnitude ≤ x'.magnitude)
    (hy : y.magnitude ≤ y'.magnitude) (h : (x'.mul? y').isSome) : (x.mul? y).isSome := by
  refine mul?_isSome_of_le_ratio (Nat.mul_pos x'.ratio_pos y'.ratio_pos) ?_ h
  rw [mul_ratio]
  exact mul_le_mul hx hy y.magnitude_nonneg x'.magnitude_nonneg

/-! ## Naturals -/

/-- Naturals are rounded in order, as far as the larger one can be rounded. -/
theorem magnitude_ofNat_mono {m n : Nat} (h : m ≤ n) (fits : (ofRatio? n 1).isSome) :
    (ofNat m).magnitude ≤ (ofNat n).magnitude := by
  obtain ⟨y, eq⟩ := Option.isSome_iff_exists.mp fits
  have le : ((m : ℚ) / (1 : Nat)) ≤ n / (1 : Nat) := by gcongr
  obtain ⟨x, found, le⟩ := ofRatio?_mono Nat.one_pos Nat.one_pos le eq
  simpa only [ofNat, found, eq, Option.getD_some] using le

/-- The last place of a natural number is worth at most a quarter of it. -/
theorem lastPlace_ofNat {n : Nat} (pos : 0 < n) : (2 : ℚ) ^ lastPlace n 1 ≤ n / 4 := by
  have whole : ((n : ℚ) / (1 : Nat)) = n := by rw [Nat.cast_one, div_one]
  have log : (2 : ℚ) ^ floorLog2 n 1 ≤ n := by
    have below := Int.zpow_log_le_self (b := 2) (by decide) (show (0 : ℚ) < n by exact_mod_cast pos)
    rw [floorLog2_eq_log pos Nat.one_pos, whole]
    exact_mod_cast below
  have low : (0 : Int) ≤ floorLog2 n 1 := by
    rw [floorLog2_eq_log pos Nat.one_pos, whole, Int.log_natCast]
    exact Int.natCast_nonneg _
  have small : lastPlace n 1 + 2 ≤ floorLog2 n 1 := by
    unfold lastPlace minExponent
    omega
  rw [le_div_iff₀ (by norm_num)]
  calc (2 : ℚ) ^ lastPlace n 1 * 4 = 2 ^ (lastPlace n 1 + 2) := by
        rw [zpow_add₀ (by norm_num)]; norm_num
    _ ≤ 2 ^ floorLog2 n 1 := zpow_le_zpow_right₀ (by norm_num) small
    _ ≤ n := log

/-- Rounding adds at most one place. -/
theorem places_le_add_one (num den : Nat) :
    (places num den : ℚ) ≤ num / den / 2 ^ lastPlace num den + 1 := by
  rw [← scaled_lastPlace]
  unfold places
  generalize scaled num den (-lastPlace num den) = ratio
  calc (roundDiv ratio.1 ratio.2 : ℚ) ≤ (ratio.1 / ratio.2 + 1 : Nat) := by
        exact_mod_cast roundDiv_le _ _
    _ ≤ ratio.1 / ratio.2 + 1 := by
        push_cast
        gcongr
        exact Nat.cast_div_le

/-- Rounding adds less than a quarter to a natural number; the true bound is far smaller. -/
theorem magnitude_ofNat_le (n : Nat) (fits : (ofRatio? n 1).isSome) :
    (ofNat n).magnitude ≤ 5 / 4 * n := by
  obtain ⟨x, eq⟩ := Option.isSome_iff_exists.mp fits
  rw [ofNat, eq, Option.getD_some]
  rcases Nat.eq_zero_or_pos n with rfl | pos
  · cases eq
    simp [magnitude, zero]
  have unit := lastPlace_ofNat pos
  have rounded := places_le_add_one n 1
  rw [Nat.cast_one, div_one] at rounded
  rw [magnitude_of_ofRatio? pos.ne' eq]
  have positive : (0 : ℚ) < 2 ^ lastPlace n 1 := by positivity
  generalize (2 : ℚ) ^ lastPlace n 1 = u at unit rounded positive ⊢
  calc (places n 1 : ℚ) * u ≤ (n / u + 1) * u := by gcongr
    _ = n + u := by rw [add_mul, one_mul, div_mul_cancel₀ _ positive.ne']
    _ ≤ 5 / 4 * n := by linarith

end Overseer.Binary64
