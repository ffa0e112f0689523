-- SUMMARY: Which texts are literals of which bounded integers.
import Mathlib.Tactic.SplitIfs
import Overseer.Number.Literal

/-!
# Literals

Reading a bounded literal stops at the first digit that leaves the bounds. Since more digits only lead
further away from zero, what is read is the integer that the whole text stands for, if that lies within
the bounds.
-/

namespace Overseer.Literal

variable {low high v : Int} {positive : Bool} {value : Nat} {ds cs : List Char} {c : Char} {text : String}

-- ---------------------------------------------------------------------------
-- Literals and what they stand for
-- ---------------------------------------------------------------------------

/-- One or more decimal digits. -/
def Digits (ds : List Char) : Prop := ds ≠ [] ∧ ∀ c ∈ ds, c.isDigit

/-- The characters are a literal of the integer: a sign, or none, in front of digits. -/
inductive Denotes : List Char → Int → Prop where
  | bare {ds : List Char} (digits : Digits ds) : Denotes ds (Nat.ofDigitChars 10 ds 0)
  | plus {ds : List Char} (digits : Digits ds) : Denotes ('+' :: ds) (Nat.ofDigitChars 10 ds 0)
  | minus {ds : List Char} (digits : Digits ds) : Denotes ('-' :: ds) (-(Nat.ofDigitChars 10 ds 0 : Nat))

theorem digits_toDigits (n : Nat) : Digits (Nat.toDigits 10 n) :=
  ⟨Nat.toDigits_ne_nil, fun _ mem => Nat.isDigit_of_mem_toDigits (by decide) (by decide) mem⟩

/-- The decimal form of an integer is a literal of it. -/
theorem denotes_toString (v : Int) : Denotes (toString v).toList v := by
  cases v with
  | ofNat n =>
    have bare := Denotes.bare (digits_toDigits n)
    rw [Nat.ofDigitChars_ten_toDigits] at bare
    change Denotes n.repr.toList n
    rwa [Nat.toList_repr]
  | negSucc n =>
    have minus := Denotes.minus (digits_toDigits (n + 1))
    rw [Nat.ofDigitChars_ten_toDigits] at minus
    change Denotes ("-" ++ (n + 1).repr).toList (-((n + 1 : Nat) : Int))
    rwa [String.toList_append, Nat.toList_repr]

-- ---------------------------------------------------------------------------
-- Reading
-- ---------------------------------------------------------------------------

/-- An integer with this sign and magnitude. -/
def withSign (positive : Bool) (n : Nat) : Int := if positive then n else -n

/-- What is too large stays too large with a greater magnitude. -/
theorem withSign_large {m n : Nat} (le : m ≤ n) (nonnegative : 0 ≤ high) (large : high < withSign positive m) :
    high < withSign positive n := by
  cases positive <;> simp only [withSign, Bool.false_eq_true, if_true, if_false] at large ⊢ <;> omega

theorem withSign_small {m n : Nat} (le : m ≤ n) (nonpositive : low ≤ 0) (small : withSign positive m < low) :
    withSign positive n < low := by
  cases positive <;> simp only [withSign, Bool.false_eq_true, if_true, if_false] at small ⊢ <;> omega

theorem le_ofDigitChars (ds : List Char) (value : Nat) : value ≤ Nat.ofDigitChars 10 ds value := by
  induction ds generalizing value with
  | nil => exact Nat.le_refl _
  | cons c ds ih =>
    rw [Nat.ofDigitChars_cons]
    exact Nat.le_trans (by omega) (ih _)

/-- One more digit. -/
theorem accumulate_digit (digit : c.isDigit) :
    accumulate low high positive (withSign positive value) (c :: ds)
      = if high < withSign positive (10 * value + (c.toNat - '0'.toNat)) then .error .tooLarge
        else if withSign positive (10 * value + (c.toNat - '0'.toNat)) < low then .error .tooSmall
        else accumulate low high positive (withSign positive (10 * value + (c.toNat - '0'.toNat))) ds := by
  have code : 48 ≤ c.toNat := by
    simp only [Char.isDigit, Bool.and_eq_true, decide_eq_true_eq] at digit
    exact UInt32.le_iff_toNat_le.mp digit.1
  have zero : '0'.toNat = 48 := rfl
  have next : (if positive then withSign positive value * 10 + (c.toNat - 48 : Int)
      else withSign positive value * 10 - (c.toNat - 48 : Int))
      = withSign positive (10 * value + (c.toNat - '0'.toNat)) := by
    cases positive <;> simp only [withSign, Bool.false_eq_true, if_true, if_false] <;> omega
  rw [← next, accumulate, if_pos digit]

theorem accumulate_eq_ok (bounds : low ≤ 0 ∧ 0 ≤ high)
    (inside : low ≤ withSign positive value ∧ withSign positive value ≤ high) :
    accumulate low high positive (withSign positive value) ds = .ok v ↔
      (∀ c ∈ ds, c.isDigit) ∧ v = withSign positive (Nat.ofDigitChars 10 ds value) ∧
        low ≤ v ∧ v ≤ high := by
  induction ds generalizing value with
  | nil =>
    constructor
    · rintro ⟨⟩
      exact ⟨nofun, rfl, inside⟩
    · rintro ⟨-, rfl, -⟩
      rfl
  | cons c ds ih =>
    by_cases digit : c.isDigit
    · have further := le_ofDigitChars ds (10 * value + (c.toNat - '0'.toNat))
      rw [accumulate_digit digit, Nat.ofDigitChars_cons, List.forall_mem_cons]
      -- Behind a digit that leaves the bounds, no other leads back.
      split_ifs with large small
      · refine ⟨nofun, ?_⟩
        rintro ⟨-, rfl, -, below⟩
        exact absurd below (Int.not_le.mpr (withSign_large further bounds.2 large))
      · refine ⟨nofun, ?_⟩
        rintro ⟨-, rfl, above, -⟩
        exact absurd above (Int.not_le.mpr (withSign_small further bounds.1 small))
      · rw [ih ⟨Int.not_lt.mp small, Int.not_lt.mp large⟩]
        simp only [digit, true_and]
    · rw [accumulate, if_neg digit]
      refine ⟨nofun, ?_⟩
      rintro ⟨digits, -⟩
      exact absurd (digits c List.mem_cons_self) digit

/-- The digits behind a sign. -/
theorem magnitude_eq_ok (bounds : low ≤ 0 ∧ 0 ≤ high) :
    (if ds.isEmpty then .error .invalidDigit else accumulate low high positive 0 ds) = .ok v ↔
      Digits ds ∧ v = withSign positive (Nat.ofDigitChars 10 ds 0) ∧ low ≤ v ∧ v ≤ high := by
  cases ds with
  | nil => exact ⟨nofun, fun h => absurd rfl h.1.1⟩
  | cons c ds =>
    have zero : withSign positive 0 = 0 := by cases positive <;> rfl
    have read := @accumulate_eq_ok low high v positive 0 (c :: ds) bounds (by rwa [zero])
    rw [zero] at read
    have some : Digits (c :: ds) ↔ ∀ d ∈ c :: ds, d.isDigit := and_iff_right nofun
    rw [some]
    exact read

theorem denotes_minus : Denotes ('-' :: ds) v ↔ Digits ds ∧ v = withSign false (Nat.ofDigitChars 10 ds 0) := by
  constructor
  · rintro (⟨⟨-, digits⟩⟩ | - | digits)
    · exact absurd (digits '-' List.mem_cons_self) (by decide)
    · exact ⟨digits, rfl⟩
  · rintro ⟨digits, rfl⟩
    exact .minus digits

theorem denotes_plus : Denotes ('+' :: ds) v ↔ Digits ds ∧ v = withSign true (Nat.ofDigitChars 10 ds 0) := by
  constructor
  · rintro (⟨⟨-, digits⟩⟩ | digits | -)
    · exact absurd (digits '+' List.mem_cons_self) (by decide)
    · exact ⟨digits, rfl⟩
  · rintro ⟨digits, rfl⟩
    exact .plus digits

theorem denotes_bare (minus : cs.head? ≠ some '-') (plus : cs.head? ≠ some '+') :
    Denotes cs v ↔ Digits cs ∧ v = withSign true (Nat.ofDigitChars 10 cs 0) := by
  constructor
  · rintro (digits | - | -)
    · exact ⟨digits, rfl⟩
    · exact absurd rfl plus
    · exact absurd rfl minus
  · rintro ⟨digits, rfl⟩
    exact .bare digits

/-- The sign and the digits of a literal. -/
theorem denotes_sign :
    Denotes cs v ↔ Digits (sign cs).2 ∧ v = withSign (sign cs).1 (Nat.ofDigitChars 10 (sign cs).2 0) := by
  unfold sign
  split
  · exact denotes_minus
  · exact denotes_plus
  · rename_i minus plus
    apply denotes_bare
    · intro head
      obtain ⟨rest, rfl⟩ := List.head?_eq_some_iff.mp head
      exact minus rest rfl
    · intro head
      obtain ⟨rest, rfl⟩ := List.head?_eq_some_iff.mp head
      exact plus rest rfl

/-- A literal stands for one integer. -/
theorem Denotes.unique {u : Int} (first : Denotes cs u) (second : Denotes cs v) : u = v :=
  (denotes_sign.mp first).2.trans (denotes_sign.mp second).2.symm

theorem not_denotes_nil : ¬ Denotes [] v := by
  rintro (⟨⟨some, -⟩⟩ | - | -)
  exact some rfl

/-- What is read where negative integers are admitted: exactly the literals of integers within the
    bounds. -/
theorem bounded_eq_ok (negative : low < 0) (nonnegative : 0 ≤ high) :
    bounded low high text = .ok v ↔ Denotes text.toList v ∧ low ≤ v ∧ v ≤ high := by
  rw [denotes_sign, and_assoc, ← magnitude_eq_ok ⟨Int.le_of_lt negative, nonnegative⟩]
  cases chars : text.toList with
  | nil => simp [bounded, chars, sign]
  | cons c cs => simp [bounded, chars, negative]

/-- The text is a literal of an integer of 32 bits. -/
structure Int32 (text : String) (v : Int) : Prop where
  denotes : Denotes text.toList v
  least : Width.signedMin 32 ≤ v
  greatest : v ≤ Width.signedMax 32

theorem int32?_eq_some : int32? text = some v ↔ Int32 text v := by
  have read : Int32 text v ↔ bounded (Width.signedMin 32) (Width.signedMax 32) text = .ok v := by
    rw [bounded_eq_ok (by decide) (by decide)]
    exact ⟨fun h => ⟨h.denotes, h.least, h.greatest⟩, fun h => ⟨h.1, h.2.1, h.2.2⟩⟩
  rw [read, int32?]
  cases bounded (Width.signedMin 32) (Width.signedMax 32) text with
  | error why => exact ⟨nofun, nofun⟩
  | ok n => exact Option.some_inj.trans (Except.ok.injEq n v ▸ Iff.rfl)

end Overseer.Literal
