-- SUMMARY: The printed digits of a natural number are read back as that number.
import Overseer.Json.Printer
import Overseer.Proofs.Json.Exact
import Overseer.Proofs.Json.Locality.Numeral
import Overseer.Proofs.Text.Utf8

/-!
# Printed numbers

A natural number is printed digit by digit, and what is printed of it before the last digit is a number
again. A number does not show where it ends, so it is read back in front of what ends it.
-/

namespace Overseer.Json.Numeral

variable {s u more : Bytes} {b : UInt8} {n d limit : Nat}

-- ---------------------------------------------------------------------------
-- Decimal digits
-- ---------------------------------------------------------------------------

/-- The octet of a digit. -/
def digitOctet (d : Nat) : UInt8 := UInt8.ofNat (0x30 + d)

theorem toNat_digitOctet (h : d < 10) : (digitOctet d).toNat = 0x30 + d :=
  Utf8.toNat_ofNat_of_lt (by omega)

theorem isDigit_digitOctet (h : d < 10) : isDigit (digitOctet d) := by
  have octet := toNat_digitOctet h
  simp only [isDigit, Bool.and_eq_true, decide_eq_true_eq, UInt8.le_iff_toNat_le, octet]
  exact ⟨Nat.le_add_right _ _, Nat.add_le_add_left (Nat.le_of_lt_succ h) _⟩

theorem digit_digitOctet (h : d < 10) : digit (digitOctet d) = d := by
  simp [digit, toNat_digitOctet h]

/-- The decimal digits of a number, without leading zeros. -/
inductive Decimal : Nat → Bytes → Prop where
  | digit {d : Nat} (small : d < 10) : Decimal d [digitOctet d]
  | more {n d : Nat} {s : Bytes} (front : Decimal n s) (positive : 0 < n) (small : d < 10) :
      Decimal (n * 10 + d) (s ++ [digitOctet d])

theorem Decimal.isDigit (h : Decimal n s) : ∀ b ∈ s, isDigit b := by
  induction h with
  | digit small => simpa using isDigit_digitOctet small
  | more _ _ small ih =>
    intro b mem
    rcases List.mem_append.mp mem with front | last
    · exact ih b front
    · exact List.mem_singleton.mp last ▸ isDigit_digitOctet small

theorem Decimal.gather (h : Decimal n s) (fits : n ≤ limit) : gather limit 0 s = (n, []) := by
  induction h with
  | digit small => simp [Numeral.gather, digit_digitOctet small, Nat.not_lt.mpr fits]
  | more _ _ small ih =>
    rw [gather_append, ih (by omega)]
    simp [Numeral.gather, digit_digitOctet small, Nat.not_lt.mpr fits]

/-- Only zero starts with a zero. -/
theorem Decimal.leading (h : Decimal n s) :
    n = 0 ∧ s = [0x30] ∨ ∃ b t, s = b :: t ∧ b ≠ 0x30 := by
  induction h with
  | @digit d small =>
    rcases Nat.eq_zero_or_pos d with rfl | positive
    · exact .inl ⟨rfl, rfl⟩
    · refine .inr ⟨_, _, rfl, fun zero => ?_⟩
      have octet := toNat_digitOctet small
      rw [zero] at octet
      have : (0x30 : UInt8).toNat = 0x30 := rfl
      omega
  | more _ positive _ ih =>
    rcases ih with ⟨rfl, -⟩ | ⟨b, t, rfl, nonzero⟩
    · exact absurd positive (Nat.lt_irrefl 0)
    · exact .inr ⟨b, _, rfl, nonzero⟩

/-- What is there of the digits before the last is a smaller number. -/
theorem Decimal.of_prefix (h : Decimal n s) (part : u <+: s) (nonempty : u ≠ []) :
    ∃ m ≤ n, Decimal m u := by
  induction h with
  | @digit d small =>
    rcases List.prefix_concat_iff.mp (List.nil_append [digitOctet d] ▸ part) with whole | empty
    · rw [whole]
      exact ⟨d, le_rfl, .digit small⟩
    · exact absurd (List.prefix_nil.mp empty) nonempty
  | @more n d s front positive small ih =>
    rcases List.prefix_concat_iff.mp part with rfl | inner
    · exact ⟨_, le_rfl, front.more positive small⟩
    · obtain ⟨m, below, decimal⟩ := ih inner
      exact ⟨m, by omega, decimal⟩

theorem encode_digit : ∀ d < 10, Utf8.encode [Nat.digitChar d] = [digitOctet d] := by
  decide

theorem decimal_toDigits (n : Nat) : Decimal n (Utf8.encode (Nat.toDigits 10 n)) := by
  induction n using Nat.strongRecOn with
  | ind n ih =>
    by_cases small : n < 10
    · rw [Nat.toDigits_of_lt_base small, encode_digit n small]
      exact .digit small
    · have last : n % 10 < 10 := Nat.mod_lt n (by decide)
      have front := ih (n / 10) (by omega)
      rw [Nat.toDigits_of_base_le (by decide) (Nat.not_lt.mp small), Utf8.encode_append,
        encode_digit _ last]
      have split : n / 10 * 10 + n % 10 = n := Nat.div_add_mod' n 10
      have grown := front.more (by omega) last
      rwa [split] at grown

-- ---------------------------------------------------------------------------
-- Numbers
-- ---------------------------------------------------------------------------

/-- What may stand behind a value: nothing, white space, a comma, or what closes a list or an object. -/
def Ends (more : Bytes) : Prop := ∀ b ∈ more.head?, isBlank b ∨ b = 0x2C ∨ b = 0x5D ∨ b = 0x7D

theorem blank_cases (h : isBlank b) : b = 0x20 ∨ b = 0x09 ∨ b = 0x0A ∨ b = 0x0D := by
  simpa only [isBlank, Bool.or_eq_true, decide_eq_true_eq, or_assoc] using h

theorem Ends.cases (h : Ends (b :: more)) :
    b = 0x20 ∨ b = 0x09 ∨ b = 0x0A ∨ b = 0x0D ∨ b = 0x2C ∨ b = 0x5D ∨ b = 0x7D := by
  rcases h b rfl with blank | rest
  · rcases blank_cases blank with rfl | rfl | rfl | rfl <;> decide
  · exact .inr (.inr (.inr (.inr rest)))

theorem Ends.notDigit (h : Ends more) : ∀ b ∈ more.head?, ¬ isDigit b := by
  intro b mem
  obtain ⟨t, rfl⟩ := List.head?_eq_some_iff.mp mem
  rcases h.cases with rfl | rfl | rfl | rfl | rfl | rfl | rfl <;> decide

theorem Ends.digits (h : Ends more) (all : ∀ b ∈ s, isDigit b) : digits (s ++ more) = (s, more) := by
  have none : Numeral.digits more = ([], more) := by
    cases more with
    | nil => rfl
    | cons b more =>
      have stop : ¬ isDigit b := h.notDigit b rfl
      simp [Numeral.digits, stop]
  rw [digits_append all, none, List.append_nil]

theorem Ends.continued (h : Ends more) (negative : Bool) (n : Nat) :
    continued negative n 0 more = .ok (whole negative n, more) := by
  cases more with
  | nil => rfl
  | cons b more =>
    rcases h.cases with rfl | rfl | rfl | rfl | rfl | rfl | rfl <;> rfl

/-- The digits of a number, behind its sign. -/
theorem Decimal.unsigned (h : Decimal n s) (fits : n ≤ maxSignificand) (ends : Ends more) (negative : Bool) :
    unsigned negative (s ++ more) = .ok (whole negative n, more) := by
  have digits := ends.digits h.isDigit
  have gathered := h.gather fits
  rcases h.leading with ⟨rfl, rfl⟩ | ⟨b, t, rfl, nonzero⟩
  · rw [List.singleton_append, unsigned_zero ends.notDigit]
    exact ends.continued negative 0
  · have digit : Numeral.isDigit b := h.isDigit b (by simp)
    rw [List.cons_append] at digits ⊢
    rw [unsigned_digits nonzero digit, digits, gathered]
    exact ends.continued negative n

theorem Decimal.read (h : Decimal n s) (fits : n ≤ maxSignificand) (ends : Ends more) :
    read (s ++ more) = .ok (.integer n, more) := by
  have unsigned := h.unsigned fits ends false
  have digits := h.isDigit
  rcases h.leading with ⟨rfl, rfl⟩ | ⟨b, t, rfl, -⟩
  · exact unsigned
  · have sign : b ≠ 0x2D := by
      rintro rfl
      exact absurd (digits _ List.mem_cons_self) (by decide)
    rw [List.cons_append] at unsigned ⊢
    rw [Numeral.read, if_neg sign, unsigned]
    rfl

theorem Decimal.read_negative (h : Decimal n s) (positive : 0 < n) (fits : n ≤ Width.count 63) (ends : Ends more) :
    Numeral.read (0x2D :: (s ++ more)) = .ok (.integer (-n), more) := by
  have room : Width.count 63 ≤ maxSignificand := by decide
  rw [Numeral.read, if_pos rfl, h.unsigned (fits.trans room) ends true, whole, if_pos rfl, if_pos ⟨positive, fits⟩]

/-- The digits of a number that lack the last are no number yet or another one. -/
theorem Decimal.read_cut (h : Decimal n s) (fits : n ≤ maxSignificand) (cut : Cut u s) :
    AsksForMore (Numeral.read u) ∨ ∃ m, Numeral.read u = .ok (m, []) := by
  by_cases nonempty : u = []
  · subst nonempty
    exact .inl ⟨_, rfl, rfl⟩
  · obtain ⟨m, below, decimal⟩ := h.of_prefix cut.1 nonempty
    have read : Numeral.read (u ++ []) = .ok (.integer m, []) := decimal.read (below.trans fits) nofun
    rw [List.append_nil] at read
    exact .inr ⟨_, read⟩

theorem text_integer (n : Nat) : (Number.integer n).text.toList = Nat.toDigits 10 n := by
  have text : (Number.integer n).text = n.repr := rfl
  rw [text, Nat.repr_eq_ofList_toDigits, String.toList_ofList]

theorem text_negative (n : Nat) : (Number.integer (-(n + 1 : Nat))).text.toList = '-' :: Nat.toDigits 10 (n + 1) := by
  have text : (Number.integer (-(n + 1 : Nat))).text = "-" ++ (n + 1).repr := rfl
  rw [text, Nat.repr_eq_ofList_toDigits, String.toList_append]
  simp

end Overseer.Json.Numeral
