-- SUMMARY: Reading JSON number literals.
import Overseer.Json.Text

/-!
# Numerals

A literal without fraction and exponent is an integer if it fits 64 bits. Any other literal is a
binary64 number: as many digits as fit an unsigned 64-bit significand, rounded, and then scaled by a
power of ten in rounded steps. A literal beyond the largest binary64 number is refused.
-/

namespace Overseer.Json.Numeral

/-- The largest significand. -/
def maxSignificand : Nat := Width.unsignedMax 64

/-- The largest exponent that is read as written; the digits of a larger one only decide between zero
    and too large. -/
def maxExponent : Nat := (Width.signedMax 32).toNat

def isDigit (b : UInt8) : Bool := 0x30 ≤ b && b ≤ 0x39

def digit (b : UInt8) : Nat := b.toNat - 0x30

def isExponentMark (b : UInt8) : Bool := b = 0x65 || b = 0x45

/-- Appends digits to `value` until one would take it beyond `limit`: the value, and the digits from
    that one on. -/
def gather (limit value : Nat) : Bytes → Nat × Bytes
  | [] => (value, [])
  | d :: digits =>
    let next := value * 10 + digit d
    if limit < next then (value, d :: digits) else gather limit next digits

/-- The digits at the front, and what follows them. -/
def digits (s : Bytes) : Bytes × Bytes := (s.takeWhile isDigit, s.dropWhile isDigit)

/-! ## Binary64 values -/

/-- `x / 10 ^ k`, rounded at steps of `10 ^ 308`. -/
def shrink (x : Binary64) (k : Nat) : Binary64 :=
  if k ≤ 308 then (x.div? (.powerOfTen k)).getD .zero
  else if x.isZero then .zero
  else shrink ((x.div? (.powerOfTen 308)).getD .zero) (k - 308)
termination_by k
decreasing_by omega

/-- `significand * 10 ^ exponent`, unless that is too large. -/
def scale? (significand : Nat) (exponent : Int) : Option Binary64 :=
  let x := Binary64.ofNat significand
  if exponent < 0 then some (shrink x exponent.natAbs)
  else if exponent ≤ 308 then x.mul? (.powerOfTen exponent.toNat)
  else if x.isZero then some .zero
  else none

/-- The number in front of `rest`. -/
def scaled (significand : Nat) (exponent : Int) (rest : Bytes) : Answer Binary64 :=
  match scale? significand exponent with
  | some x => .ok (x, rest)
  | none => .error (.behind .numberOutOfRange rest)

/-! ## Exponent and fraction -/

/-- A sign of an exponent, positive if there is none. -/
def sign : Bytes → Bool × Bytes
  | b :: s => if b = 0x2B then (true, s) else if b = 0x2D then (false, s) else (true, b :: s)
  | [] => (true, [])

/-- The magnitude of a number from behind its exponent mark; `exponent` is what the places of the
    digits contribute. -/
def exponentPart (significand : Nat) (exponent : Int) (s : Bytes) : Answer Binary64 :=
  let (positive, s) := sign s
  match s with
  | [] => .error (.behind (.ended .value) [])
  | b :: s =>
    if isDigit b then
      let (written, rest) := digits (b :: s)
      let (power, excess) := gather maxExponent 0 written
      match excess with
      | [] => scaled significand (if positive then exponent + power else exponent - power) rest
      | _ :: more =>
        if significand ≠ 0 ∧ positive then .error (.behind .numberOutOfRange (more ++ rest))
        else .ok (.zero, rest)
    else .error (.behind .invalidNumber s)

/-- The magnitude of a number whose digits are read, from behind them. -/
def tail (significand : Nat) (exponent : Int) (s : Bytes) : Answer Binary64 :=
  match s with
  | b :: rest =>
    if isExponentMark b then exponentPart significand exponent rest
    else scaled significand exponent s
  | [] => scaled significand exponent s

/-- The magnitude of a number from behind its point. -/
def fractionPart (significand : Nat) (exponent : Int) (s : Bytes) : Answer Binary64 :=
  let (written, rest) := digits s
  match written, rest with
  | [], [] => .error (.peeked (.ended .value) [])
  | [], _ :: _ => .error (.peeked .invalidNumber rest)
  | _ :: _, _ =>
    let (significand, excess) := gather maxSignificand significand written
    tail significand (exponent - (written.length - excess.length : Nat)) rest

/-! ## Numbers -/

/-- The number with this sign and magnitude. -/
def signed (negative : Bool) (magnitude : Binary64) : Number :=
  .real (if negative then magnitude.neg else magnitude)

/-- An integer literal. Minus zero and what is below the signed range are not integers. -/
def whole (negative : Bool) (n : Nat) : Number :=
  if negative then
    if 0 < n ∧ n ≤ Width.count 63 then .integer (-n) else .real (Binary64.ofNat n).neg
  else .integer n

/-- A number from behind its integer digits, of which the last `excess` are not in the
    significand. -/
def continued (negative : Bool) (significand excess : Nat) (s : Bytes) : Answer Number :=
  match s with
  | b :: rest =>
    if b = 0x2E then (fractionPart significand excess rest).map (signed negative)
    else if isExponentMark b then (exponentPart significand excess rest).map (signed negative)
    else if excess = 0 then .ok (whole negative significand, s)
    else (scaled significand excess s).map (signed negative)
  | [] =>
    if excess = 0 then .ok (whole negative significand, s)
    else (scaled significand excess s).map (signed negative)

/-- A number from behind its sign. -/
def unsigned (negative : Bool) : Bytes → Answer Number
  | [] => .error (.behind (.ended .value) [])
  | b :: s =>
    if b = 0x30 then
      match s with
      | d :: _ =>
        if isDigit d then .error (.peeked .invalidNumber s) else continued negative 0 0 s
      | [] => continued negative 0 0 s
    else if isDigit b then
      let (written, rest) := digits (b :: s)
      let (significand, excess) := gather maxSignificand 0 written
      continued negative significand excess.length rest
    else .error (.behind .invalidNumber s)

/-- A number, which starts with a minus sign or a digit. -/
def read : Bytes → Answer Number
  | [] => .error (.behind (.ended .value) [])
  | b :: s => if b = 0x2D then unsigned true s else unsigned false (b :: s)

theorem digits_length (s : Bytes) : (digits s).2.length ≤ s.length :=
  (List.dropWhile_sublist isDigit).length_le

theorem digits_length_cons {b : UInt8} {s : Bytes} (h : isDigit b) :
    (digits (b :: s)).2.length ≤ s.length := by
  simp only [digits, List.dropWhile_cons_of_pos h]
  exact (List.dropWhile_sublist isDigit).length_le

theorem scaled_rest {significand : Nat} {exponent : Int} {s rest : Bytes} {x : Binary64}
    (h : scaled significand exponent s = .ok (x, rest)) : rest = s := by
  unfold scaled at h
  split at h
  · cases h; rfl
  · cases h

theorem sign_length (s : Bytes) : (sign s).2.length ≤ s.length := by
  unfold sign
  split
  · split
    · simp
    · split <;> simp
  · simp

theorem exponentPart_length {significand : Nat} {exponent : Int} {s rest : Bytes} {x : Binary64}
    (h : exponentPart significand exponent s = .ok (x, rest)) : rest.length < s.length := by
  have short := sign_length s
  unfold exponentPart at h
  simp only at h
  split at h
  · cases h
  rename_i b t eq
  rw [eq, List.length_cons] at short
  split at h
  · rename_i isDigit
    have := digits_length_cons (s := t) isDigit
    split at h
    · have := scaled_rest h
      subst this; omega
    · split at h
      · cases h
      · obtain ⟨_, rfl⟩ := Prod.mk.inj (Except.ok.inj h)
        omega
  · cases h

theorem tail_length {significand : Nat} {exponent : Int} {s rest : Bytes} {x : Binary64}
    (h : tail significand exponent s = .ok (x, rest)) : rest.length ≤ s.length := by
  unfold tail at h
  split at h
  · split at h
    · have := exponentPart_length h
      simp only [List.length_cons]; omega
    · exact Nat.le_of_eq (congrArg List.length (scaled_rest h))
  · exact Nat.le_of_eq (congrArg List.length (scaled_rest h))

theorem fractionPart_length {significand : Nat} {exponent : Int} {s rest : Bytes} {x : Binary64}
    (h : fractionPart significand exponent s = .ok (x, rest)) : rest.length ≤ s.length := by
  unfold fractionPart at h
  simp only at h
  split at h
  · cases h
  · cases h
  · have := tail_length h
    have := digits_length s
    omega

theorem continued_length {negative : Bool} {significand excess : Nat} {s rest : Bytes} {n : Number}
    (h : continued negative significand excess s = .ok (n, rest)) : rest.length ≤ s.length := by
  unfold continued at h
  split at h
  · split at h
    · obtain ⟨_, h, _⟩ := Answer.map_ok h
      have := fractionPart_length h
      simp only [List.length_cons]; omega
    split at h
    · obtain ⟨_, h, _⟩ := Answer.map_ok h
      have := exponentPart_length h
      simp only [List.length_cons]; omega
    split at h
    · cases h; exact Nat.le_refl _
    · obtain ⟨_, h, _⟩ := Answer.map_ok h
      exact Nat.le_of_eq (congrArg List.length (scaled_rest h))
  · split at h
    · cases h; exact Nat.le_refl _
    · obtain ⟨_, h, _⟩ := Answer.map_ok h
      exact Nat.le_of_eq (congrArg List.length (scaled_rest h))

theorem unsigned_length {negative : Bool} {s rest : Bytes} {n : Number}
    (h : unsigned negative s = .ok (n, rest)) : rest.length < s.length := by
  unfold unsigned at h
  split at h
  · cases h
  split at h
  · split at h
    · split at h
      · cases h
      · have := continued_length h
        simp only [List.length_cons] at this ⊢; omega
    · have := continued_length h
      simp only [List.length_cons]; omega
  split at h
  · rename_i d t _ isDigit
    have : rest.length ≤ (digits (d :: t)).2.length := continued_length h
    have := digits_length_cons (s := t) isDigit
    simp only [List.length_cons]; omega
  · cases h

theorem read_length {s rest : Bytes} {n : Number} (h : read s = .ok (n, rest)) :
    rest.length < s.length := by
  unfold read at h
  split at h
  · cases h
  split at h
  · have := unsigned_length h
    simp only [List.length_cons]; omega
  · exact unsigned_length h

/-! ## Passing over a number -/

/-- Passes over an exponent, from behind its mark. -/
def passExponent (s : Bytes) : Except Fault Bytes :=
  match (sign s).2 with
  | [] => .error (.behind .invalidNumber [])
  | b :: s => if isDigit b then .ok (digits s).2 else .error (.behind .invalidNumber s)

/-- Passes over what may follow the digits of a number, with or without a fraction. -/
def passTail (s : Bytes) : Except Fault Bytes :=
  match s with
  | b :: rest => if isExponentMark b then passExponent rest else .ok s
  | [] => .ok s

/-- Passes over what may follow the integer digits of a number. -/
def passContinued (s : Bytes) : Except Fault Bytes :=
  match s with
  | b :: rest =>
    if b = 0x2E then
      let (written, after) := digits rest
      if written.isEmpty then .error (.peeked .invalidNumber after) else passTail after
    else passTail s
  | [] => .ok s

/-- Passes over a number from behind its sign. Its size does not matter. -/
def passUnsigned : Bytes → Except Fault Bytes
  | [] => .error (.behind .invalidNumber [])
  | b :: s =>
    if b = 0x30 then
      match s with
      | d :: _ => if isDigit d then .error (.peeked .invalidNumber s) else passContinued s
      | [] => .ok []
    else if isDigit b then passContinued (digits s).2
    else .error (.behind .invalidNumber s)

/-- Passes over a number, which starts with a minus sign or a digit. -/
def pass : Bytes → Except Fault Bytes
  | [] => .error (.behind .invalidNumber [])
  | b :: s => if b = 0x2D then passUnsigned s else passUnsigned (b :: s)

theorem passExponent_length {s rest : Bytes} (h : passExponent s = .ok rest) :
    rest.length < s.length := by
  have short := sign_length s
  unfold passExponent at h
  split at h
  · cases h
  rename_i b t eq
  rw [eq, List.length_cons] at short
  split at h
  · have := digits_length t
    cases h; omega
  · cases h

theorem passTail_length {s rest : Bytes} (h : passTail s = .ok rest) :
    rest.length ≤ s.length := by
  unfold passTail at h
  split at h
  · split at h
    · have := passExponent_length h
      simp only [List.length_cons]; omega
    · cases h; exact Nat.le_refl _
  · cases h; exact Nat.le_refl _

theorem passContinued_length {s rest : Bytes} (h : passContinued s = .ok rest) :
    rest.length ≤ s.length := by
  unfold passContinued at h
  split at h
  · split at h
    · rename_i t _
      simp only at h
      split at h
      · cases h
      · have := passTail_length h
        have := digits_length t
        simp only [List.length_cons]; omega
    · exact passTail_length h
  · cases h; exact Nat.le_refl _

theorem passUnsigned_length {s rest : Bytes} (h : passUnsigned s = .ok rest) :
    rest.length < s.length := by
  unfold passUnsigned at h
  split at h
  · cases h
  split at h
  · split at h
    · split at h
      · cases h
      · have := passContinued_length h
        simp only [List.length_cons] at this ⊢; omega
    · cases h; simp
  split at h
  · rename_i b t _ _
    have := passContinued_length h
    have := digits_length t
    simp only [List.length_cons]; omega
  · cases h

theorem pass_length {s rest : Bytes} (h : pass s = .ok rest) : rest.length < s.length := by
  unfold pass at h
  split at h
  · cases h
  split at h
  · have := passUnsigned_length h
    simp only [List.length_cons]; omega
  · exact passUnsigned_length h

end Overseer.Json.Numeral
