-- SUMMARY: What is encoded in UTF-8 is decoded to what it was.
import Mathlib.Data.List.Basic
import Overseer.Text.Utf8

/-!
# Decoding what was encoded

The octet machine goes from one boundary to the next over the octets of each character and finds that
character. An octet below 128 is a character of its own.
-/

namespace Overseer.Utf8

variable {found : List Piece} {b : UInt8} {bs : Bytes} {c : Char} {low high : UInt8} {n bits : Nat}

-- ---------------------------------------------------------------------------
-- Single octets
-- ---------------------------------------------------------------------------

theorem piecesFrom_cons (found : List Piece) (p : Progress) (b : UInt8) (bs : Bytes) :
    piecesFrom found p (b :: bs)
      = piecesFrom ((advance p b).1.reverse ++ found) (advance p b).2 bs := rfl

theorem start_single (h : b.toNat < 0x80) : start b = ([some (Char.ofNat b.toNat)], .boundary) := by
  have : b < 0x80 := UInt8.lt_iff_toNat_lt.mpr h
  simp [start, this]

/-- The bounds on the second octet behind this one, and how many more octets follow that. -/
theorem start_pair (low : 0xC2 ≤ b.toNat) (high : b.toNat < 0xE0) :
    start b = ([], .inside 0 0x80 0xBF (b.toNat - 0xC0)) := by
  have one : ¬ b < 0x80 := by simp [UInt8.lt_iff_toNat_lt]; omega
  have two : ¬ b < 0xC2 := by simp [UInt8.lt_iff_toNat_lt]; omega
  have three : b < 0xE0 := by simp [UInt8.lt_iff_toNat_lt]; omega
  simp [start, one, two, three]

theorem start_triple (low : 0xE1 ≤ b.toNat) (high : b.toNat < 0xF0) (other : b.toNat ≠ 0xED) :
    start b = ([], .inside 1 0x80 0xBF (b.toNat - 0xE0)) := by
  have one : ¬ b < 0x80 := by simp [UInt8.lt_iff_toNat_lt]; omega
  have two : ¬ b < 0xC2 := by simp [UInt8.lt_iff_toNat_lt]; omega
  have three : ¬ b < 0xE0 := by simp [UInt8.lt_iff_toNat_lt]; omega
  have four : b ≠ 0xE0 := by rintro rfl; simp at low
  have five : b ≠ 0xED := by rintro rfl; simp at other
  have six : b < 0xF0 := by simp [UInt8.lt_iff_toNat_lt]; omega
  simp [start, one, two, three, four, five, six]

theorem start_quadruple (low : 0xF1 ≤ b.toNat) (high : b.toNat < 0xF4) :
    start b = ([], .inside 2 0x80 0xBF (b.toNat - 0xF0)) := by
  have one : ¬ b < 0x80 := by simp [UInt8.lt_iff_toNat_lt]; omega
  have two : ¬ b < 0xC2 := by simp [UInt8.lt_iff_toNat_lt]; omega
  have three : ¬ b < 0xE0 := by simp [UInt8.lt_iff_toNat_lt]; omega
  have four : b ≠ 0xE0 := by rintro rfl; simp at low
  have five : b ≠ 0xED := by rintro rfl; simp at low
  have six : ¬ b < 0xF0 := by simp [UInt8.lt_iff_toNat_lt]; omega
  have seven : b ≠ 0xF0 := by rintro rfl; simp at low
  have eight : b < 0xF4 := by simp [UInt8.lt_iff_toNat_lt]; omega
  simp [start, one, two, three, four, five, six, seven, eight]

/-- The last octet of a character. -/
theorem advance_last (lower : low.toNat ≤ b.toNat) (upper : b.toNat ≤ high.toNat) :
    advance (.inside 0 low high bits) b
      = ([some (Char.ofNat (bits * 64 + (b.toNat - 0x80)))], .boundary) := by
  have within : low ≤ b ∧ b ≤ high := ⟨UInt8.le_iff_toNat_le.mpr lower, UInt8.le_iff_toNat_le.mpr upper⟩
  simp [advance, within]

/-- An octet in the middle of a character. -/
theorem advance_middle (lower : low.toNat ≤ b.toNat) (upper : b.toNat ≤ high.toNat) :
    advance (.inside (n + 1) low high bits) b
      = ([], .inside n 0x80 0xBF (bits * 64 + (b.toNat - 0x80))) := by
  have within : low ≤ b ∧ b ≤ high := ⟨UInt8.le_iff_toNat_le.mpr lower, UInt8.le_iff_toNat_le.mpr upper⟩
  simp [advance, within]

-- ---------------------------------------------------------------------------
-- Characters
-- ---------------------------------------------------------------------------

theorem toNat_ofNat_of_lt (h : n < 256) : (UInt8.ofNat n).toNat = n := by
  simp [Nat.mod_eq_of_lt h]

/-- The code points of characters: no surrogates, and none above the last plane. -/
theorem toNat_valid (c : Char) : c.toNat < 0xD800 ∨ 0xDFFF < c.toNat ∧ c.toNat < 0x110000 := c.valid

theorem piecesFrom_pair (low : 0x80 ≤ c.toNat) (high : c.toNat ≤ 0x7FF) :
    piecesFrom found .boundary
        (UInt8.ofNat (c.toNat / 64 % 32 + 192) :: UInt8.ofNat (c.toNat % 64 + 128) :: bs)
      = piecesFrom (some c :: found) .boundary bs := by
  have first := toNat_ofNat_of_lt (n := c.toNat / 64 % 32 + 192) (by omega)
  have second := toNat_ofNat_of_lt (n := c.toNat % 64 + 128) (by omega)
  have code : (c.toNat / 64 % 32 + 192 - 0xC0) * 64 + (c.toNat % 64 + 128 - 0x80) = c.toNat := by omega
  rw [piecesFrom_cons, advance, start_pair (by omega) (by omega), first, piecesFrom_cons,
    advance_last (by simp; omega) (by simp; omega), second, code, Char.ofNat_toNat]
  rfl

/-- What the first octet of three says about the second. -/
theorem start_triple_of_char (low : 0x800 ≤ c.toNat) (high : c.toNat ≤ 0xFFFF)
    (lead : b.toNat = c.toNat / 4096 + 224) :
    ∃ lower upper, start b = ([], .inside 1 lower upper (c.toNat / 4096)) ∧
      lower.toNat ≤ c.toNat / 64 % 64 + 128 ∧ c.toNat / 64 % 64 + 128 ≤ upper.toNat := by
  have valid := toNat_valid c
  by_cases zero : b.toNat = 0xE0
  · obtain rfl : b = 0xE0 := UInt8.toNat_inj.mp zero
    refine ⟨0xA0, 0xBF, ?_, by simp; omega, by simp; omega⟩
    rw [show c.toNat / 4096 = 0 by omega]
    rfl
  by_cases surrogates : b.toNat = 0xED
  · obtain rfl : b = 0xED := UInt8.toNat_inj.mp surrogates
    refine ⟨0x80, 0x9F, ?_, by simp, by simp; omega⟩
    rw [show c.toNat / 4096 = 0xD by omega]
    rfl
  · refine ⟨0x80, 0xBF, ?_, by simp, by simp; omega⟩
    rw [start_triple (by omega) (by omega) surrogates, lead]
    simp

theorem piecesFrom_triple (low : 0x800 ≤ c.toNat) (high : c.toNat ≤ 0xFFFF) :
    piecesFrom found .boundary
        (UInt8.ofNat (c.toNat / 4096 % 16 + 224) :: UInt8.ofNat (c.toNat / 64 % 64 + 128)
          :: UInt8.ofNat (c.toNat % 64 + 128) :: bs)
      = piecesFrom (some c :: found) .boundary bs := by
  have first := toNat_ofNat_of_lt (n := c.toNat / 4096 % 16 + 224) (by omega)
  have second := toNat_ofNat_of_lt (n := c.toNat / 64 % 64 + 128) (by omega)
  have third := toNat_ofNat_of_lt (n := c.toNat % 64 + 128) (by omega)
  obtain ⟨lower, upper, started, above, below⟩ := start_triple_of_char low high (by rw [first]; omega)
  have code : (c.toNat / 4096 * 64 + (c.toNat / 64 % 64 + 128 - 0x80)) * 64
      + (c.toNat % 64 + 128 - 0x80) = c.toNat := by omega
  rw [piecesFrom_cons, advance, started, piecesFrom_cons,
    advance_middle (by omega) (by omega), second, piecesFrom_cons,
    advance_last (by simp; omega) (by simp; omega), third, code, Char.ofNat_toNat]
  rfl

/-- What the first octet of four says about the second. -/
theorem start_quadruple_of_char (low : 0x10000 ≤ c.toNat) (lead : b.toNat = c.toNat / 262144 + 240) :
    ∃ lower upper, start b = ([], .inside 2 lower upper (c.toNat / 262144)) ∧
      lower.toNat ≤ c.toNat / 4096 % 64 + 128 ∧ c.toNat / 4096 % 64 + 128 ≤ upper.toNat := by
  have valid := toNat_valid c
  by_cases zero : b.toNat = 0xF0
  · obtain rfl : b = 0xF0 := UInt8.toNat_inj.mp zero
    refine ⟨0x90, 0xBF, ?_, by simp; omega, by simp; omega⟩
    rw [show c.toNat / 262144 = 0 by omega]
    rfl
  by_cases last : b.toNat = 0xF4
  · obtain rfl : b = 0xF4 := UInt8.toNat_inj.mp last
    refine ⟨0x80, 0x8F, ?_, by simp, by simp; omega⟩
    rw [show c.toNat / 262144 = 4 by omega]
    rfl
  · refine ⟨0x80, 0xBF, ?_, by simp, by simp; omega⟩
    rw [start_quadruple (by omega) (by omega), lead]
    simp

theorem piecesFrom_quadruple (low : 0x10000 ≤ c.toNat) :
    piecesFrom found .boundary
        (UInt8.ofNat (c.toNat / 262144 % 8 + 240) :: UInt8.ofNat (c.toNat / 4096 % 64 + 128)
          :: UInt8.ofNat (c.toNat / 64 % 64 + 128) :: UInt8.ofNat (c.toNat % 64 + 128) :: bs)
      = piecesFrom (some c :: found) .boundary bs := by
  have valid := toNat_valid c
  have first := toNat_ofNat_of_lt (n := c.toNat / 262144 % 8 + 240) (by omega)
  have second := toNat_ofNat_of_lt (n := c.toNat / 4096 % 64 + 128) (by omega)
  have third := toNat_ofNat_of_lt (n := c.toNat / 64 % 64 + 128) (by omega)
  have fourth := toNat_ofNat_of_lt (n := c.toNat % 64 + 128) (by omega)
  obtain ⟨lower, upper, started, above, below⟩ := start_quadruple_of_char low (by rw [first]; omega)
  have code : ((c.toNat / 262144 * 64 + (c.toNat / 4096 % 64 + 128 - 0x80)) * 64
      + (c.toNat / 64 % 64 + 128 - 0x80)) * 64 + (c.toNat % 64 + 128 - 0x80) = c.toNat := by omega
  rw [piecesFrom_cons, advance, started, piecesFrom_cons,
    advance_middle (by omega) (by omega), second, piecesFrom_cons,
    advance_middle (by simp; omega) (by simp; omega), third, piecesFrom_cons,
    advance_last (by simp; omega) (by simp; omega), fourth, code, Char.ofNat_toNat]
  rfl

/-- From a boundary, the octets of a character are found to be that character. -/
theorem piecesFrom_char (found : List Piece) (c : Char) (bs : Bytes) :
    piecesFrom found .boundary (String.utf8EncodeChar c ++ bs)
      = piecesFrom (some c :: found) .boundary bs := by
  unfold String.utf8EncodeChar
  simp only
  split_ifs with single pair triple
  · have octet := toNat_ofNat_of_lt (n := c.toNat) (Nat.lt_of_le_of_lt single (by decide))
    change piecesFrom found .boundary (UInt8.ofNat c.toNat :: bs) = _
    rw [piecesFrom_cons, advance, start_single (by rw [octet]; exact Nat.lt_succ_of_le single), octet,
      Char.ofNat_toNat]
    rfl
  · exact piecesFrom_pair (Nat.lt_of_not_le single) pair
  · exact piecesFrom_triple (Nat.lt_of_not_le pair) triple
  · exact piecesFrom_quadruple (Nat.lt_of_not_le triple)

theorem large_continuation (n : Nat) : 0x80 ≤ (UInt8.ofNat (n % 64 + 128)).toNat := by
  rw [toNat_ofNat_of_lt (by omega)]
  exact Nat.le_add_left _ _

/-- An octet of a character is the character, or it is at least 128. -/
theorem octet_of_char (h : b ∈ String.utf8EncodeChar c) : b.toNat = c.toNat ∨ 0x80 ≤ b.toNat := by
  unfold String.utf8EncodeChar at h
  simp only at h
  split_ifs at h with single pair triple
  · obtain rfl := List.mem_singleton.mp h
    exact .inl (toNat_ofNat_of_lt (Nat.lt_of_le_of_lt single (by decide)))
  all_goals
    right
    simp only [List.mem_cons, List.not_mem_nil, or_false] at h
  · rcases h with rfl | rfl
    · rw [toNat_ofNat_of_lt (by omega)]; omega
    · exact large_continuation _
  · rcases h with rfl | rfl | rfl
    · rw [toNat_ofNat_of_lt (by omega)]; omega
    · exact large_continuation _
    · exact large_continuation _
  · rcases h with rfl | rfl | rfl | rfl
    · rw [toNat_ofNat_of_lt (by omega)]; omega
    · exact large_continuation _
    · exact large_continuation _
    · exact large_continuation _

-- ---------------------------------------------------------------------------
-- Texts
-- ---------------------------------------------------------------------------

theorem piecesFrom_encode (found : List Piece) (cs : List Char) :
    piecesFrom found .boundary (encode cs) = found.reverse ++ cs.map some := by
  induction cs generalizing found with
  | nil => simp [piecesFrom, Progress.finish]
  | cons c cs ih => rw [encode_cons, piecesFrom_char, ih]; simp

theorem decode?_encode (cs : List Char) : decode? (encode cs) = some cs := by
  have found : pieces (encode cs) = cs.map some := by
    rw [pieces, piecesFrom_encode]
    rfl
  simp [decode?, found, List.filterMap_map]

/-- What was found before does not change what is found. -/
theorem piecesFrom_found (found : List Piece) (p : Progress) (bs : Bytes) :
    piecesFrom found p bs = found.reverse ++ piecesFrom [] p bs := by
  induction bs generalizing found p with
  | nil => simp [piecesFrom]
  | cons b bs ih =>
    rw [piecesFrom_cons, piecesFrom_cons, ih, ih ((advance p b).1.reverse ++ [])]
    simp

/-- A text that starts with an octet below 128 starts with the character of that octet. -/
theorem decode?_head {cs : List Char} (single : b.toNat < 0x80) (h : decode? (b :: bs) = some cs) :
    cs.head? = some (Char.ofNat b.toNat) := by
  have found : pieces (b :: bs) = some (Char.ofNat b.toNat) :: pieces bs := by
    rw [pieces, piecesFrom_cons, advance, start_single single, piecesFrom_found]
    rfl
  simp only [decode?, found] at h
  split at h
  · cases h
    rfl
  · cases h

end Overseer.Utf8

namespace Overseer

theorem Bytes.text?_ofString (s : String) : (Bytes.ofString s).text? = some s := by
  simp [Bytes.text?, Bytes.ofString, Utf8.decode?_encode]

end Overseer
