-- SUMMARY: The printed text of a string is read back as that string.
import Overseer.Json.Printer
import Overseer.Proofs.Json.Exact
import Overseer.Proofs.Json.Locality.Text
import Overseer.Proofs.Json.Outline.Reader
import Overseer.Proofs.Text.Utf8

/-!
# Printed strings

Between its quotes a printed string is a row of characters, each of them escaped or plain. What one of
them adds to the octets found (`Spells`) is what it stands for, and the reader is still inside the string
behind it (`Inside`).
-/

namespace Overseer.Json.Text

variable {s t u octets more : Bytes} {b octet : UInt8} {c : Char}

-- ---------------------------------------------------------------------------
-- What is spelled
-- ---------------------------------------------------------------------------

/-- In a string, the text stands for these octets. -/
structure Spells (text octets : Bytes) : Prop where
  whole : ∀ found more, body found (text ++ more) = body (octets.reverse ++ found) more
  part : ∀ found ⦃u⦄, Cut u text → AsksForMore (body found u)

theorem body_nil (found : Bytes) : AsksForMore (body found []) :=
  ⟨.behind (.ended .string) [], by rw [body], rfl⟩

theorem Spells.nil : Spells [] [] where
  whole _ _ := rfl
  part _ _ cut := absurd cut not_cut_nil

theorem Spells.append {octets' : Bytes} (first : Spells s octets) (second : Spells t octets') :
    Spells (s ++ t) (octets ++ octets') where
  whole found more := by
    rw [List.append_assoc, first.whole, second.whole, List.reverse_append, List.append_assoc]
  part found u cut := by
    rcases cut_append cut with front | ⟨w, rfl, behind⟩
    · exact first.part found front
    · rw [first.whole]
      exact second.part _ behind

/-- The octet stands for itself. -/
def Literal (b : UInt8) : Prop := b ≠ 0x22 ∧ b ≠ 0x5C ∧ ¬ b < 0x20

theorem spells_literal (h : Literal b) : Spells [b] [b] where
  whole found more := body_plain h.1 h.2.1 h.2.2
  part found u cut := by
    obtain rfl := cut_singleton cut
    exact body_nil found

theorem spells_literals (h : ∀ b ∈ s, Literal b) : Spells s s := by
  induction s with
  | nil => exact .nil
  | cons b s ih =>
    have first := spells_literal (h b (by simp))
    exact first.append (ih fun c mem => h c (by simp [mem]))

/-- A backslash and an escape. -/
theorem spells_escape (h : Exact escape t octets) : Spells (0x5C :: t) octets where
  whole found more := body_escape (h.whole more)
  part found u cut := by
    rcases cut_cons cut with rfl | ⟨w, rfl, rest⟩
    · exact body_nil found
    · obtain ⟨fault, refused, unfinished⟩ := h.part rest
      exact ⟨fault, body_escape_error refused, unfinished⟩

-- ---------------------------------------------------------------------------
-- Escapes
-- ---------------------------------------------------------------------------

theorem escape_nil : AsksForMore (escape []) := ⟨_, rfl, rfl⟩

theorem exact_letter (other : b ≠ 0x75) (h : letterEscape? b = some octet) :
    Exact escape [b] [octet] where
  whole more := by simp [escape, other, h]
  part u cut := by
    obtain rfl := cut_singleton cut
    exact escape_nil

/-- Two zeros and two digits of a code below 32. -/
def controlQuad (n : Nat) : Bytes :=
  [0x30, 0x30, UInt8.ofNat (Nat.digitChar (n / 16)).toNat, UInt8.ofNat (Nat.digitChar (n % 16)).toNat]

theorem hexDigit?_digitChar : ∀ n < 16, hexDigit? (UInt8.ofNat (Nat.digitChar n).toNat) = some n := by
  decide

theorem exact_hexQuad {n : Nat} (small : n < 0x20) : Exact hexQuad (controlQuad n) n where
  whole more := by
    have zero : hexDigit? 0x30 = some 0 := by decide
    have high := hexDigit?_digitChar (n / 16) (by omega)
    have low := hexDigit?_digitChar (n % 16) (by omega)
    have value : n / 16 * 16 + n % 16 = n := by omega
    simp [controlQuad, hexQuad, zero, high, low, value]
  part u cut := by
    have short : u.length < 4 := by
      refine lt_of_le_of_ne cut.1.length_le fun same => ?_
      exact cut.2 (cut.1.eq_of_length same)
    unfold hexQuad
    split
    · simp at short
      omega
    · exact ⟨_, rfl, rfl⟩

theorem exact_control (small : c.toNat < 0x20) :
    Exact escape (0x75 :: controlQuad c.toNat) (String.utf8EncodeChar c) where
  whole more := by
    have notTrailing : isTrailing c.toNat = false := by simp [isTrailing]; omega
    have notLeading : isLeading c.toNat = false := by simp [isLeading]; omega
    simp [escape, (exact_hexQuad small).whole, notTrailing, notLeading]
  part u cut := by
    rcases cut_cons cut with rfl | ⟨w, rfl, rest⟩
    · exact escape_nil
    · obtain ⟨fault, refused, unfinished⟩ := (exact_hexQuad small).part rest
      exact ⟨fault, by simp [escape, refused], unfinished⟩

-- ---------------------------------------------------------------------------
-- Characters
-- ---------------------------------------------------------------------------

/-- How a character is written in a string: as itself, with a letter behind a backslash, or by number. -/
inductive Written (c : Char) : Bytes → Prop where
  | plain (literal : ∀ b ∈ String.utf8EncodeChar c, Literal b) : Written c (String.utf8EncodeChar c)
  | letter {b octet : UInt8} (other : b ≠ 0x75) (known : letterEscape? b = some octet)
      (same : String.utf8EncodeChar c = [octet]) : Written c [0x5C, b]
  | control (small : c.toNat < 0x20) : Written c (0x5C :: 0x75 :: controlQuad c.toNat)

theorem encode_digitChar : ∀ n < 16,
    String.utf8EncodeChar (Nat.digitChar n) = [UInt8.ofNat (Nat.digitChar n).toNat] := by
  decide

theorem literal_of_mem (quote : c ≠ '\x22') (slash : c ≠ '\\') (control : ¬ c.toNat < 0x20)
    (h : b ∈ String.utf8EncodeChar c) : Literal b := by
  have other : ∀ d : Char, d.toNat < 0x80 → c ≠ d → b ≠ UInt8.ofNat d.toNat := by
    rintro d single different rfl
    have octet := Utf8.octet_of_char h
    rw [Utf8.toNat_ofNat_of_lt (by omega)] at octet
    rcases octet with same | large
    · exact different (Char.toNat_inj.mp same.symm)
    · omega
  refine ⟨other '\x22' (by decide) quote, other '\\' (by decide) slash, fun small => ?_⟩
  have small : b.toNat < 0x20 := UInt8.lt_iff_toNat_lt.mp small
  have octet := Utf8.octet_of_char h
  omega

theorem written_escaped (c : Char) : Written c (Utf8.encode (escaped c)) := by
  have letter : ∀ b octet : UInt8, b ≠ 0x75 → letterEscape? b = some octet →
      String.utf8EncodeChar c = [octet] → Written c [0x5C, b] := fun _ _ => .letter
  unfold escaped
  split_ifs with quote slash backspace formFeed lineFeed carriageReturn tab control
  · subst quote; exact letter 0x22 0x22 (by decide) (by decide) (by decide)
  · subst slash; exact letter 0x5C 0x5C (by decide) (by decide) (by decide)
  · subst backspace; exact letter 0x62 0x08 (by decide) (by decide) (by decide)
  · subst formFeed; exact letter 0x66 0x0C (by decide) (by decide) (by decide)
  · subst lineFeed; exact letter 0x6E 0x0A (by decide) (by decide) (by decide)
  · subst carriageReturn; exact letter 0x72 0x0D (by decide) (by decide) (by decide)
  · subst tab; exact letter 0x74 0x09 (by decide) (by decide) (by decide)
  · have high := encode_digitChar (c.toNat / 16) (by omega)
    have low := encode_digitChar (c.toNat % 16) (by omega)
    have spelled : Utf8.encode ['\\', 'u', '0', '0', Nat.digitChar (c.toNat / 16),
        Nat.digitChar (c.toNat % 16)] = 0x5C :: 0x75 :: controlQuad c.toNat := by
      simp only [Utf8.encode_cons, Utf8.encode_nil, high, low]
      rfl
    rw [spelled]
    exact .control control
  · have plain : Utf8.encode [c] = String.utf8EncodeChar c := by simp
    rw [plain]
    exact .plain fun b mem => literal_of_mem quote slash control mem

theorem Written.spells (h : Written c t) : Spells t (String.utf8EncodeChar c) := by
  cases h with
  | plain literal => exact spells_literals literal
  | letter other known same => exact same ▸ spells_escape (exact_letter other known)
  | control small => exact spells_escape (exact_control small)

theorem spells_escaped (cs : List Char) :
    Spells (Utf8.encode (cs.flatMap escaped)) (Utf8.encode cs) := by
  induction cs with
  | nil => exact .nil
  | cons c cs ih =>
    rw [List.flatMap_cons, Utf8.encode_append, Utf8.encode_cons]
    exact (written_escaped c).spells.append ih

-- ---------------------------------------------------------------------------
-- Strings
-- ---------------------------------------------------------------------------

/-- The text of a string from behind its opening quote. -/
def behindQuote (s : String) : Bytes := Utf8.encode (s.toList.flatMap escaped) ++ [0x22]

theorem encode_quoted (s : String) : Utf8.encode (quoted s) = 0x22 :: behindQuote s := by
  simp only [quoted, Utf8.encode_cons, Utf8.encode_append, List.cons_append, behindQuote]
  rfl

theorem exact_read (s : String) : Exact read (behindQuote s) s where
  whole more := by
    have spelled := (spells_escaped s.toList).whole [] (0x22 :: more)
    have found : body [] (behindQuote s ++ more) = .ok (Utf8.encode s.toList, more) := by
      rw [behindQuote, List.append_assoc, List.singleton_append, spelled, body_quote]
      simp
    have decoded : Bytes.text? (Utf8.encode s.toList) = some s := Bytes.text?_ofString s
    simp [read, found, decoded]
  part u cut := by
    have refused : AsksForMore (body [] u) := by
      rcases cut_append cut with inside | ⟨w, rfl, last⟩
      · exact (spells_escaped s.toList).part [] inside
      · rw [(spells_escaped s.toList).whole]
        obtain rfl := cut_singleton last
        exact body_nil _
    obtain ⟨fault, eq, unfinished⟩ := refused
    exact ⟨fault, by simp [read, eq], unfinished⟩

-- ---------------------------------------------------------------------------
-- Outlines
-- ---------------------------------------------------------------------------

open Outline (run Balanced)

/-- Behind any part of the text, a string that was open is still open. -/
structure Inside (s : Bytes) : Prop where
  ends : Balanced .inString s .inString
  stays : ∀ ⦃u⦄, u <+: s → ∃ p, (p = Place.inString ∨ p = .inEscape) ∧ Balanced .inString u p

theorem Inside.nil : Inside [] where
  ends := .nil
  stays u part := ⟨.inString, .inl rfl, by rw [List.prefix_nil.mp part]; exact .nil⟩

theorem Inside.append (first : Inside s) (second : Inside t) : Inside (s ++ t) where
  ends := first.ends.append second.ends
  stays u part := by
    obtain ⟨more, eq⟩ := part
    rcases List.append_eq_append_iff.mp eq with ⟨rest, rfl, -⟩ | ⟨v, rfl, rfl⟩
    · exact first.stays (List.prefix_append u rest)
    · obtain ⟨p, inside, behind⟩ := second.stays (List.prefix_append v more)
      exact ⟨p, inside, first.ends.append behind⟩

theorem inside_plain (h : ∀ b ∈ s, Outline.Plain b) : Inside s where
  ends := Outline.balanced_plain h
  stays _ part := ⟨.inString, .inl rfl, Outline.balanced_plain fun b mem => h b (part.mem mem)⟩

theorem inside_escape (b : UInt8) : Inside [0x5C, b] where
  ends := rfl
  stays u part := by
    match u, part with
    | [], _ => exact ⟨.inString, .inl rfl, rfl⟩
    | [c], part =>
      obtain rfl := (List.cons_prefix_cons.mp part).1
      exact ⟨.inEscape, .inr rfl, rfl⟩
    | c :: d :: rest, part =>
      obtain ⟨first, part⟩ := List.cons_prefix_cons.mp part
      obtain ⟨second, part⟩ := List.cons_prefix_cons.mp part
      rw [first, second, List.prefix_nil.mp part]
      exact ⟨.inString, .inl rfl, rfl⟩

theorem plain_of_literal (h : Literal b) : Outline.Plain b := ⟨h.1, h.2.1⟩

theorem plain_controlQuad {n : Nat} (small : n < 0x20) : ∀ b ∈ controlQuad n, Outline.Plain b := by
  have digit : ∀ m < 16, Outline.Plain (UInt8.ofNat (Nat.digitChar m).toNat) :=
    fun m bound => plain_of_hexDigit (hexDigit?_digitChar m bound)
  intro b mem
  simp only [controlQuad, List.mem_cons, List.not_mem_nil, or_false] at mem
  rcases mem with rfl | rfl | rfl | rfl
  · exact digit 0 (by decide)
  · exact digit 0 (by decide)
  · exact digit _ (by omega)
  · exact digit _ (by omega)

theorem Written.inside (h : Written c t) : Inside t := by
  cases h with
  | plain literal => exact inside_plain fun b mem => plain_of_literal (literal b mem)
  | letter other known same => exact inside_escape _
  | control small =>
    exact (inside_escape 0x75).append (inside_plain (plain_controlQuad small))

theorem inside_escaped (cs : List Char) : Inside (Utf8.encode (cs.flatMap escaped)) := by
  induction cs with
  | nil => exact .nil
  | cons c cs ih =>
    rw [List.flatMap_cons, Utf8.encode_append]
    exact (written_escaped c).inside.append ih

end Overseer.Json.Text
