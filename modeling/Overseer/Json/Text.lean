-- SUMMARY: Reading the text of JSON strings.
import Overseer.Json.Fault

/-!
# String texts

The reader of what stands between the quotes of a JSON string. It starts behind the opening quote,
collects octets, and ends behind the closing quote. Escapes stand for code points; a code point
outside the basic plane is escaped as a pair of surrogates.
-/

namespace Overseer.Json

/-- What a reading function answers: what it read and the octets that follow. -/
abbrev Answer (α : Type) := Except Fault (α × Bytes)

def Answer.map {α β : Type} (f : α → β) : Answer α → Answer β
  | .ok (a, rest) => .ok (f a, rest)
  | .error fault => .error fault

/-- What follows, whatever was read. -/
def Answer.following {α : Type} : Answer α → Except Fault Bytes
  | .ok (_, rest) => .ok rest
  | .error fault => .error fault

theorem Answer.following_ok {α : Type} {answer : Answer α} {rest : Bytes}
    (h : answer.following = .ok rest) : ∃ a, answer = .ok (a, rest) := by
  match answer with
  | .error _ => cases h
  | .ok (a, _) => cases h; exact ⟨a, rfl⟩

theorem Answer.map_ok {α β : Type} {f : α → β} {answer : Answer α} {b : β} {rest : Bytes}
    (h : answer.map f = .ok (b, rest)) : ∃ a, answer = .ok (a, rest) ∧ f a = b := by
  match answer with
  | .error _ => cases h
  | .ok (a, _) => cases h; exact ⟨a, rfl, rfl⟩

/-- JSON white space. -/
def isBlank (b : UInt8) : Bool := b = 0x20 || b = 0x09 || b = 0x0A || b = 0x0D

def skipBlanks (s : Bytes) : Bytes := s.dropWhile isBlank

theorem skipBlanks_length (s : Bytes) : (skipBlanks s).length ≤ s.length :=
  (List.dropWhile_sublist isBlank).length_le

namespace Text

/-! ## Escapes -/

/-- The value of a hexadecimal digit. -/
def hexDigit? (b : UInt8) : Option Nat :=
  if 0x30 ≤ b ∧ b ≤ 0x39 then some (b.toNat - 0x30)
  else if 0x41 ≤ b ∧ b ≤ 0x46 then some (b.toNat - 0x37)
  else if 0x61 ≤ b ∧ b ≤ 0x66 then some (b.toNat - 0x57)
  else none

/-- Four hexadecimal digits. -/
def hexQuad : Bytes → Answer Nat
  | a :: b :: c :: d :: rest =>
    match hexDigit? a, hexDigit? b, hexDigit? c, hexDigit? d with
    | some a, some b, some c, some d => .ok (((a * 16 + b) * 16 + c) * 16 + d, rest)
    | _, _, _, _ => .error (.behind .invalidEscape rest)
  | _ => .error (.behind (.ended .string) [])

/-- The octet that a one-letter escape stands for. -/
def letterEscape? (b : UInt8) : Option UInt8 :=
  if b = 0x22 ∨ b = 0x5C ∨ b = 0x2F then some b
  else if b = 0x62 then some 0x08
  else if b = 0x66 then some 0x0C
  else if b = 0x6E then some 0x0A
  else if b = 0x72 then some 0x0D
  else if b = 0x74 then some 0x09
  else none

def isLeading (n : Nat) : Bool := 0xD800 ≤ n && n ≤ 0xDBFF

def isTrailing (n : Nat) : Bool := 0xDC00 ≤ n && n ≤ 0xDFFF

/-- The second half of a surrogate pair whose first half is `high`. -/
def trailing (high : Nat) : Bytes → Answer Bytes
  | [] => .error (.behind (.ended .string) [])
  | b :: s =>
    if b ≠ 0x5C then .error (.behind .unexpectedEndOfHexEscape s)
    else
      match s with
      | [] => .error (.behind (.ended .string) [])
      | u :: s =>
        if u ≠ 0x75 then .error (.behind .unexpectedEndOfHexEscape s)
        else
          match hexQuad s with
          | .error fault => .error fault
          | .ok (low, rest) =>
            if isTrailing low then
              let code := (high - 0xD800) * 0x400 + (low - 0xDC00) + 0x10000
              .ok (String.utf8EncodeChar (Char.ofNat code), rest)
            else .error (.behind .loneSurrogate rest)

/-- The octets that an escape stands for; the reading starts behind the backslash. -/
def escape : Bytes → Answer Bytes
  | [] => .error (.behind (.ended .string) [])
  | b :: s =>
    if b = 0x75 then
      match hexQuad s with
      | .error fault => .error fault
      | .ok (code, rest) =>
        if isTrailing code then .error (.behind .loneSurrogate rest)
        else if isLeading code then trailing code rest
        else .ok (String.utf8EncodeChar (Char.ofNat code), rest)
    else
      match letterEscape? b with
      | some octet => .ok ([octet], s)
      | none => .error (.behind .invalidEscape s)

theorem hexQuad_length {s rest : Bytes} {n : Nat} (h : hexQuad s = .ok (n, rest)) :
    rest.length < s.length := by
  unfold hexQuad at h
  split at h
  · split at h
    · obtain ⟨_, rfl⟩ := Prod.mk.inj (Except.ok.inj h)
      simp only [List.length_cons]; omega
    · cases h
  · cases h

theorem trailing_length {high : Nat} {s rest octets : Bytes}
    (h : trailing high s = .ok (octets, rest)) : rest.length < s.length := by
  unfold trailing at h
  split at h
  · cases h
  split at h
  · cases h
  split at h
  · cases h
  split at h
  · cases h
  split at h
  · cases h
  rename_i eq
  have := hexQuad_length eq
  split at h
  · obtain ⟨_, rfl⟩ := Prod.mk.inj (Except.ok.inj h)
    simp only [List.length_cons]; omega
  · cases h

theorem escape_length {s rest octets : Bytes} (h : escape s = .ok (octets, rest)) :
    rest.length < s.length := by
  unfold escape at h
  split at h
  · cases h
  split at h
  · split at h
    · cases h
    rename_i eq
    have := hexQuad_length eq
    split at h
    · cases h
    split at h
    · have := trailing_length h
      simp only [List.length_cons]; omega
    · obtain ⟨_, rfl⟩ := Prod.mk.inj (Except.ok.inj h)
      simp only [List.length_cons]; omega
  · split at h
    · obtain ⟨_, rfl⟩ := Prod.mk.inj (Except.ok.inj h)
      simp
    · cases h

/-! ## Bodies -/

/-- The octets up to the closing quote, behind those in `found`, the latest of which stands first. -/
def body (found : Bytes) : Bytes → Answer Bytes
  | [] => .error (.behind (.ended .string) [])
  | b :: s =>
    if b = 0x22 then .ok (found.reverse, s)
    else if b = 0x5C then
      match _h : escape s with
      | .error fault => .error fault
      | .ok (octets, rest) => body (octets.reverse ++ found) rest
    else if b < 0x20 then .error (.behind .controlCharacter s)
    else body (b :: found) s
termination_by s => s.length
decreasing_by
  · have := escape_length ‹_›; simp only [List.length_cons]; omega
  · simp

theorem body_length {found s rest octets : Bytes} (h : body found s = .ok (octets, rest)) :
    rest.length < s.length := by
  fun_induction body found s with
  | case1 | case3 | case5 => cases h
  | case2 =>
    obtain ⟨_, rfl⟩ := Prod.mk.inj (Except.ok.inj h)
    simp
  | case4 _ _ _ _ eq _ ih =>
    have := ih h
    have := escape_length eq
    simp only [List.length_cons]; omega
  | case6 _ _ _ _ _ _ ih =>
    have := ih h
    simp only [List.length_cons]; omega

/-- The text from the first ill-formed octet of a string that ends before `rest`. -/
def illFormed (s rest : Bytes) : Bytes :=
  s.drop (Utf8.wellFormedLength (s.take (s.length - rest.length - 1)))

/-- The text of a string, from behind its opening quote. A complaint about octets that are no UTF-8 is
    placed on the first of them. -/
def read (s : Bytes) : Answer String :=
  match body [] s with
  | .error fault => .error fault
  | .ok (octets, rest) =>
    match octets.text? with
    | some text => .ok (text, rest)
    | none => .error (.peeked .invalidCodePoint (illFormed s rest))

theorem read_length {s rest : Bytes} {text : String} (h : read s = .ok (text, rest)) :
    rest.length < s.length := by
  unfold read at h
  split at h
  · cases h
  rename_i eq
  split at h
  · cases h
    exact body_length eq
  · cases h

/-! ## Passing over a string -/

/-- Passes over an escape: its letter or its digits are checked, its meaning is not. -/
def passEscape : Bytes → Except Fault Bytes
  | [] => .error (.behind (.ended .string) [])
  | b :: s =>
    if b = 0x75 then
      match hexQuad s with
      | .error fault => .error fault
      | .ok (_, rest) => .ok rest
    else if (letterEscape? b).isSome then .ok s
    else .error (.behind .invalidEscape s)

theorem passEscape_length {s rest : Bytes} (h : passEscape s = .ok rest) :
    rest.length < s.length := by
  unfold passEscape at h
  split at h
  · cases h
  split at h
  · split at h
    · cases h
    rename_i eq
    have := hexQuad_length eq
    cases h
    simp only [List.length_cons]; omega
  · split at h
    · cases h; simp
    · cases h

/-- Passes over a string, from behind its opening quote. Its octets need not be UTF-8 and its escapes
    need not pair up; a control character is refused where it stands. -/
def pass : Bytes → Except Fault Bytes
  | [] => .error (.behind (.ended .string) [])
  | b :: s =>
    if b = 0x22 then .ok s
    else if b = 0x5C then
      match _h : passEscape s with
      | .error fault => .error fault
      | .ok rest => pass rest
    else if b < 0x20 then .error (.behind .controlCharacter (b :: s))
    else pass s
termination_by s => s.length
decreasing_by
  · have := passEscape_length ‹_›; simp only [List.length_cons]; omega
  · simp

theorem pass_length {s rest : Bytes} (h : pass s = .ok rest) : rest.length < s.length := by
  fun_induction pass s with
  | case1 | case3 | case5 => cases h
  | case2 => cases h; simp
  | case4 _ _ eq _ ih =>
    have := ih h
    have := passEscape_length eq
    simp only [List.length_cons]; omega
  | case6 _ _ _ _ _ ih =>
    have := ih h
    simp only [List.length_cons]; omega

end Text

end Overseer.Json
