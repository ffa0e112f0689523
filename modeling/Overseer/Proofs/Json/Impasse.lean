-- SUMMARY: In front of an object that another one follows, no reader asks for more text.
import Overseer.Proofs.Json.Depth
import Overseer.Proofs.Json.Outline

/-!
# Impasses

A reader that has left brackets, strings or escapes open comes to an object, behind which there is another.
A string that is open ends with the first quote of the object, and no mark stands behind that quote; where a
value may stand the object is read, and no mark stands behind it either; everything else refuses its brace.
So whatever is open, nothing goes on and nothing is closed: the reader refuses the text for good, or it
has ended in front of the object.
-/

namespace Overseer.Json

open Outline (Punctuation)

variable {α β : Type}

-- ---------------------------------------------------------------------------
-- What an answer leaves
-- ---------------------------------------------------------------------------

/-- The text that is left has the property `P`, or the whole text is refused for good. -/
def Leaves (P : Bytes → Prop) : Answer α → Prop
  | .ok (_, rest) => P rest
  | .error fault => fault.isUnfinished = false

variable {P Q : Bytes → Prop} {answer : Answer α}

theorem Leaves.mono (h : Leaves P answer) (implies : ∀ s, P s → Q s) : Leaves Q answer := by
  match answer with
  | .ok (_, rest) => exact implies rest h
  | .error _ => exact h

theorem Leaves.map (h : Leaves P answer) (f : α → β) : Leaves P (answer.map f) := by
  match answer with
  | .ok _ => exact h
  | .error _ => exact h

theorem Leaves.ok {a : α} {rest : Bytes} (h : Leaves P answer) (eq : answer = .ok (a, rest)) : P rest := by
  subst eq
  exact h

theorem Leaves.error {fault : Fault} (h : Leaves P answer) (eq : answer = .error fault) :
    fault.isUnfinished = false := by
  subst eq
  exact h

-- ---------------------------------------------------------------------------
-- Walls
-- ---------------------------------------------------------------------------

/-- Nothing goes on here and nothing is closed. -/
def Blocked (s : Bytes) : Prop := ∃ b t, skipBlanks s = b :: t ∧ ¬ Punctuation b

/-- An object in front of which readers come to an impasse, since nothing goes on behind it. -/
structure Wall (w : Bytes) : Prop where
  opens : ∃ c d t, w = 0x7B :: 0x22 :: c :: d :: t ∧ ¬ Punctuation c
  value : ∀ depth ≤ maxDepth, Leaves Blocked ((Reader.value depth).run w)

/-- A text that closes no brace in front of `w`. -/
inductive Before (w : Bytes) : Bytes → Prop where
  | here : Before w w
  | behind {b : UInt8} {s : Bytes} (opened : b ≠ 0x7D) (later : Before w s) : Before w (b :: s)

/-- Where a string or a value ends: in front of `w`, or where nothing goes on. -/
def Hemmed (w s : Bytes) : Prop := Before w s ∨ Blocked s

variable {w s t u : Bytes} {b : UInt8}

theorem blocked_cons (solid : ¬ Punctuation b) : Blocked (b :: t) := by
  have blank : ¬ isBlank b := fun blank => solid (.inl blank)
  exact ⟨b, t, by simp [skipBlanks, blank], solid⟩

theorem Before.of_append (opened : 0x7D ∉ u) (h : Before w s) : Before w (u ++ s) := by
  induction u with
  | nil => exact h
  | cons b u ih =>
    exact .behind (List.ne_of_not_mem_cons opened).symm (ih (List.not_mem_of_not_mem_cons opened))

section Walls

variable (wall : Wall w)

include wall

theorem Wall.skipBlanks : Json.skipBlanks w = w := by
  obtain ⟨c, d, t, rfl, -⟩ := wall.opens
  rfl

theorem Before.exists_cons (h : Before w s) : ∃ b t, s = b :: t := by
  cases h with
  | here =>
    obtain ⟨c, d, t, eq, -⟩ := wall.opens
    exact ⟨_, _, eq⟩
  | behind => exact ⟨_, _, rfl⟩

/-- An octet that is no opening brace stands in front of the wall. -/
theorem Before.tail (h : Before w (b :: s)) (brace : b ≠ 0x7B) : Before w s := by
  cases h with
  | here =>
    obtain ⟨c, d, t, eq, -⟩ := wall.opens
    exact absurd (List.cons.inj eq).1 brace
  | behind _ later => exact later

theorem Before.open (h : Before w (b :: s)) : b ≠ 0x7D := by
  cases h with
  | here =>
    obtain ⟨c, d, t, eq, -⟩ := wall.opens
    rw [(List.cons.inj eq).1]
    decide
  | behind opened => exact opened

theorem Before.drop (h : Before w (u ++ s)) (braceless : ∀ b ∈ u, b ≠ 0x7B) : Before w s := by
  induction u with
  | nil => exact h
  | cons b u ih => exact ih (h.tail wall (braceless b (by simp))) fun c mem => braceless c (by simp [mem])

theorem Before.skipBlanks (h : Before w s) : ∃ b t, Json.skipBlanks s = b :: t ∧ Before w (b :: t) := by
  have blank : ∀ b ∈ s.takeWhile isBlank, b ≠ 0x7B := by
    rintro b mem rfl
    exact absurd (List.mem_takeWhile_imp mem) (by decide)
  have split : s.takeWhile isBlank ++ Json.skipBlanks s = s := List.takeWhile_append_dropWhile
  have behind : Before w (Json.skipBlanks s) := (split.symm ▸ h : Before w _).drop wall blank
  obtain ⟨b, t, start⟩ := behind.exists_cons wall
  exact ⟨b, t, start, start ▸ behind⟩

-- ---------------------------------------------------------------------------
-- Strings
-- ---------------------------------------------------------------------------

namespace Text

omit wall in
theorem hexQuad_refused {a b c d : UInt8} {rest : Bytes}
    (h : a = 0x7B ∨ b = 0x7B ∨ c = 0x7B ∨ d = 0x7B) :
    hexQuad (a :: b :: c :: d :: rest) = .error (.behind .invalidEscape rest) := by
  have none : hexDigit? 0x7B = none := by decide
  simp only [hexQuad]
  split
  · rename_i first second third fourth
    rcases h with rfl | rfl | rfl | rfl
    · cases none.symm.trans first
    · cases none.symm.trans second
    · cases none.symm.trans third
    · cases none.symm.trans fourth
  · rfl

theorem hexQuad_leaves (h : Before w s) : Leaves (Before w) (hexQuad s) := by
  obtain ⟨c, d, t, eq, -⟩ := wall.opens
  cases h with
  | here =>
    rw [eq, hexQuad_refused (.inl rfl)]
    rfl
  | @behind a s _ h =>
  cases h with
  | here =>
    rw [eq, hexQuad_refused (.inr (.inl rfl))]
    rfl
  | @behind b s _ h =>
  cases h with
  | here =>
    rw [eq, hexQuad_refused (.inr (.inr (.inl rfl)))]
    rfl
  | @behind c s _ h =>
  cases h with
  | here =>
    rw [eq, hexQuad_refused (.inr (.inr (.inr rfl)))]
    rfl
  | @behind d s _ h =>
    simp only [hexQuad]
    split
    · exact h
    · rfl

theorem trailing_leaves (high : Nat) (h : Before w s) : Leaves (Before w) (trailing high s) := by
  obtain ⟨b, s, rfl⟩ := h.exists_cons wall
  by_cases slash : b ≠ 0x5C
  · simp only [trailing, if_pos slash]
    rfl
  obtain rfl := not_not.mp slash
  have h := h.tail wall (by decide)
  obtain ⟨u, s, rfl⟩ := h.exists_cons wall
  by_cases letter : u ≠ 0x75
  · simp only [trailing, if_neg slash, if_pos letter]
    rfl
  obtain rfl := not_not.mp letter
  have quad := hexQuad_leaves wall (h.tail wall (by decide))
  simp only [trailing, if_neg slash, if_neg letter]
  split
  · rename_i refused
    exact quad.error refused
  · rename_i low rest read
    split
    · exact quad.ok read
    · rfl

theorem escape_leaves (h : Before w s) : Leaves (Before w) (escape s) := by
  obtain ⟨b, s, rfl⟩ := h.exists_cons wall
  by_cases letter : b = 0x75
  · subst letter
    have quad := hexQuad_leaves wall (h.tail wall (by decide))
    simp only [escape, if_true]
    split
    · rename_i refused
      exact quad.error refused
    · rename_i code rest read
      split
      · rfl
      split
      · exact trailing_leaves wall code (quad.ok read)
      · exact quad.ok read
  · simp only [escape, if_neg letter]
    split
    · rename_i octet known
      refine h.tail wall ?_
      rintro rfl
      cases known
    · rfl

/-- A string that is open ends in front of the wall, or with the first quote of the wall. -/
theorem body_leaves (found : Bytes) (h : Before w s) : Leaves (Hemmed w) (body found s) := by
  fun_induction body found s with
  | case1 =>
    obtain ⟨b, t, impossible⟩ := h.exists_cons wall
    cases impossible
  | case2 found s => exact .inl (h.tail wall (by decide))
  | case3 found s fault refused => exact (escape_leaves wall (h.tail wall (by decide))).error refused
  | case4 found s octets rest read _ ih => exact ih ((escape_leaves wall (h.tail wall (by decide))).ok read)
  | case5 => rfl
  | case6 found b s quote slash control ih =>
    cases h with
    | here =>
      obtain ⟨c, d, t, eq, solid⟩ := wall.opens
      obtain ⟨rfl, rfl⟩ := List.cons.inj eq
      rw [body_quote]
      exact .inr (blocked_cons solid)
    | behind _ later => exact ih later

theorem read_leaves (h : Before w s) : Leaves (Hemmed w) (read s) := by
  have content := body_leaves wall [] h
  unfold read
  split
  · rename_i refused
    exact content.error refused
  · rename_i octets rest found
    split
    · exact content.ok found
    · rfl

end Text

-- ---------------------------------------------------------------------------
-- Numbers and literals
-- ---------------------------------------------------------------------------

namespace Numeral

theorem digits_leave (h : Before w s) : Before w (digits s).2 := by
  have braceless : ∀ b ∈ (digits s).1, b ≠ 0x7B := by
    rintro b mem rfl
    exact absurd (isDigit_of_mem_digits mem) (by decide)
  exact ((digits_split s).symm ▸ h : Before w _).drop wall braceless

theorem sign_leaves (h : Before w s) : Before w (sign s).2 := by
  obtain ⟨b, s, rfl⟩ := h.exists_cons wall
  simp only [sign]
  split_ifs with plus minus
  · exact h.tail wall (by rw [plus]; decide)
  · exact h.tail wall (by rw [minus]; decide)
  · exact h

omit wall in
theorem scaled_leaves (significand : Nat) (exponent : Int) (h : Before w s) :
    Leaves (Before w) (scaled significand exponent s) := by
  unfold scaled
  split
  · exact h
  · rfl

theorem exponentPart_leaves (significand : Nat) (exponent : Int) (h : Before w s) :
    Leaves (Before w) (exponentPart significand exponent s) := by
  have signed := sign_leaves wall h
  obtain ⟨b, t, start⟩ := signed.exists_cons wall
  rw [start] at signed
  have behind := digits_leave wall signed
  unfold exponentPart
  simp only [start]
  split
  · split
    · exact scaled_leaves _ _ behind
    · split
      · rfl
      · exact behind
  · rfl

omit wall in
theorem not_brace_of_exponentMark (mark : isExponentMark b) : b ≠ 0x7B := by
  rintro rfl
  exact absurd mark (by decide)

theorem tail_leaves (significand : Nat) (exponent : Int) (h : Before w s) :
    Leaves (Before w) (tail significand exponent s) := by
  obtain ⟨b, s, rfl⟩ := h.exists_cons wall
  simp only [tail]
  split
  · rename_i mark
    exact exponentPart_leaves wall _ _ (h.tail wall (not_brace_of_exponentMark mark))
  · exact scaled_leaves _ _ h

theorem fractionPart_leaves (significand : Nat) (exponent : Int) (h : Before w s) :
    Leaves (Before w) (fractionPart significand exponent s) := by
  have behind := digits_leave wall h
  unfold fractionPart
  simp only
  split
  · rename_i ends
    obtain ⟨b, t, more⟩ := behind.exists_cons wall
    cases ends.symm.trans more
  · rfl
  · exact tail_leaves wall _ _ behind

theorem continued_leaves (negative : Bool) (significand excess : Nat) (h : Before w s) :
    Leaves (Before w) (continued negative significand excess s) := by
  obtain ⟨b, s, rfl⟩ := h.exists_cons wall
  simp only [continued]
  split
  · rename_i point
    exact (fractionPart_leaves wall _ _ (h.tail wall (by rw [point]; decide))).map _
  split
  · rename_i mark
    exact (exponentPart_leaves wall _ _ (h.tail wall (not_brace_of_exponentMark mark))).map _
  split
  · exact h
  · exact (scaled_leaves _ _ h).map _

theorem unsigned_leaves (negative : Bool) (h : Before w s) : Leaves (Before w) (unsigned negative s) := by
  obtain ⟨b, s, rfl⟩ := h.exists_cons wall
  by_cases zero : b = 0x30
  · subst zero
    have behind := h.tail wall (by decide)
    obtain ⟨d, s, rfl⟩ := behind.exists_cons wall
    by_cases digit : isDigit d
    · rw [unsigned_leadingZero digit]
      rfl
    · rw [unsigned_zero fun c mem => by cases mem; exact digit]
      exact continued_leaves wall _ _ _ behind
  by_cases digit : isDigit b
  · rw [unsigned_digits zero digit]
    exact continued_leaves wall _ _ _ (digits_leave wall h)
  · rw [unsigned_other digit]
    rfl

theorem read_leaves (h : Before w s) : Leaves (Before w) (read s) := by
  obtain ⟨b, s, rfl⟩ := h.exists_cons wall
  simp only [read]
  split
  · rename_i minus
    exact unsigned_leaves wall true (h.tail wall (by rw [minus]; decide))
  · exact unsigned_leaves wall false h

end Numeral

theorem word_leaves (letters : Bytes) (braceless : 0x7B ∉ letters) (h : Before w s) :
    Leaves (Before w) (word letters s) := by
  fun_induction word letters s with
  | case1 => exact h
  | case2 =>
    obtain ⟨b, t, impossible⟩ := h.exists_cons wall
    cases impossible
  | case3 letters b s ih =>
    exact ih (List.not_mem_of_not_mem_cons braceless)
      (h.tail wall (List.ne_of_not_mem_cons braceless).symm)
  | case4 => rfl

-- ---------------------------------------------------------------------------
-- Lists
-- ---------------------------------------------------------------------------

theorem nextElement_leaves (first : Bool) (h : Before w s) : Leaves (Before w) (nextElement first s) := by
  obtain ⟨b, t, start, h⟩ := h.skipBlanks wall
  simp only [nextElement, start]
  split
  · exact h
  split
  · exact h
  split
  · rename_i comma
    obtain ⟨c, after, next, h⟩ := (h.tail wall (by rw [comma]; decide)).skipBlanks wall
    simp only [next]
    split
    · rfl
    · exact h
  · rfl

omit wall in
theorem nextElement_blocked (h : Blocked s) :
    ∃ fault, nextElement false s = .error fault ∧ fault.isUnfinished = false := by
  obtain ⟨b, t, start, solid⟩ := h
  have bracket : b ≠ 0x5D := by
    rintro rfl
    exact solid (by simp [Punctuation])
  have comma : b ≠ 0x2C := by
    rintro rfl
    exact solid (by simp [Punctuation])
  refine ⟨.peeked .expectedListComma (b :: t), ?_, rfl⟩
  simp only [nextElement, start, if_neg bracket, if_neg comma, Bool.false_eq_true, if_false]

theorem elements_leave {element : Reader α}
    (reads : ∀ {s}, Before w s → Leaves (Hemmed w) (element.run s))
    (found : List α) (first : Bool) (h : Before w s) :
    Leaves (Before w) (elements element found first s) := by
  fun_induction elements element found first s with
  | case1 found first s fault next => exact (nextElement_leaves wall first h).error next
  | case2 found first s rest next =>
    obtain ⟨t, rfl⟩ := nextElement_closing next
    exact ((nextElement_leaves wall first h).ok next).tail wall (by decide)
  | case3 found first s rest next fault refused =>
    exact (reads ((nextElement_leaves wall first h).ok next)).error refused
  | case4 found first s rest next a after read ih =>
    rcases (reads ((nextElement_leaves wall first h).ok next)).ok read with behind | blocked
    · exact ih behind
    · obtain ⟨fault, refused, finished⟩ := nextElement_blocked blocked
      rw [elements_nextElement_error refused]
      exact finished

-- ---------------------------------------------------------------------------
-- Objects
-- ---------------------------------------------------------------------------

theorem nextKey_leaves (first : Bool) (h : Before w s) : Leaves (Before w) (nextKey first s) := by
  obtain ⟨b, t, start, h⟩ := h.skipBlanks wall
  simp only [nextKey, start]
  split
  · exact h
  split
  · split
    · rename_i quote
      exact h.tail wall (by rw [quote]; decide)
    · rfl
  split
  · rename_i comma
    obtain ⟨c, after, next, h⟩ := (h.tail wall (by rw [comma]; decide)).skipBlanks wall
    simp only [next]
    split
    · rename_i quote
      exact h.tail wall (by rw [quote]; decide)
    split
    · rfl
    · rfl
  · rfl

omit wall in
theorem nextKey_blocked (h : Blocked s) :
    ∃ fault, nextKey false s = .error fault ∧ fault.isUnfinished = false := by
  obtain ⟨b, t, start, solid⟩ := h
  have brace : b ≠ 0x7D := by
    rintro rfl
    exact solid (by simp [Punctuation])
  have comma : b ≠ 0x2C := by
    rintro rfl
    exact solid (by simp [Punctuation])
  refine ⟨.peeked .expectedObjectComma (b :: t), ?_, rfl⟩
  simp only [nextKey, start, if_neg brace, if_neg comma, Bool.false_eq_true, if_false]

/-- A colon is found in front of the wall, or another octet in its place. -/
theorem colon_cases (h : Hemmed w s) :
    (∃ rest, colon s = .ok rest ∧ Before w rest) ∨
      ∃ fault, colon s = .error fault ∧ fault.isUnfinished = false := by
  rcases h with before | ⟨b, t, start, solid⟩
  · obtain ⟨b, t, start, h⟩ := before.skipBlanks wall
    simp only [colon, start]
    by_cases mark : b = 0x3A
    · exact .inl ⟨t, by rw [if_pos mark], h.tail wall (by rw [mark]; decide)⟩
    · exact .inr ⟨_, by rw [if_neg mark], rfl⟩
  · have mark : b ≠ 0x3A := by
      rintro rfl
      exact solid (by simp [Punctuation])
    refine .inr ⟨.peeked .expectedColon (b :: t), ?_, rfl⟩
    simp only [colon, start, if_neg mark]

/-- The value of a member begins in front of the wall. -/
theorem before_member {first : Bool} {rest afterKey start : Bytes} {key : String} (h : Before w s)
    (next : nextKey first s = .ok (true, rest)) (read : Text.read rest = .ok (key, afterKey))
    (mark : colon afterKey = .ok start) : Before w start := by
  have name := (Text.read_leaves wall ((nextKey_leaves wall first h).ok next)).ok read
  rcases colon_cases wall name with ⟨start', found, before⟩ | ⟨fault, refused, -⟩
  · cases mark.symm.trans found
    exact before
  · cases mark.symm.trans refused

/-- No object is closed. -/
theorem members_leave {member : Reader α}
    (reads : ∀ {s}, Before w s → Leaves (Hemmed w) (member.run s))
    (found : List (String × α)) (first : Bool) (h : Before w s) :
    Leaves (fun _ => False) (members member found first s) := by
  fun_induction members member found first s with
  | case1 found first s fault next => exact (nextKey_leaves wall first h).error next
  | case2 found first s rest next =>
    obtain ⟨t, rfl⟩ := nextKey_closing next
    exact ((nextKey_leaves wall first h).ok next).open wall rfl
  | case3 found first s rest next fault refused =>
    exact (Text.read_leaves wall ((nextKey_leaves wall first h).ok next)).error refused
  | case4 found first s rest next key afterKey read fault mark =>
    have name := (Text.read_leaves wall ((nextKey_leaves wall first h).ok next)).ok read
    rcases colon_cases wall name with ⟨start, found, -⟩ | ⟨why, refused, finished⟩
    · cases mark.symm.trans found
    · cases mark.symm.trans refused
      exact finished
  | case5 found first s rest next key afterKey read start mark fault refused =>
    exact (reads (before_member wall h next read mark)).error refused
  | case6 found first s rest next key afterKey read start mark a after value ih =>
    rcases (reads (before_member wall h next read mark)).ok value with behind | blocked
    · exact ih behind
    · obtain ⟨fault, refused, finished⟩ := nextKey_blocked blocked
      rw [members_nextKey_error refused]
      exact finished

-- ---------------------------------------------------------------------------
-- Values
-- ---------------------------------------------------------------------------

/-- What a value may leave in front of the wall. -/
theorem valueOf_leaves {nested : Option (Reader Value)} (itself : Leaves Blocked (valueOf nested w))
    (inside : ∀ r ∈ nested, ∀ {s}, Before w s → Leaves (Hemmed w) (r.run s))
    (h : Before w s) : Leaves (Hemmed w) (valueOf nested s) := by
  obtain ⟨b, t, start, h⟩ := h.skipBlanks wall
  generalize eq : b :: t = front at h
  cases h with
  | here =>
    have same : valueOf nested s = valueOf nested w := by
      unfold valueOf
      rw [start, eq, wall.skipBlanks]
    rw [same]
    exact itself.mono fun _ => .inr
  | behind opened later =>
    cases eq
    have ahead : ∀ {γ : Type} {answer : Answer γ}, Leaves (Before w) answer → Leaves (Hemmed w) answer :=
      fun h => h.mono fun _ => .inl
    rcases startsValue_cases b with rfl | rfl | rfl | number | rfl | rfl | rfl | other
    · rw [valueOf_null start]
      exact ahead ((word_leaves wall nullTail (by decide) later).map _)
    · rw [valueOf_true start]
      exact ahead ((word_leaves wall trueTail (by decide) later).map _)
    · rw [valueOf_false start]
      exact ahead ((word_leaves wall falseTail (by decide) later).map _)
    · rw [valueOf_number start number]
      exact ahead ((Numeral.read_leaves wall (.behind opened later)).map _)
    · rw [valueOf_string start]
      exact (Text.read_leaves wall later).map _
    · cases nested with
      | none =>
        rw [valueOf_tooDeep start (.inl rfl)]
        rfl
      | some element =>
        rw [valueOf_array start]
        exact ahead ((elements_leave wall (inside element rfl) [] true later).map _)
    · cases nested with
      | none =>
        rw [valueOf_tooDeep start (.inr rfl)]
        rfl
      | some member =>
        rw [valueOf_object start]
        exact ((members_leave wall (inside member rfl) [] true later).map _).mono fun _ => False.elim
    · rw [valueOf_other start other]
      rfl

theorem value_leaves {depth : Nat} (le : depth ≤ maxDepth) (h : Before w s) :
    Leaves (Hemmed w) ((Reader.value depth).run s) := by
  induction depth generalizing s with
  | zero =>
    have itself : Leaves Blocked (valueOf none w) := wall.value 0 le
    have read := valueOf_leaves wall itself (fun r mem => by cases mem) h
    exact read
  | succ depth ih =>
    have itself : Leaves Blocked (valueOf (some (.value depth)) w) := wall.value (depth + 1) le
    have inside : ∀ r ∈ some (Reader.value depth), ∀ {t}, Before w t →
        Leaves (Hemmed w) (r.run t) := by
      rintro r ⟨⟩ t before
      exact ih (Nat.le_of_succ_le le) before
    have read := valueOf_leaves wall itself inside h
    exact read

/-- At a brace in front of the wall no object is read. -/
theorem object_unread {v : Value} {rest : Bytes} (h : Before w s) :
    Reader.anyValue.run (0x7B :: s) ≠ .ok (v, rest) := by
  intro read
  have start : Json.skipBlanks (0x7B :: s) = 0x7B :: s := rfl
  have same : Reader.anyValue.run (0x7B :: s)
      = (members (.value 126) [] true s).map fun found => .object (Entries.ofList found) :=
    valueOf_object start
  rw [same] at read
  have inside : ∀ {t}, Before w t → Leaves (Hemmed w) ((Reader.value 126).run t) :=
    value_leaves wall (by decide)
  exact ((members_leave wall inside [] true h).map _).ok read

/-- In front of the wall there is a value, or something that is refused for good. -/
theorem firstValue_before (h : Before w s) :
    (∃ found, firstValue s = .ok (some found)) ∨
      ∃ fault, firstValue s = .error fault ∧ fault.isUnfinished = false := by
  obtain ⟨b, t, start, h⟩ := h.skipBlanks wall
  have value := value_leaves wall (Nat.le_refl maxDepth) h
  change Leaves _ (Reader.anyValue.run (b :: t)) at value
  cases read : Reader.anyValue.run (b :: t) with
  | error fault =>
    refine .inr ⟨fault, ?_, value.error read⟩
    simp only [firstValue, start, read]
  | ok found =>
    obtain ⟨v, rest⟩ := found
    cases rest with
    | nil =>
      refine .inl ⟨(v, []), ?_⟩
      simp only [firstValue, start, read]
    | cons c after =>
      simp only [firstValue, start, read]
      split
      · exact .inl ⟨_, rfl⟩
      · exact .inr ⟨_, rfl, rfl⟩

end Walls

end Overseer.Json
