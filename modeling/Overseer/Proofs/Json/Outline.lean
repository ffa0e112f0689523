-- SUMMARY: The brackets and quotes of a text: what a prefix of it leaves open, and what can still close it.
import Mathlib.Data.List.Infix
import Overseer.Json.Text

/-!
# Outlines

An outline of a text keeps the brackets that are open and whether a string is. It knows nothing of
numbers, literals and colons, so it admits more than the reader does; what it refuses, the reader refuses
too. It is blind in the same way to where a text was cut: a text that does not close an open brace can be
put in front of any other such text (`KeepsOpen.append`).

A text that is read from inside one of its own strings has its strings where the text has its punctuation,
and the other way round (`Crossed`).
-/

namespace Overseer.Json

/-- Where an octet stands among the strings of a text. -/
inductive Place where
  | between
  /-- Behind a string, where only white space and punctuation may follow. -/
  | behindString
  | inString
  | inEscape
  deriving DecidableEq, Repr

/-- Neither inside a string nor inside an escape. -/
def Place.Outside (p : Place) : Prop := p = .between ∨ p = .behindString

structure Outline where
  /-- The octets that close what is open, those for the innermost first. -/
  awaited : Bytes
  place : Place
  deriving DecidableEq, Repr

namespace Outline

-- ---------------------------------------------------------------------------
-- Steps
-- ---------------------------------------------------------------------------

/-- What is open behind a closing octet, which has to be the one that is awaited. -/
def close (b : UInt8) : Bytes → Option Outline
  | [] => none
  | c :: rest => if b = c then some ⟨rest, .between⟩ else none

/-- The outline with one octet more. -/
def step (o : Outline) (b : UInt8) : Option Outline :=
  match o.place with
  | .between =>
    if b = 0x22 then some ⟨o.awaited, .inString⟩
    else if b = 0x7B then some ⟨0x7D :: o.awaited, .between⟩
    else if b = 0x5B then some ⟨0x5D :: o.awaited, .between⟩
    else if b = 0x7D ∨ b = 0x5D then close b o.awaited
    else if b = 0x5C then none
    else some o
  | .behindString =>
    if isBlank b then some o
    else if b = 0x2C ∨ b = 0x3A then some ⟨o.awaited, .between⟩
    else if b = 0x7D ∨ b = 0x5D then close b o.awaited
    else none
  | .inString =>
    if b = 0x22 then some ⟨o.awaited, .behindString⟩
    else if b = 0x5C then some ⟨o.awaited, .inEscape⟩
    else some o
  | .inEscape => some ⟨o.awaited, .inString⟩

/-- The outline with a text more. -/
def run (o : Outline) (s : Bytes) : Option Outline := s.foldlM step o

variable {o o' q : Outline} {b : UInt8} {s t u : Bytes} {p p' r : Place}

@[simp] theorem run_nil : run o [] = some o := rfl

@[simp] theorem run_cons : run o (b :: s) = (step o b).bind fun o' => run o' s := rfl

theorem run_append : run o (s ++ t) = (run o s).bind fun o' => run o' t := by
  simp [run, List.foldlM_append]

theorem run_append_eq_some : run o (s ++ t) = some q ↔ ∃ o', run o s = some o' ∧ run o' t = some q := by
  simp [run_append, Option.bind_eq_some_iff]

theorem run_cons_eq_some :
    run o (b :: s) = some q ↔ ∃ o', step o b = some o' ∧ run o' s = some q := by
  simp [Option.bind_eq_some_iff]

/-- A prefix of a text that has an outline has one. -/
theorem run_prefix (h : run o t = some q) (part : s <+: t) : ∃ o', run o s = some o' := by
  obtain ⟨more, rfl⟩ := part
  obtain ⟨o', first, -⟩ := run_append_eq_some.mp h
  exact ⟨o', first⟩

-- ---------------------------------------------------------------------------
-- Outlines inside something that is open
-- ---------------------------------------------------------------------------

/-- The outline inside what `outer` closes. -/
def inside (o : Outline) (outer : Bytes) : Outline := ⟨o.awaited ++ outer, o.place⟩

theorem close_inside {awaited outer : Bytes} (h : close b awaited = some q) :
    close b (awaited ++ outer) = some (q.inside outer) := by
  cases awaited with
  | nil => simp [close] at h
  | cons c rest =>
    simp only [close] at h
    split at h
    · rename_i same
      cases h
      simp [close, same, inside]
    · cases h

theorem step_inside (outer : Bytes) (h : step o b = some q) :
    step (o.inside outer) b = some (q.inside outer) := by
  obtain ⟨awaited, place⟩ := o
  cases place with
  | between =>
    simp only [step, inside] at h ⊢
    split_ifs at h ⊢
    · cases h; rfl
    · cases h; rfl
    · cases h; rfl
    · exact close_inside h
    · cases h; rfl
  | behindString =>
    simp only [step, inside] at h ⊢
    split_ifs at h ⊢
    · cases h; rfl
    · cases h; rfl
    · exact close_inside h
  | inString =>
    simp only [step, inside] at h ⊢
    split_ifs at h ⊢
    · cases h; rfl
    · cases h; rfl
    · cases h; rfl
  | inEscape =>
    cases h
    rfl

theorem run_inside (outer : Bytes) (h : run o s = some q) :
    run (o.inside outer) s = some (q.inside outer) := by
  induction s generalizing o with
  | nil =>
    cases h
    rfl
  | cons b s ih =>
    obtain ⟨o', first, rest⟩ := run_cons_eq_some.mp h
    exact run_cons_eq_some.mpr ⟨_, step_inside outer first, ih rest⟩

-- ---------------------------------------------------------------------------
-- Balanced texts
-- ---------------------------------------------------------------------------

/-- The text closes all that it opens and nothing else, and leads from one place to another. -/
def Balanced (p : Place) (s : Bytes) (r : Place) : Prop := run ⟨[], p⟩ s = some ⟨[], r⟩

theorem Balanced.nil : Balanced p [] p := rfl

theorem Balanced.append (first : Balanced p s r) (second : Balanced r t p') :
    Balanced p (s ++ t) p' :=
  run_append_eq_some.mpr ⟨_, first, second⟩

theorem Balanced.cons (first : step ⟨[], p⟩ b = some ⟨[], r⟩) (rest : Balanced r s p') :
    Balanced p (b :: s) p' :=
  run_cons_eq_some.mpr ⟨_, first, rest⟩

/-- A bracket that is awaited may be closed outside of strings. -/
theorem step_closing (outside : p.Outside) (closing : b = 0x7D ∨ b = 0x5D) (outer : Bytes) :
    step ⟨b :: outer, p⟩ b = some ⟨outer, .between⟩ := by
  rcases outside with rfl | rfl
  · rcases closing with rfl | rfl
    · simp [step, close]
    · simp [step, close]
  · rcases closing with rfl | rfl
    · simp [step, close, isBlank]
    · simp [step, close, isBlank]

/-- A text in brackets. -/
theorem Balanced.enclose {opening closing : UInt8}
    (pair : step ⟨[], .between⟩ opening = some ⟨[closing], .between⟩)
    (kind : closing = 0x7D ∨ closing = 0x5D) (h : Balanced .between s p) (outside : p.Outside) :
    Balanced .between (opening :: (s ++ [closing])) .between := by
  refine run_cons_eq_some.mpr ⟨_, pair, run_append_eq_some.mpr ⟨_, run_inside [closing] h, ?_⟩⟩
  simp [inside, step_closing outside kind]

theorem Balanced.braces (h : Balanced .between s p) (outside : p.Outside) :
    Balanced .between (0x7B :: (s ++ [0x7D])) .between :=
  h.enclose rfl (.inl rfl) outside

theorem Balanced.brackets (h : Balanced .between s p) (outside : p.Outside) :
    Balanced .between (0x5B :: (s ++ [0x5D])) .between :=
  h.enclose rfl (.inr rfl) outside

/-- Outside of strings, the octet leaves the outline as it is. -/
def Inert (b : UInt8) : Prop :=
  b ≠ 0x22 ∧ b ≠ 0x7B ∧ b ≠ 0x5B ∧ b ≠ 0x7D ∧ b ≠ 0x5D ∧ b ≠ 0x5C

instance : DecidablePred Inert := fun _ => inferInstanceAs (Decidable (_ ∧ _))

theorem balanced_inert (h : ∀ b ∈ s, Inert b) : Balanced .between s .between := by
  induction s with
  | nil => exact .nil
  | cons b s ih =>
    have inert : Inert b := h b (by simp)
    refine .cons ?_ (ih fun c mem => h c (by simp [mem]))
    simp [step, inert.1, inert.2.1, inert.2.2.1, inert.2.2.2.1, inert.2.2.2.2.1, inert.2.2.2.2.2]

theorem inert_of_blank (h : isBlank b) : Inert b := by
  simp only [isBlank, Bool.or_eq_true, decide_eq_true_eq] at h
  rcases h with ((rfl | rfl) | rfl) | rfl <;> decide

theorem balanced_blanks (outside : p.Outside) (h : ∀ b ∈ s, isBlank b) : Balanced p s p := by
  rcases outside with rfl | rfl
  · exact balanced_inert fun b mem => inert_of_blank (h b mem)
  · induction s with
    | nil => exact .nil
    | cons b s ih =>
      refine .cons ?_ (ih fun c mem => h c (by simp [mem]))
      simp [step, h b]

/-- A comma or a colon ends what stands before it. -/
theorem balanced_separator (outside : p.Outside) (h : b = 0x2C ∨ b = 0x3A) :
    Balanced p [b] .between := by
  rcases outside with rfl | rfl
  · rcases h with rfl | rfl
    · rfl
    · rfl
  · rcases h with rfl | rfl
    · rfl
    · rfl

/-- The octet stands for itself in a string. -/
def Plain (b : UInt8) : Prop := b ≠ 0x22 ∧ b ≠ 0x5C

theorem balanced_plain (h : ∀ b ∈ s, Plain b) : Balanced .inString s .inString := by
  induction s with
  | nil => exact .nil
  | cons b s ih =>
    have plain : Plain b := h b (by simp)
    refine .cons ?_ (ih fun c mem => h c (by simp [mem]))
    simp [step, plain.1, plain.2]

-- ---------------------------------------------------------------------------
-- Texts that keep a brace open
-- ---------------------------------------------------------------------------

/-- A brace is open, and it is the outermost of what is. -/
def Enclosed (o : Outline) : Prop := ∃ inner, o.awaited = inner ++ [0x7D]

/-- Wherever in an open brace the text stands, neither it nor a part of it closes that brace. -/
def KeepsOpen (s : Bytes) : Prop :=
  ∀ ⦃o q : Outline⦄ ⦃u : Bytes⦄, u <+: s → o.Enclosed → run o u = some q → q.Enclosed

theorem KeepsOpen.nil : KeepsOpen [] := by
  intro o q u part enclosed h
  obtain rfl := List.prefix_nil.mp part
  cases h
  exact enclosed

theorem KeepsOpen.append (first : KeepsOpen s) (second : KeepsOpen t) : KeepsOpen (s ++ t) := by
  intro o q u part enclosed h
  obtain ⟨more, eq⟩ := part
  rcases List.append_eq_append_iff.mp eq with ⟨rest, rfl, -⟩ | ⟨v, rfl, eq⟩
  · exact first (List.prefix_append u rest) enclosed h
  · obtain ⟨o', front, back⟩ := run_append_eq_some.mp h
    have part : v <+: t := ⟨more, by simpa using eq⟩
    exact second part (first List.prefix_rfl enclosed front) back

theorem KeepsOpen.of_prefix (h : KeepsOpen t) (part : s <+: t) : KeepsOpen s :=
  fun _ _ _ front => h (front.trans part)

theorem close_enclosed {awaited : Bytes} (enclosed : ∃ inner, awaited = inner ++ [0x7D])
    (other : b ≠ 0x7D) (h : close b awaited = some q) : q.Enclosed := by
  obtain ⟨inner, rfl⟩ := enclosed
  cases inner with
  | nil => simp [close, other] at h
  | cons c inner =>
    simp only [List.cons_append, close] at h
    split at h
    · cases h
      exact ⟨inner, rfl⟩
    · cases h

/-- Only a closing brace closes a brace. -/
theorem step_enclosed (enclosed : o.Enclosed) (other : b ≠ 0x7D) (h : step o b = some q) :
    q.Enclosed := by
  obtain ⟨awaited, place⟩ := o
  have ⟨inner, eq⟩ := enclosed
  simp only at eq
  cases place with
  | between =>
    simp only [step] at h
    split_ifs at h
    · cases h; exact enclosed
    · cases h; exact ⟨0x7D :: inner, by simp [eq]⟩
    · cases h; exact ⟨0x5D :: inner, by simp [eq]⟩
    · exact close_enclosed ⟨inner, eq⟩ other h
    · cases h; exact enclosed
  | behindString =>
    simp only [step] at h
    split_ifs at h
    · cases h; exact enclosed
    · cases h; exact enclosed
    · exact close_enclosed ⟨inner, eq⟩ other h
  | inString =>
    simp only [step] at h
    split_ifs at h
    · cases h; exact enclosed
    · cases h; exact enclosed
    · cases h; exact enclosed
  | inEscape =>
    cases h
    exact enclosed

theorem keepsOpen_of_braceless (h : 0x7D ∉ s) : KeepsOpen s := by
  intro o q u part enclosed outlined
  have absent : 0x7D ∉ u := fun mem => h (part.mem mem)
  clear part h
  induction u generalizing o with
  | nil =>
    cases outlined
    exact enclosed
  | cons b u ih =>
    obtain ⟨o', first, rest⟩ := run_cons_eq_some.mp outlined
    have other : b ≠ 0x7D := (List.ne_of_not_mem_cons absent).symm
    exact ih (step_enclosed enclosed other first) rest (List.not_mem_of_not_mem_cons absent)

/-- What a text has open by itself is inside an open brace. -/
theorem enclosed_of_run {outer : Bytes} (h : run ⟨[], p⟩ s = some o)
    (enclosed : ∃ inner, outer = inner ++ [0x7D]) (outlined : run ⟨outer, p⟩ s = some q) :
    q.Enclosed := by
  have same := run_inside outer h
  simp only [inside, List.nil_append] at same
  rw [same] at outlined
  cases outlined
  obtain ⟨inner, rfl⟩ := enclosed
  exact ⟨o.awaited ++ inner, by simp⟩

/-- What may follow a string. -/
def Punctuation (b : UInt8) : Prop := isBlank b ∨ b = 0x2C ∨ b = 0x3A ∨ b = 0x7D ∨ b = 0x5D

theorem punctuation_of_step {awaited : Bytes} (h : step ⟨awaited, .behindString⟩ b = some q) :
    Punctuation b := by
  simp only [step] at h
  split_ifs at h with blank separator closing
  · exact .inl blank
  · rcases separator with comma | colon
    · exact .inr (.inl comma)
    · exact .inr (.inr (.inl colon))
  · exact .inr (.inr (.inr closing))

/-- Inside a string, a brace and a quote end the string. -/
theorem run_brace_quote {awaited : Bytes} (place : p = .inString ∨ p = .inEscape) :
    run ⟨awaited, p⟩ [0x7B, 0x22] = some ⟨awaited, .behindString⟩ := by
  rcases place with rfl | rfl
  · rfl
  · rfl

/-- In a string, the quote in front of a key ends the string, and no key starts with what may follow. -/
theorem enclosed_of_key_inString {c : UInt8} {awaited : Bytes} (inside : p = .inString ∨ p = .inEscape)
    (key : ¬ Punctuation c) (part : u <+: 0x7B :: 0x22 :: c :: s)
    (enclosed : Enclosed ⟨awaited, p⟩) (h : run ⟨awaited, p⟩ u = some q) : q.Enclosed := by
  have quoted := @run_brace_quote _ awaited inside
  rcases List.prefix_or_prefix_of_prefix part (List.prefix_append [0x7B, 0x22] (c :: s)) with
    short | ⟨more, rfl⟩
  · have braceless : KeepsOpen [0x7B, 0x22] := keepsOpen_of_braceless (by simp)
    exact braceless short enclosed h
  · obtain ⟨o', front, back⟩ := run_append_eq_some.mp h
    rw [quoted] at front
    cases front
    cases more with
    | nil => cases back; exact enclosed
    | cons d more =>
      obtain ⟨o', first, -⟩ := run_cons_eq_some.mp back
      have behindBrace := (List.cons_prefix_cons.mp part).2
      have behindQuote := (List.cons_prefix_cons.mp behindBrace).2
      obtain rfl : d = c := (List.cons_prefix_cons.mp behindQuote).1
      exact absurd (punctuation_of_step first) key

/-- A text that starts with a brace and a key keeps every brace open that is open where a value may stand,
    since it has an outline of its own. -/
theorem keepsOpen_of_key {c : UInt8}
    (outlined : ∃ o, run ⟨[], .between⟩ (0x7B :: 0x22 :: c :: s) = some o)
    (key : ¬ Punctuation c) : KeepsOpen (0x7B :: 0x22 :: c :: s) := by
  intro o q u part enclosed h
  obtain ⟨awaited, place⟩ := o
  cases place with
  | between =>
    obtain ⟨whole, outlined⟩ := outlined
    obtain ⟨mine, own⟩ := run_prefix outlined part
    exact enclosed_of_run own enclosed h
  | behindString =>
    cases u with
    | nil => cases h; exact enclosed
    | cons d u =>
      obtain ⟨o', first, -⟩ := run_cons_eq_some.mp h
      obtain rfl : d = 0x7B := (List.cons_prefix_cons.mp part).1
      exact absurd (punctuation_of_step first) (by simp [Punctuation, isBlank])
  | inString => exact enclosed_of_key_inString (.inl rfl) key part enclosed h
  | inEscape => exact enclosed_of_key_inString (.inr rfl) key part enclosed h

-- ---------------------------------------------------------------------------
-- Reading from inside a string
-- ---------------------------------------------------------------------------

/-- One reading is in a string exactly where the other is not, and none is in an escape. -/
def Crossed (p r : Place) : Prop := p = .inString ∧ r.Outside ∨ p.Outside ∧ r = .inString

theorem Crossed.symm (h : Crossed p r) : Crossed r p :=
  h.elim (fun ⟨inside, outside⟩ => .inr ⟨outside, inside⟩)
    fun ⟨outside, inside⟩ => .inl ⟨inside, outside⟩

theorem outside_of_close {awaited : Bytes} (h : close b awaited = some q) : q.place.Outside := by
  cases awaited with
  | nil => cases h
  | cons c rest =>
    simp only [close] at h
    split at h
    · cases h; exact .inl rfl
    · cases h

/-- Outside of strings a quote opens one, and any other octet leaves the reading outside; a backslash is
    refused. -/
theorem step_outside (outside : o.place.Outside) (h : step o b = some q) :
    b = 0x22 ∧ q.place = .inString ∨ Plain b ∧ q.place.Outside := by
  obtain ⟨awaited, place⟩ := o
  rcases outside with rfl | rfl
  · simp only [step] at h
    split_ifs at h with quote brace bracket closing slash
    · cases h; exact .inl ⟨quote, rfl⟩
    · cases h; exact .inr ⟨⟨quote, by rintro rfl; cases brace⟩, .inl rfl⟩
    · cases h; exact .inr ⟨⟨quote, by rintro rfl; cases bracket⟩, .inl rfl⟩
    · exact .inr ⟨⟨quote, by rintro rfl; simp at closing⟩, outside_of_close h⟩
    · cases h; exact .inr ⟨⟨quote, slash⟩, .inl rfl⟩
  · have plain : Plain b := by
      have := punctuation_of_step h
      constructor
      · rintro rfl; simp [Punctuation, isBlank] at this
      · rintro rfl; simp [Punctuation, isBlank] at this
    simp only [step] at h
    split_ifs at h
    · cases h; exact .inr ⟨plain, .inr rfl⟩
    · cases h; exact .inr ⟨plain, .inl rfl⟩
    · exact .inr ⟨plain, outside_of_close h⟩

theorem crossed_step_left (inside : o.place = .inString) (outside : o'.place.Outside)
    (first : step o b = some q) {q' : Outline} (second : step o' b = some q') :
    Crossed q.place q'.place := by
  obtain ⟨awaited, place⟩ := o
  cases inside
  rcases step_outside outside second with ⟨rfl, opened⟩ | ⟨plain, stays⟩
  · cases first
    exact .inr ⟨.inr rfl, opened⟩
  · simp only [step, plain.1, plain.2, if_false] at first
    cases first
    exact .inl ⟨rfl, stays⟩

/-- Two readings that are crossed stay so. -/
theorem Crossed.step {q' : Outline} (h : Crossed o.place o'.place) (first : step o b = some q)
    (second : step o' b = some q') : Crossed q.place q'.place := by
  rcases h with ⟨inside, outside⟩ | ⟨outside, inside⟩
  · exact crossed_step_left inside outside first second
  · exact (crossed_step_left inside outside second first).symm

theorem Crossed.run {q' : Outline} (h : Crossed o.place o'.place) (first : run o s = some q)
    (second : run o' s = some q') : Crossed q.place q'.place := by
  induction s generalizing o o' with
  | nil =>
    cases first
    cases second
    exact h
  | cons b s ih =>
    obtain ⟨m, one, others⟩ := run_cons_eq_some.mp first
    obtain ⟨m', one', others'⟩ := run_cons_eq_some.mp second
    exact ih (h.step one one') others others'

end Outline

end Overseer.Json
