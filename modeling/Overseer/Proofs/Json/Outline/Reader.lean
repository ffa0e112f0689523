-- SUMMARY: What a reader takes from a text has a balanced outline, and every key of an object opens outside of strings.
import Overseer.Json.Reader
import Overseer.Proofs.Json.Locality.Value
import Overseer.Proofs.Json.Outline
import Overseer.Proofs.Text.Utf8

/-!
# Outlines of what is read

Every value that the reader takes closes what it opens and nothing else. An object is closed by the first
brace that closes it in outline (`object_outline`), so a text that keeps braces open cannot be part of an
object that began in front of it (`object_within`).
-/

namespace Overseer.Json

open Outline

variable {α β : Type} {s t rest used : Bytes} {b : UInt8} {p q : Place}

-- ---------------------------------------------------------------------------
-- Numbers and literals
-- ---------------------------------------------------------------------------

/-- `read` consumes only octets that leave an outline as it is. -/
def ConsumesInert (read : Bytes → Answer α) : Prop :=
  ∀ ⦃s rest : Bytes⦄ ⦃a : α⦄, read s = .ok (a, rest) →
    ∃ used, s = used ++ rest ∧ ∀ b ∈ used, Inert b

theorem ConsumesInert.map {read : Bytes → Answer α} (h : ConsumesInert read) (f : α → β) :
    ConsumesInert fun s => (read s).map f := by
  intro s rest b eq
  obtain ⟨a, found, rfl⟩ := Answer.map_ok eq
  exact h found

/-- One inert octet, and then what an inert reader consumes. -/
theorem ConsumesInert.behind {read : Bytes → Answer α} (h : ConsumesInert read) (inert : Inert b)
    {a : α} (eq : read s = .ok (a, rest)) :
    ∃ used, b :: s = used ++ rest ∧ ∀ c ∈ used, Inert c := by
  obtain ⟨used, rfl, all⟩ := h eq
  refine ⟨b :: used, rfl, ?_⟩
  simpa using ⟨inert, all⟩

theorem consumesInert_word {letters : Bytes} (inert : ∀ b ∈ letters, Inert b) :
    ConsumesInert (word letters) := by
  intro s rest a h
  refine ⟨letters, ?_, inert⟩
  fun_induction word letters s with
  | case1 => cases h; rfl
  | case2 | case4 => cases h
  | case3 letters b s ih =>
    rw [List.cons_append, ← ih (fun c mem => inert c (by simp [mem])) h]

namespace Numeral

theorem inert_of_digit (h : isDigit b) : Inert b := by
  refine ⟨?_, ?_, ?_, ?_, ?_, ?_⟩ <;> (rintro rfl; exact absurd h (by decide))

theorem inert_of_exponentMark (h : isExponentMark b) : Inert b := by
  simp only [isExponentMark, Bool.or_eq_true, decide_eq_true_eq] at h
  rcases h with rfl | rfl <;> decide

/-- The digits at the front of a text are inert, and so is what is consumed of what follows them. -/
theorem inert_digits (h : ∃ used, (digits s).2 = used ++ rest ∧ ∀ c ∈ used, Inert c) :
    ∃ used, s = used ++ rest ∧ ∀ c ∈ used, Inert c := by
  obtain ⟨used, split, inert⟩ := h
  refine ⟨(digits s).1 ++ used, ?_, ?_⟩
  · rw [List.append_assoc, ← split, digits_split]
  · intro c mem
    rcases List.mem_append.mp mem with digit | later
    · exact inert_of_digit (isDigit_of_mem_digits digit)
    · exact inert c later

theorem sign_inert (s : Bytes) : ∃ used, s = used ++ (sign s).2 ∧ ∀ c ∈ used, Inert c := by
  unfold sign
  split
  · rename_i b s
    split_ifs with plus minus
    · exact ⟨[b], rfl, by simp [plus, Inert]⟩
    · exact ⟨[b], rfl, by simp [minus, Inert]⟩
    · exact ⟨[], rfl, by simp⟩
  · exact ⟨[], rfl, by simp⟩

theorem consumesInert_scaled (significand : Nat) (exponent : Int) :
    ConsumesInert (scaled significand exponent) := by
  intro s rest x h
  exact ⟨[], by rw [scaled_rest h]; rfl, by simp⟩

theorem consumesInert_exponentPart (significand : Nat) (exponent : Int) :
    ConsumesInert (exponentPart significand exponent) := by
  intro s rest x h
  obtain ⟨signs, split, inert⟩ := sign_inert s
  unfold exponentPart at h
  simp only at h
  split at h
  · cases h
  rename_i b t start
  split at h
  · have ends : rest = (digits (b :: t)).2 := by
      split at h
      · exact scaled_rest h
      · split at h
        · cases h
        · cases h; rfl
    have written : ∃ used, b :: t = used ++ rest ∧ ∀ c ∈ used, Inert c :=
      inert_digits ⟨[], ends ▸ rfl, by simp⟩
    obtain ⟨used, same, inert'⟩ := written
    refine ⟨signs ++ used, ?_, ?_⟩
    · rw [List.append_assoc, ← same, ← start, ← split]
    · intro c mem
      rcases List.mem_append.mp mem with early | late
      · exact inert c early
      · exact inert' c late
  · cases h

theorem consumesInert_tail (significand : Nat) (exponent : Int) :
    ConsumesInert (tail significand exponent) := by
  intro s rest x h
  unfold tail at h
  split at h
  · split at h
    · rename_i mark
      exact (consumesInert_exponentPart _ _).behind (inert_of_exponentMark mark) h
    · exact consumesInert_scaled _ _ h
  · exact consumesInert_scaled _ _ h

theorem consumesInert_fractionPart (significand : Nat) (exponent : Int) :
    ConsumesInert (fractionPart significand exponent) := by
  intro s rest x h
  by_cases none : (digits s).1 = []
  · obtain ⟨why, refused⟩ := fractionPart_of_none none
    rw [refused] at h
    cases h
  · rw [fractionPart_of_digits none] at h
    exact inert_digits (consumesInert_tail _ _ h)

theorem consumesInert_continued (negative : Bool) (significand excess : Nat) :
    ConsumesInert (continued negative significand excess) := by
  intro s rest n h
  have whole : (Except.ok (whole negative significand, s) : Answer Number) = .ok (n, rest) →
      ∃ used, s = used ++ rest ∧ ∀ c ∈ used, Inert c := by
    intro eq
    cases eq
    exact ⟨[], rfl, by simp⟩
  unfold continued at h
  split at h
  · rename_i b t
    split_ifs at h with point mark integral
    · exact ((consumesInert_fractionPart _ _).map _).behind (by subst point; decide) h
    · exact ((consumesInert_exponentPart _ _).map _).behind (inert_of_exponentMark mark) h
    · exact whole h
    · exact (consumesInert_scaled _ _).map _ h
  · split_ifs at h with integral
    · exact whole h
    · exact (consumesInert_scaled _ _).map _ h

theorem consumesInert_unsigned (negative : Bool) : ConsumesInert (unsigned negative) := by
  intro s rest n h
  unfold unsigned at h
  split at h
  · cases h
  rename_i b t
  split_ifs at h with zero digit
  · have answer : continued negative 0 0 t = .ok (n, rest) := by
      split at h
      · split_ifs at h
        exact h
      · exact h
    exact (consumesInert_continued negative 0 0).behind (by subst zero; decide) answer
  · exact inert_digits (consumesInert_continued _ _ _ h)

theorem consumesInert_read : ConsumesInert read := by
  intro s rest n h
  unfold read at h
  split at h
  · cases h
  · split_ifs at h with minus
    · exact (consumesInert_unsigned true).behind (by subst minus; decide) h
    · exact consumesInert_unsigned false h

end Numeral

-- ---------------------------------------------------------------------------
-- Strings
-- ---------------------------------------------------------------------------

namespace Text

theorem plain_of_hexDigit {n : Nat} (h : hexDigit? b = some n) : Plain b := by
  constructor <;> (rintro rfl; cases h)

theorem hexQuad_balanced {n : Nat} (h : hexQuad s = .ok (n, rest)) :
    ∃ used, s = used ++ rest ∧ Balanced .inString used .inString := by
  unfold hexQuad at h
  split at h
  · rename_i a b c d after
    split at h
    · rename_i first second third fourth
      cases h
      refine ⟨[a, b, c, d], rfl, balanced_plain ?_⟩
      simpa using ⟨plain_of_hexDigit first, plain_of_hexDigit second, plain_of_hexDigit third,
        plain_of_hexDigit fourth⟩
    · cases h
  · cases h

theorem trailing_balanced {high : Nat} {octets : Bytes} (h : trailing high s = .ok (octets, rest)) :
    ∃ used, s = used ++ rest ∧ Balanced .inString used .inString := by
  unfold trailing at h
  split at h
  · cases h
  rename_i b s
  split_ifs at h with slash
  · split at h
    · cases h
    rename_i u s
    split_ifs at h with letter
    · split at h
      · cases h
      rename_i quad
      split_ifs at h
      obtain ⟨used, rfl, balanced⟩ := hexQuad_balanced quad
      obtain ⟨-, rfl⟩ := Prod.mk.inj (Except.ok.inj h)
      rw [not_not] at slash letter
      subst slash letter
      exact ⟨0x5C :: 0x75 :: used, rfl, .cons rfl (.cons rfl balanced)⟩

/-- An escape leads back into its string. -/
theorem escape_balanced {octets : Bytes} (h : escape s = .ok (octets, rest)) :
    ∃ used, s = used ++ rest ∧ Balanced .inEscape used .inString := by
  unfold escape at h
  split at h
  · cases h
  rename_i b s
  split_ifs at h with letter
  · split at h
    · cases h
    rename_i quad
    obtain ⟨used, rfl, balanced⟩ := hexQuad_balanced quad
    split_ifs at h with low high
    · obtain ⟨second, rfl, follows⟩ := trailing_balanced h
      exact ⟨b :: (used ++ second), by simp, .cons rfl (balanced.append follows)⟩
    · obtain ⟨-, rfl⟩ := Prod.mk.inj (Except.ok.inj h)
      exact ⟨b :: used, rfl, .cons rfl balanced⟩
  · split at h
    · cases h
      exact ⟨[b], rfl, rfl⟩
    · cases h

theorem body_balanced {found octets : Bytes} (h : body found s = .ok (octets, rest)) :
    ∃ used, s = used ++ rest ∧ Balanced .inString used .behindString := by
  fun_induction body found s with
  | case1 | case3 | case5 => cases h
  | case2 found s =>
    cases h
    exact ⟨[0x22], rfl, rfl⟩
  | case4 found s octets' rest' escaped _ ih =>
    obtain ⟨used, rfl, within⟩ := escape_balanced escaped
    obtain ⟨tail, rfl, follows⟩ := ih h
    exact ⟨0x5C :: (used ++ tail), by simp, .cons rfl (within.append follows)⟩
  | case6 found b s quote slash control ih =>
    obtain ⟨used, rfl, follows⟩ := ih h
    refine ⟨b :: used, rfl, .cons ?_ follows⟩
    simp [Outline.step, quote, slash]

/-- What was found before comes first. -/
theorem body_found {found octets : Bytes} (h : body found s = .ok (octets, rest)) :
    found.reverse <+: octets := by
  fun_induction body found s with
  | case1 | case3 | case5 => cases h
  | case2 found s =>
    cases h
    exact List.prefix_rfl
  | case4 found s octets' rest' escaped _ ih =>
    rw [List.reverse_append] at ih
    exact (List.prefix_append _ _).trans (ih h)
  | case6 found b s _ _ _ ih =>
    rw [List.reverse_cons] at ih
    exact (List.prefix_append _ _).trans (ih h)

/-- A string that starts with a plain octet below 128 starts with its character. -/
theorem read_head {text : String} (single : b.toNat < 0x80) (plain : Plain b)
    (h : read (b :: s) = .ok (text, rest)) : text.toList.head? = some (Char.ofNat b.toNat) := by
  unfold read at h
  split at h
  · cases h
  rename_i octets rest' found
  split at h
  · rename_i decoded
    cases h
    by_cases control : b < 0x20
    · rw [body, if_neg plain.1, if_neg plain.2, if_pos control] at found
      cases found
    · rw [body_plain plain.1 plain.2 control] at found
      obtain ⟨others, rfl⟩ := body_found found
      obtain ⟨cs, characters, rfl⟩ := Option.map_eq_some_iff.mp decoded
      rw [String.toList_ofList]
      exact Utf8.decode?_head single characters
  · cases h

/-- A string leads behind its closing quote. -/
theorem read_balanced {text : String} (h : read s = .ok (text, rest)) :
    ∃ used, s = used ++ rest ∧ Balanced .inString used .behindString := by
  unfold read at h
  split at h
  · cases h
  rename_i found
  split at h
  · cases h
    exact body_balanced found
  · cases h

end Text

-- ---------------------------------------------------------------------------
-- Lists
-- ---------------------------------------------------------------------------

/-- Whatever `read` takes is balanced. -/
def TakesBalanced (read : Bytes → Answer α) : Prop :=
  ∀ ⦃s rest : Bytes⦄ ⦃a : α⦄, read s = .ok (a, rest) →
    ∃ used q, s = used ++ rest ∧ q.Outside ∧ Balanced .between used q

theorem ConsumesInert.takesBalanced {read : Bytes → Answer α} (h : ConsumesInert read) :
    TakesBalanced read := by
  intro s rest a eq
  obtain ⟨used, split, inert⟩ := h eq
  exact ⟨used, .between, split, .inl rfl, balanced_inert inert⟩

/-- White space is passed over without a trace in the outline. -/
theorem skipBlanks_balanced (h : skipBlanks s = b :: t) :
    ∃ blanks, s = blanks ++ b :: t ∧ ∀ {p : Place}, p.Outside → Balanced p blanks p := by
  refine ⟨s.takeWhile isBlank, ?_, fun outside => ?_⟩
  · rw [← h, skipBlanks, List.takeWhile_append_dropWhile]
  · exact balanced_blanks outside fun c mem => List.mem_takeWhile_imp mem

theorem nextElement_balanced {first found : Bool} (outside : p.Outside)
    (start : first → p = .between) (h : nextElement first s = .ok (found, rest)) :
    ∃ used, s = used ++ rest ∧ ∃ q, q.Outside ∧ Balanced p used q ∧ (found → q = .between) := by
  unfold nextElement at h
  split at h
  · cases h
  rename_i b t begins
  obtain ⟨blanks, rfl, passed⟩ := skipBlanks_balanced begins
  split_ifs at h with bracket isFirst comma
  · cases h
    exact ⟨blanks, rfl, p, outside, passed outside, by simp⟩
  · cases h
    exact ⟨blanks, rfl, p, outside, passed outside, fun _ => start isFirst⟩
  · split at h
    · cases h
    rename_i c after next
    obtain ⟨blanks', rfl, passed'⟩ := skipBlanks_balanced next
    split_ifs at h with closing
    cases h
    have separated := balanced_separator outside (.inl comma)
    refine ⟨blanks ++ ([b] ++ blanks'), by simp, .between, .inl rfl, ?_, by simp⟩
    exact (passed outside).append (separated.append (passed' (.inl rfl)))

theorem elements_balanced {element : Reader α} (inner : TakesBalanced element.run) {found as : List α}
    {first : Bool} (outside : p.Outside) (start : first → p = .between)
    (h : elements element found first s = .ok (as, rest)) :
    ∃ used q, s = used ++ 0x5D :: rest ∧ q.Outside ∧ Balanced p used q := by
  fun_induction elements element found first s generalizing p with
  | case1 | case3 => cases h
  | case2 found first s rest' next =>
    obtain ⟨t, rfl⟩ := nextElement_closing next
    obtain ⟨used, rfl, q, ends, balanced, -⟩ := nextElement_balanced outside start next
    cases h
    exact ⟨used, q, rfl, ends, balanced⟩
  | case4 found first s rest' next a after read ih =>
    obtain ⟨before, rfl, q, -, leads, between⟩ := nextElement_balanced outside start next
    obtain ⟨value, r, rfl, ends, balanced⟩ := inner read
    obtain ⟨used, place, rfl, closes, later⟩ := ih ends (by simp) h
    rw [between rfl] at leads
    exact ⟨before ++ (value ++ used), place, by simp, closes, leads.append (balanced.append later)⟩

-- ---------------------------------------------------------------------------
-- Objects
-- ---------------------------------------------------------------------------

/-- In `u`, with `after` behind it, a string opens that is read as this key. -/
def OpensKey (p : Place) (u after : Bytes) (key : String) : Prop :=
  ∃ before behind rest, u = before ++ 0x22 :: behind ∧ Balanced p before .between ∧
    Text.read (behind ++ after) = .ok (key, rest)

theorem OpensKey.later {u after : Bytes} {key : String} (leads : Balanced p s q)
    (h : OpensKey q u after key) : OpensKey p (s ++ u) after key := by
  obtain ⟨before, behind, rest, rfl, between, read⟩ := h
  exact ⟨s ++ before, behind, rest, by simp, leads.append between, read⟩

/-- A key opens behind the brace or a comma. -/
theorem nextKey_balanced {first : Bool} (outside : p.Outside) (start : first → p = .between)
    (h : nextKey first s = .ok (true, rest)) :
    ∃ used, s = used ++ 0x22 :: rest ∧ Balanced p used .between := by
  unfold nextKey at h
  split at h
  · cases h
  rename_i b t begins
  obtain ⟨blanks, rfl, passed⟩ := skipBlanks_balanced begins
  split_ifs at h with brace isFirst quote comma
  · cases h
  · cases h
    exact ⟨blanks, by rw [quote], start isFirst ▸ passed outside⟩
  · split at h
    · cases h
    rename_i c after next
    obtain ⟨blanks', rfl, passed'⟩ := skipBlanks_balanced next
    split_ifs at h with quote closing
    cases h
    have separated := balanced_separator outside (.inl comma)
    refine ⟨blanks ++ ([b] ++ blanks'), by simp [quote], ?_⟩
    exact (passed outside).append (separated.append (passed' (.inl rfl)))

theorem nextKey_closing_balanced {first : Bool} (outside : p.Outside)
    (h : nextKey first s = .ok (false, rest)) :
    ∃ used t, s = used ++ rest ∧ rest = 0x7D :: t ∧ Balanced p used p := by
  unfold nextKey at h
  split at h
  · cases h
  rename_i b t' begins
  obtain ⟨blanks, rfl, passed⟩ := skipBlanks_balanced begins
  split_ifs at h with brace isFirst quote comma
  · cases h
    exact ⟨blanks, t', by rw [brace], by rw [brace], passed outside⟩
  · cases h
  · split at h
    · cases h
    · split_ifs at h
      cases h

theorem colon_balanced (h : colon s = .ok rest) :
    ∃ used, s = used ++ rest ∧ Balanced .behindString used .between := by
  unfold colon at h
  split at h
  · cases h
  rename_i b t' begins
  obtain ⟨blanks, rfl, passed⟩ := skipBlanks_balanced begins
  split_ifs at h with mark
  cases h
  have separated := balanced_separator (p := .behindString) (.inr rfl) (.inr mark)
  exact ⟨blanks ++ [b], by simp, (passed (.inr rfl)).append separated⟩

/-- The members of an object lead to its closing brace, and their keys open outside of strings. -/
theorem members_balanced {member : Reader α} (inner : TakesBalanced member.run)
    {found as : List (String × α)} {first : Bool} (outside : p.Outside) (start : first → p = .between)
    (h : members member found first s = .ok (as, rest)) :
    ∃ used q, s = used ++ 0x7D :: rest ∧ q.Outside ∧ Balanced p used q ∧
      ∀ m ∈ as, m ∈ found ∨ OpensKey p used (0x7D :: rest) m.1 := by
  fun_induction members member found first s generalizing p with
  | case1 | case3 | case4 | case5 => cases h
  | case2 found first s rest' next =>
    obtain ⟨used, t, rfl, rfl, balanced⟩ := nextKey_closing_balanced outside next
    cases h
    exact ⟨used, p, rfl, outside, balanced, fun m mem => .inl (by simpa using mem)⟩
  | case6 found first s rest' next key afterKey read _ colonEq _ after value ih =>
    obtain ⟨before, rfl, leads⟩ := nextKey_balanced outside start next
    obtain ⟨text, rfl, quoted⟩ := Text.read_balanced read
    obtain ⟨mark, rfl, separated⟩ := colon_balanced colonEq
    obtain ⟨body, r, rfl, ends, balanced⟩ := inner value
    obtain ⟨used, place, rfl, closes, later, keys⟩ := ih ends (by simp) h
    have opens : Balanced .between [0x22] .inString := rfl
    have reaches : Balanced p (before ++ ([0x22] ++ (text ++ (mark ++ body)))) r :=
      leads.append (opens.append (quoted.append (separated.append balanced)))
    refine ⟨before ++ ([0x22] ++ (text ++ (mark ++ body))) ++ used, place, by simp, closes,
      reaches.append later, fun m mem => ?_⟩
    rcases keys m mem with known | opened
    · rcases List.mem_cons.mp known with rfl | old
      · exact .inr ⟨before, text ++ (mark ++ body) ++ used, _, by simp, leads, by simpa using read⟩
      · exact .inl old
    · exact .inr (opened.later reaches)

-- ---------------------------------------------------------------------------
-- Values
-- ---------------------------------------------------------------------------

/-- What is balanced from the first octet on is so with the white space before it. -/
theorem balanced_behind (start : skipBlanks s = b :: t)
    (inner : ∃ used q, b :: t = used ++ rest ∧ q.Outside ∧ Balanced .between used q) :
    ∃ used q, s = used ++ rest ∧ q.Outside ∧ Balanced .between used q := by
  obtain ⟨blanks, rfl, passed⟩ := skipBlanks_balanced start
  obtain ⟨used, q, same, ends, balanced⟩ := inner
  exact ⟨blanks ++ used, q, by simp [same], ends, (passed (.inl rfl)).append balanced⟩

variable {v : Value}

theorem literal_balanced {letters : Bytes} {f : Unit → Value} (inert : ∀ c ∈ b :: letters, Inert c)
    (h : ((word letters t).map f) = .ok (v, rest)) :
    ∃ used q, b :: t = used ++ rest ∧ q.Outside ∧ Balanced .between used q := by
  have letters_inert := consumesInert_word fun c mem => inert c (List.mem_cons_of_mem b mem)
  obtain ⟨used, same, all⟩ := (letters_inert.map f).behind (inert b List.mem_cons_self) h
  exact ⟨used, .between, same, .inl rfl, balanced_inert all⟩

theorem takesBalanced_valueOf {nested : Option (Reader Value)}
    (inner : ∀ r ∈ nested, TakesBalanced r.run) : TakesBalanced (valueOf nested) := by
  intro s rest v h
  cases start : skipBlanks s with
  | nil => rw [valueOf_nil start] at h; cases h
  | cons b t =>
    apply balanced_behind start
    rcases startsValue_cases b with rfl | rfl | rfl | number | rfl | rfl | rfl | other
    · rw [valueOf_null start] at h
      exact literal_balanced (by simp [Inert, nullTail]) h
    · rw [valueOf_true start] at h
      exact literal_balanced (by simp [Inert, trueTail]) h
    · rw [valueOf_false start] at h
      exact literal_balanced (by simp [Inert, falseTail]) h
    · rw [valueOf_number start number] at h
      exact (Numeral.consumesInert_read.map _).takesBalanced h
    · rw [valueOf_string start] at h
      obtain ⟨_, read, -⟩ := Answer.map_ok h
      obtain ⟨used, rfl, balanced⟩ := Text.read_balanced read
      exact ⟨0x22 :: used, .behindString, rfl, .inr rfl, .cons rfl balanced⟩
    · cases nested with
      | none => rw [valueOf_tooDeep start (.inl rfl)] at h; cases h
      | some element =>
        rw [valueOf_array start] at h
        obtain ⟨_, read, -⟩ := Answer.map_ok h
        obtain ⟨used, q, rfl, outside, balanced⟩ :=
          elements_balanced (inner element rfl) (.inl rfl) (fun _ => rfl) read
        exact ⟨0x5B :: (used ++ [0x5D]), .between, by simp, .inl rfl, balanced.brackets outside⟩
    · cases nested with
      | none => rw [valueOf_tooDeep start (.inr rfl)] at h; cases h
      | some member =>
        rw [valueOf_object start] at h
        obtain ⟨_, read, -⟩ := Answer.map_ok h
        obtain ⟨used, q, rfl, outside, balanced, -⟩ :=
          members_balanced (inner member rfl) (.inl rfl) (fun _ => rfl) read
        exact ⟨0x7B :: (used ++ [0x7D]), .between, by simp, .inl rfl, balanced.braces outside⟩
    · rw [valueOf_other start other] at h; cases h

theorem takesBalanced_value (depth : Nat) : TakesBalanced (Reader.value depth).run := by
  induction depth with
  | zero =>
    have none : ∀ r ∈ (none : Option (Reader Value)), TakesBalanced r.run := fun _ mem => by cases mem
    exact takesBalanced_valueOf none
  | succ depth ih =>
    have nested : ∀ r ∈ some (Reader.value depth), TakesBalanced r.run := by
      intro r mem
      cases mem
      exact ih
    exact takesBalanced_valueOf nested

/-- An object that is read at a brace ends at the brace that closes it in outline, and each of its keys is
    a string that opens in between. -/
theorem object_outline (h : Reader.anyValue.run (0x7B :: t) = .ok (v, rest)) :
    ∃ u q found, t = u ++ 0x7D :: rest ∧ q.Outside ∧ Balanced .between u q ∧
      v = .object (Entries.ofList found) ∧
      ∀ m ∈ found, OpensKey .between u (0x7D :: rest) m.1 := by
  have start : skipBlanks (0x7B :: t) = 0x7B :: t := rfl
  have same : Reader.anyValue.run (0x7B :: t)
      = (members (.value 126) [] true t).map fun found => .object (Entries.ofList found) :=
    valueOf_object start
  rw [same] at h
  obtain ⟨found, read, rfl⟩ := Answer.map_ok h
  obtain ⟨u, q, split, outside, balanced, keys⟩ :=
    members_balanced (takesBalanced_value 126) (.inl rfl) (fun _ => rfl) read
  refine ⟨u, q, found, split, outside, balanced, rfl, fun m mem => ?_⟩
  simpa using keys m mem

/-- An object does not reach into a text that keeps braces open. -/
theorem object_within {fragment following : Bytes} (seals : KeepsOpen following)
    (h : Reader.anyValue.run (0x7B :: (fragment ++ following)) = .ok (v, rest)) :
    ∃ used left, fragment = used ++ left ∧ rest = left ++ following ∧
      ∀ more, Reader.anyValue.run (0x7B :: (used ++ more)) = .ok (v, more) := by
  have start : skipBlanks (0x7B :: (fragment ++ following)) = 0x7B :: (fragment ++ following) := rfl
  obtain ⟨whole, split, takes⟩ := object_takes start h
  obtain ⟨u, q, -, eq, outside, balanced, -⟩ := object_outline h
  obtain rfl : whole = 0x7B :: (u ++ [0x7D]) := by
    rw [eq] at split
    exact List.append_cancel_right (split.symm.trans (by simp))
  have closed : run ⟨[0x7D], .between⟩ (u ++ [0x7D]) = some ⟨[], .between⟩ :=
    run_append_eq_some.mpr ⟨_, run_inside [0x7D] balanced, by simp [inside, step_closing outside]⟩
  have cut : fragment ++ following = (u ++ [0x7D]) ++ rest := by simpa using eq
  rcases List.append_eq_append_iff.mp cut with ⟨beyond, split', rfl⟩ | ⟨left, rfl, rfl⟩
  · have part : fragment <+: u ++ [0x7D] := split' ▸ List.prefix_append fragment beyond
    rcases List.prefix_concat_iff.mp part with rfl | inner
    · have nothing : beyond = [] := by simpa using split'
      subst nothing
      exact ⟨_, [], by simp, rfl, takes⟩
    · rw [split'] at closed
      obtain ⟨o, front, back⟩ := run_append_eq_some.mp closed
      obtain ⟨mine, own⟩ := run_prefix balanced inner
      have enclosed := enclosed_of_run own ⟨[], rfl⟩ front
      obtain ⟨inner, eq⟩ := seals (List.prefix_append beyond rest) enclosed back
      simp at eq
  · exact ⟨u ++ [0x7D], left, rfl, rfl, takes⟩

end Overseer.Json
