-- SUMMARY: What is decoded from a value is decoded from every text of it.
import Mathlib.Tactic.SplitIfs
import Overseer.Json.Decoder
import Overseer.Proofs.Json.Locality.Value
import Overseer.Proofs.Json.Skipped

/-!
# Texts and values

A decoder reads a text by its own rules, octet by octet, and a value by others. They agree: where a value is
decoded, each of its texts is decoded to the same. This holds of scalars and is kept by options, lists, tables,
variants and records, so it holds of whatever is made of these.
-/

namespace Overseer

section Results

variable {α β ε : Type} {f : α → Except ε β} {g : α → β} {e : Except ε α} {a : α} {as : List α} {b : β} {xs : List β}

theorem except_map_eq_ok : e.map g = .ok b ↔ ∃ a, e = .ok a ∧ b = g a := by
  cases e with
  | error why => exact ⟨nofun, nofun⟩
  | ok a => exact ⟨fun same => ⟨a, rfl, (Except.ok.inj same).symm⟩, fun ⟨_, there, same⟩ => by cases there; rw [same]; rfl⟩

theorem mapM_cons_eq_ok :
    (a :: as).mapM f = .ok xs ↔ ∃ y ys, f a = .ok y ∧ as.mapM f = .ok ys ∧ xs = y :: ys := by
  rw [List.mapM_cons]
  constructor
  · intro all
    cases first : f a with
    | error why =>
      rw [first] at all
      cases all
    | ok y =>
      cases others : as.mapM f with
      | error why =>
        rw [first, others] at all
        cases all
      | ok ys =>
        rw [first, others] at all
        cases all
        exact ⟨y, ys, rfl, rfl, rfl⟩
  · rintro ⟨y, ys, first, others, rfl⟩
    rw [first, others]
    rfl

end Results

namespace Json

open Numeral (Ends)

variable {α β σ : Type} {b s t rest more : Bytes} {c : UInt8} {v : Value}

-- ---------------------------------------------------------------------------
-- Readers
-- ---------------------------------------------------------------------------

theorem nextElement_first (blanks : Blanks b) (solid : ¬ isBlank c) (other : c ≠ 0x5D) (t : Bytes) :
    nextElement true (b ++ c :: t) = .ok (true, c :: t) := by
  simp only [nextElement, blanks.skip_cons solid, if_neg other, if_true]

theorem nextElement_comma {d : Bytes} (blanks : Blanks b) (behind : Blanks d) (solid : ¬ isBlank c)
    (other : c ≠ 0x5D) (t : Bytes) : nextElement false (b ++ 0x2C :: (d ++ c :: t)) = .ok (true, c :: t) := by
  have comma : ¬ isBlank 0x2C := by decide
  simp [nextElement, blanks.skip_cons comma, behind.skip_cons solid, other]

theorem nextElement_closing_blanks (first : Bool) (blanks : Blanks b) (t : Bytes) :
    nextElement first (b ++ 0x5D :: t) = .ok (false, 0x5D :: t) := by
  have closing : ¬ isBlank 0x5D := by decide
  simp [nextElement, blanks.skip_cons closing]

theorem nextKey_first (blanks : Blanks b) (t : Bytes) : nextKey true (b ++ 0x22 :: t) = .ok (true, t) := by
  have quote : ¬ isBlank 0x22 := by decide
  simp [nextKey, blanks.skip_cons quote]

theorem nextKey_comma {d : Bytes} (blanks : Blanks b) (behind : Blanks d) (t : Bytes) :
    nextKey false (b ++ 0x2C :: (d ++ 0x22 :: t)) = .ok (true, t) := by
  have comma : ¬ isBlank 0x2C := by decide
  have quote : ¬ isBlank 0x22 := by decide
  simp [nextKey, blanks.skip_cons comma, behind.skip_cons quote]

theorem nextKey_closing_blanks (first : Bool) (blanks : Blanks b) (t : Bytes) :
    nextKey first (b ++ 0x7D :: t) = .ok (false, 0x7D :: t) := by
  have closing : ¬ isBlank 0x7D := by decide
  simp [nextKey, blanks.skip_cons closing]

-- ---------------------------------------------------------------------------
-- Agreement
-- ---------------------------------------------------------------------------

namespace Decoder

/-- What is decoded from a value is decoded from its texts, behind any white space. -/
def Agrees (d : Decoder α) : Prop :=
  ∀ ⦃v t a⦄, Lays v t → d.value v = .ok a →
    ∀ ⦃b more⦄, Blanks b → Ends more → d.text.run (b ++ (t ++ more)) = .ok (a, more)

variable {d : Decoder α}

theorem Agrees.ofText {a : α} (agrees : d.Agrees) (document : Document v t) (decoded : d.value v = .ok a) :
    d.ofText t = .ok a := by
  obtain ⟨before, lays, behind⟩ := document
  rw [Decoder.ofText, Reader.document, agrees lays decoded before behind.ends_all]
  simp only [behind.skip_all]

theorem Agrees.map (agrees : d.Agrees) (f : α → β) : (d.map f).Agrees := by
  intro v t a lays decoded b more blanks ends
  obtain ⟨x, found, rfl⟩ := except_map_eq_ok.mp decoded
  simp only [Decoder.map, Reader.map, agrees lays found blanks ends]
  rfl

theorem Agrees.refine (agrees : d.Agrees) (f : α → Except Mismatch β) : (d.refine f).Agrees := by
  intro v t a lays decoded b more blanks ends
  cases found : d.value v with
  | error why =>
    simp only [Decoder.refine, found] at decoded
    cases decoded
  | ok x =>
    simp only [Decoder.refine, found] at decoded
    simp only [Decoder.refine, Reader.refine, agrees lays found blanks ends, decoded]

-- ---------------------------------------------------------------------------
-- Scalars
-- ---------------------------------------------------------------------------

theorem stringFor_run {expected s : String} (spelled : Spelled s t) (blanks : Blanks b) (more : Bytes) :
    (stringFor expected).text.run (b ++ 0x22 :: (t ++ more)) = .ok (s, more) := by
  have front := blanks.skip_cons (by decide : ¬ isBlank 0x22)
  simp only [stringFor, Reader.leading, front, if_true, spelled more]

theorem stringFor_agrees (expected : String) : (stringFor expected).Agrees := by
  intro v t a lays decoded b more blanks _
  cases lays with
  | null | bool | number | array | object => cases decoded
  | string spelled =>
    cases decoded
    exact stringFor_run spelled blanks more

theorem string_agrees : string.Agrees := stringFor_agrees _

theorem path_agrees : path.Agrees := stringFor_agrees _

theorem bool_agrees : bool.Agrees := by
  intro v t a lays decoded b more blanks ends
  cases lays with
  | null | number | string | array | object => cases decoded
  | bool truth =>
    cases decoded
    cases a with
    | true =>
      have front := blanks.skip_cons (by decide : ¬ isBlank 0x74)
      have read := (exact_word trueTail).whole more
      simp [bool, Reader.leading, boolWord, front, read, Answer.map]
    | false =>
      have front := blanks.skip_cons (by decide : ¬ isBlank 0x66)
      have read := (exact_word falseTail).whole more
      simp [bool, Reader.leading, boolWord, front, read, Answer.map]

theorem unit_agrees : unit.Agrees := by
  intro v t a lays decoded b more blanks ends
  cases lays with
  | bool | number | string | array | object => cases decoded
  | null =>
    have front := blanks.skip_cons (by decide : ¬ isBlank 0x6E)
    have read := (exact_word nullTail).whole more
    simp only [unit, Reader.leading, List.cons_append, front, if_true, read]

theorem number_agrees (expected : String) : (number expected).Agrees := by
  intro v t a lays decoded b more blanks ends
  cases lays with
  | null | bool | string | array | object => cases decoded
  | number read =>
    cases decoded
    have whole := read more ends
    obtain ⟨c, s, rfl, starts⟩ := startsNumber_of_read (List.append_nil t ▸ read [] nofun)
    have front := blanks.skip_cons (solid_of_startsNumber starts)
    rw [List.cons_append] at whole ⊢
    simp only [number, Reader.leading, front, if_pos starts, whole]

theorem integer_agrees (low high : Int) (expected : String) : (integer low high expected).Agrees :=
  (number_agrees expected).refine _

theorem unsigned_agrees (bits : Nat) : (unsigned bits).Agrees := (integer_agrees _ _ _).map _

theorem uint64_agrees : uint64.Agrees := (unsigned_agrees 64).map _

theorem int32_agrees : int32.Agrees := (integer_agrees _ _ _).map _

-- ---------------------------------------------------------------------------
-- Options and variants
-- ---------------------------------------------------------------------------

theorem option_present (other : v ≠ .null) : (option d).value v = (d.value v).map some := by
  cases v with
  | null => exact absurd rfl other
  | bool | number | string | array | object => rfl

theorem Agrees.option (agrees : d.Agrees) : (option d).Agrees := by
  intro v t a lays decoded b more blanks ends
  obtain ⟨c, s, rfl, solid, named⟩ := lays.starts
  have front := blanks.skip_cons solid
  by_cases null : v = .null
  · subst null
    cases decoded
    cases lays
    have read := (exact_word nullTail).whole more
    simp only [Decoder.option, Reader.leading, List.cons_append, front, if_true, read]
    rfl
  · have other : c ≠ 0x6E := fun first => null (named first)
    rw [option_present null] at decoded
    obtain ⟨x, found, rfl⟩ := except_map_eq_ok.mp decoded
    have read := agrees lays found .nil ends
    rw [List.nil_append, List.cons_append] at read
    simp only [Decoder.option, Reader.leading, List.cons_append, front, if_neg other, read]
    rfl

theorem closeVariant_brace (a : α) (blanks : Blanks b) (more : Bytes) :
    closeVariant a (b ++ 0x7D :: more) = .ok (a, more) := by
  have brace : ¬ isBlank 0x7D := by decide
  simp only [closeVariant, blanks.skip_cons brace, if_true]

/-- The name of a variant, wherever it stands. -/
theorem name_run {variants : List (String × α)} {other : Option α} {s : String} {a : α}
    (known : resolve variants other s = .ok a) (spelled : Spelled s t) (blanks : Blanks b) (more : Bytes) :
    ((stringFor "variant identifier").text.refine (resolve variants other)).run (b ++ 0x22 :: (t ++ more))
      = .ok (a, more) := by
  simp only [Reader.refine, stringFor_run spelled blanks more, known]

theorem variantObject_run {variants : List (String × α)} {other : Option α} {m : String × Value} {a : α}
    (lays : Enclosed (Member Lays) 0x7D [m] t) (known : resolve variants other m.1 = .ok a)
    (empty : unit.value m.2 = .ok ()) (more : Bytes) :
    variantObject ((stringFor "variant identifier").text.refine (resolve variants other)) (t ++ more)
      = .ok (a, more) := by
  cases lays with
  | items before first others =>
    rename_i b t u
    have ends := others.ends (.inr rfl) more
    cases others with
    | @close c closing =>
      obtain ⟨name, ahead, behind, value⟩ := first
      rename_i key v k d e x
      rw [List.append_assoc, List.singleton_append] at ends
      have text : b ++ (0x22 :: (k ++ (d ++ 0x3A :: (e ++ x))) ++ (c ++ [0x7D])) ++ more
          = b ++ 0x22 :: (k ++ (d ++ 0x3A :: (e ++ (x ++ (c ++ 0x7D :: more))))) := by simp
      simp only [text, variantObject, name_run known name before, ahead.colon,
        unit_agrees value empty behind ends, closeVariant_brace _ closing]

/-- A variant is named by a string, or by the one key of an object that holds nothing. -/
theorem variant_agrees (variants : List (String × α)) (other : Option α) :
    (variant variants other).Agrees := by
  intro v t a lays decoded b more blanks _
  have quote := blanks.skip_cons (by decide : ¬ isBlank 0x22)
  have brace := blanks.skip_cons (by decide : ¬ isBlank 0x7B)
  cases lays with
  | null | bool | number | array => cases decoded
  | string spelled =>
    have named := name_run decoded spelled .nil more
    rw [List.nil_append] at named
    simp [variant, Reader.leading, quote, named]
  | @object ms t members =>
    rcases ms with _ | ⟨⟨key, v⟩, _ | ⟨second, others⟩⟩
    · cases decoded
    · cases known : resolve variants other key with
      | error why =>
        simp only [variant, known] at decoded
        cases decoded
      | ok found =>
        cases empty : unit.value v with
        | error why =>
          simp only [variant, known, empty] at decoded
          cases decoded
        | ok nothing =>
          simp only [variant, known, empty] at decoded
          cases decoded
          simp [variant, Reader.leading, brace, variantObject_run members known empty more]
    · cases decoded

-- ---------------------------------------------------------------------------
-- Lists and tables
-- ---------------------------------------------------------------------------

section Lists

variable {found as : List α} {vs : List Value} {a : α} {first : Bool}

/-- One element of a list, behind what leads to it. -/
theorem elements_element (lead : Bytes → Bytes) (agrees : d.Agrees) (lays : Lays v t) (ends : Ends more)
    (next : ∀ e s, ¬ isBlank e → e ≠ 0x5D → nextElement first (lead (e :: s)) = .ok (true, e :: s))
    (value : d.value v = .ok a) :
    elements d.text found first (lead (t ++ more)) = elements d.text (a :: found) false more := by
  have read := agrees lays value .nil ends
  obtain ⟨e, s, rfl, solid, other⟩ := (Skipped.passed_of_lays lays).starts
  rw [List.nil_append, List.cons_append] at read
  exact elements_step (next e _ solid other) read

theorem elements_series (agrees : d.Agrees) (series : Series Lays 0x5D vs t) (more : Bytes)
    (decoded : vs.mapM d.value = .ok as) :
    elements d.text found false (t ++ more) = .ok (found.reverse ++ as, more) := by
  induction series generalizing found as with
  | close blanks =>
    cases decoded
    rw [List.append_assoc, List.singleton_append, elements_end (nextElement_closing_blanks _ blanks more),
      List.tail_cons]
    simp
  | @more v vs b c t u before behind element others ih =>
    obtain ⟨a, rest, value, later, rfl⟩ := mapM_cons_eq_ok.mp decoded
    have text : b ++ 0x2C :: (c ++ (t ++ u)) ++ more = b ++ 0x2C :: (c ++ (t ++ (u ++ more))) := by simp
    rw [text, elements_element (fun s => b ++ 0x2C :: (c ++ s)) agrees element (others.ends (.inl rfl) more)
      (fun _ s solid other => nextElement_comma before behind solid other s) value, ih later]
    simp

theorem elements_enclosed (agrees : d.Agrees) (lays : Enclosed Lays 0x5D vs t) (more : Bytes)
    (decoded : vs.mapM d.value = .ok as) : elements d.text [] true (t ++ more) = .ok (as, more) := by
  cases lays with
  | empty blanks =>
    cases decoded
    rw [List.append_assoc, List.singleton_append, elements_end (nextElement_closing_blanks _ blanks more)]
    rfl
  | @items v vs b t u before element others =>
    obtain ⟨a, rest, value, later, rfl⟩ := mapM_cons_eq_ok.mp decoded
    have text : b ++ (t ++ u) ++ more = b ++ (t ++ (u ++ more)) := by simp
    rw [text, elements_element (b ++ ·) agrees element (others.ends (.inl rfl) more)
      (fun _ s solid other => nextElement_first before solid other s) value, elements_series agrees others more later]
    rfl

theorem Agrees.list (agrees : d.Agrees) : (list d).Agrees := by
  intro v t as lays decoded b more blanks _
  have bracket := blanks.skip_cons (by decide : ¬ isBlank 0x5B)
  cases lays with
  | null | bool | number | string | object => cases decoded
  | array items =>
    have read := elements_enclosed agrees items more decoded
    simp only [Decoder.list, Reader.leading, List.cons_append, bracket, if_true, read]

end Lists

section Tables

variable {found as : List (String × α)} {m : String × Value} {ms : List (String × Value)} {a : α} {first : Bool}

/-- One member of an object, behind what leads to its key. -/
theorem members_member (lead : Bytes → Bytes) (agrees : d.Agrees) (member : Member Lays m t) (ends : Ends more)
    (next : ∀ s, nextKey first (lead (0x22 :: s)) = .ok (true, s)) (value : d.value m.2 = .ok a) :
    members d.text found first (lead (t ++ more)) = members d.text ((m.1, a) :: found) false more := by
  obtain ⟨name, before, behind, lays⟩ := member
  rename_i key v k b c t
  have text : 0x22 :: (k ++ (b ++ 0x3A :: (c ++ t))) ++ more
      = 0x22 :: (k ++ (b ++ 0x3A :: (c ++ (t ++ more)))) := by simp
  rw [text]
  exact members_step (next _) (name _) (before.colon _) (agrees lays value behind ends)

theorem members_series (agrees : d.Agrees) (series : Series (Member Lays) 0x7D ms t) (more : Bytes)
    (decoded : (ms.mapM fun m => (d.value m.2).map fun a => (m.1, a)) = .ok as) :
    members d.text found false (t ++ more) = .ok (found.reverse ++ as, more) := by
  induction series generalizing found as with
  | close blanks =>
    cases decoded
    rw [List.append_assoc, List.singleton_append, members_end (nextKey_closing_blanks _ blanks more),
      List.tail_cons]
    simp
  | @more m ms b c t u before behind member others ih =>
    obtain ⟨p, rest, here, later, rfl⟩ := mapM_cons_eq_ok.mp decoded
    obtain ⟨a, value, rfl⟩ := except_map_eq_ok.mp here
    have text : b ++ 0x2C :: (c ++ (t ++ u)) ++ more = b ++ 0x2C :: (c ++ (t ++ (u ++ more))) := by simp
    rw [text, members_member (fun s => b ++ 0x2C :: (c ++ s)) agrees member (others.ends (.inr rfl) more)
      (nextKey_comma before behind) value, ih later]
    simp

theorem members_enclosed (agrees : d.Agrees) (lays : Enclosed (Member Lays) 0x7D ms t) (more : Bytes)
    (decoded : (ms.mapM fun m => (d.value m.2).map fun a => (m.1, a)) = .ok as) :
    members d.text [] true (t ++ more) = .ok (as, more) := by
  cases lays with
  | empty blanks =>
    cases decoded
    rw [List.append_assoc, List.singleton_append, members_end (nextKey_closing_blanks _ blanks more)]
    rfl
  | @items m ms b t u before member others =>
    obtain ⟨p, rest, here, later, rfl⟩ := mapM_cons_eq_ok.mp decoded
    obtain ⟨a, value, rfl⟩ := except_map_eq_ok.mp here
    have text : b ++ (t ++ u) ++ more = b ++ (t ++ (u ++ more)) := by simp
    rw [text, members_member (b ++ ·) agrees member (others.ends (.inr rfl) more) (nextKey_first before) value,
      members_series agrees others more later]
    rfl

theorem Agrees.dictionary (agrees : d.Agrees) : (dictionary d).Agrees := by
  intro v t entries lays decoded b more blanks _
  have brace := blanks.skip_cons (by decide : ¬ isBlank 0x7B)
  cases lays with
  | null | bool | number | string | array => cases decoded
  | object items =>
    obtain ⟨as, taken, rfl⟩ := except_map_eq_ok.mp decoded
    have read := members_enclosed agrees items more taken
    simp only [Decoder.dictionary, Reader.leading, List.cons_append, brace, if_true, read, Answer.map]

end Tables

-- ---------------------------------------------------------------------------
-- Records
-- ---------------------------------------------------------------------------

namespace RecordField

variable {fields : List (RecordField σ)} {field : RecordField σ} {record : σ} {seen : List String}
  {found : σ × List String} {key : String} {first : Bool} {start afterKey : Bytes} {set : σ → σ}
  {m : String × Value} {ms : List (String × Value)}

theorem ofObject_closing (next : nextKey first s = .ok (false, rest)) :
    ofObject fields record seen first s = .ok ((record, seen), rest.tail) := by
  rw [ofObject]
  grind

theorem ofObject_known (next : nextKey first s = .ok (true, rest)) (name : Text.read rest = .ok (key, afterKey))
    (known : find? fields key = some field) (new : seen.contains key = false)
    (separated : colon afterKey = .ok start) (read : field.decoder.text.run start = .ok (set, more)) :
    ofObject fields record seen first s = ofObject fields (set record) (key :: seen) false more := by
  conv_lhs => rw [ofObject]
  grind

theorem ofObject_unknown (next : nextKey first s = .ok (true, rest))
    (name : Text.read rest = .ok (key, afterKey)) (unknown : find? fields key = none)
    (separated : colon afterKey = .ok start) (read : Reader.skipped.run start = .ok ((), more)) :
    ofObject fields record seen first s = ofObject fields record seen false more := by
  conv_lhs => rw [ofObject]
  grind

theorem mem_of_find? (known : find? fields key = some field) : field ∈ fields :=
  List.mem_of_find?_eq_some known

/-- One member of an object, behind what leads to its key: it is read to the same effect as it is taken. -/
theorem ofObject_member (lead : Bytes → Bytes) (agree : ∀ f ∈ fields, f.decoder.Agrees)
    (member : Member Lays m t) (ends : Ends more) (next : ∀ s, nextKey first (lead (0x22 :: s)) = .ok (true, s))
    (decoded : ofMembers fields record seen (m :: ms) = .ok found) :
    ∃ record' seen', ofMembers fields record' seen' ms = .ok found ∧
      ofObject fields record seen first (lead (t ++ more)) = ofObject fields record' seen' false more := by
  obtain ⟨name, before, behind, lays⟩ := member
  rename_i key v k b c t
  have text : 0x22 :: (k ++ (b ++ 0x3A :: (c ++ t))) ++ more
      = 0x22 :: (k ++ (b ++ 0x3A :: (c ++ (t ++ more)))) := by simp
  rw [text]
  rw [ofMembers] at decoded
  split at decoded
  · rename_i unknown
    exact ⟨record, seen, decoded,
      ofObject_unknown (next _) (name _) unknown (before.colon _) (Skipped.skipped_lays lays behind ends)⟩
  rename_i field known
  split at decoded
  · cases decoded
  rename_i new
  split at decoded
  · cases decoded
  rename_i set value
  have read := agree field (mem_of_find? known) lays value behind ends
  exact ⟨set record, key :: seen, decoded,
    ofObject_known (next _) (name _) known (Bool.eq_false_iff.mpr new) (before.colon _) read⟩

theorem ofObject_series (agree : ∀ f ∈ fields, f.decoder.Agrees) (series : Series (Member Lays) 0x7D ms t)
    (more : Bytes) (decoded : ofMembers fields record seen ms = .ok found) :
    ofObject fields record seen false (t ++ more) = .ok (found, more) := by
  induction series generalizing record seen with
  | close blanks =>
    cases decoded
    rw [List.append_assoc, List.singleton_append, ofObject_closing (nextKey_closing_blanks _ blanks more),
      List.tail_cons]
  | @more _ _ b c t u before behind member others ih =>
    obtain ⟨record', seen', taken, same⟩ := ofObject_member (fun s => b ++ 0x2C :: (c ++ s)) agree member
      (others.ends (.inr rfl) more) (nextKey_comma before behind) decoded
    have text : b ++ 0x2C :: (c ++ (t ++ u)) ++ more = b ++ 0x2C :: (c ++ (t ++ (u ++ more))) := by simp
    rw [text, same]
    exact ih taken

theorem ofObject_enclosed (agree : ∀ f ∈ fields, f.decoder.Agrees) (lays : Enclosed (Member Lays) 0x7D ms t)
    (more : Bytes) (decoded : ofMembers fields record seen ms = .ok found) :
    ofObject fields record seen true (t ++ more) = .ok (found, more) := by
  cases lays with
  | empty blanks =>
    cases decoded
    rw [List.append_assoc, List.singleton_append, ofObject_closing (nextKey_closing_blanks _ blanks more),
      List.tail_cons]
  | @items _ _ b t u before member others =>
    obtain ⟨record', seen', taken, same⟩ := ofObject_member (b ++ ·) agree member
      (others.ends (.inr rfl) more) (nextKey_first before) decoded
    have text : b ++ (t ++ u) ++ more = b ++ (t ++ (u ++ more)) := by simp
    rw [text, same]
    exact ofObject_series agree others more taken

variable {name : String} {count length index : Nat} {vs : List Value} {full : σ}

theorem closeList_bracket (record : σ) (blanks : Blanks b) (more : Bytes) :
    closeList record (b ++ 0x5D :: more) = .ok (record, more) := by
  have bracket : ¬ isBlank 0x5D := by decide
  simp only [closeList, blanks.skip_cons bracket, if_true]

/-- Where the list ends, the remaining fields keep their defaults. -/
theorem ofList_closing (first : Bool) (blanks : Blanks b) (more : Bytes)
    (decoded : ofElements name count length record index fields [] = .ok full) :
    ofList name count record first index fields (b ++ 0x5D :: more) = .ok (full, more) := by
  induction fields generalizing index with
  | nil =>
    cases decoded
    exact closeList_bracket record blanks more
  | cons field fields ih =>
    rw [ofElements] at decoded
    split at decoded
    · cases decoded
    · rename_i optional
      rw [ofList, nextElement_closing_blanks first blanks]
      simp only [if_neg optional]
      exact ih decoded

/-- One element of a list, behind what leads to it. -/
theorem ofList_element (lead : Bytes → Bytes) (agree : field.decoder.Agrees) (lays : Lays v t)
    (ends : Ends more)
    (next : ∀ d s, ¬ isBlank d → d ≠ 0x5D → nextElement first (lead (d :: s)) = .ok (true, d :: s))
    (decoded : ofElements name count length record index (field :: fields) (v :: vs) = .ok full) :
    ∃ record', ofElements name count length record' (index + 1) fields vs = .ok full ∧
      ofList name count record first index (field :: fields) (lead (t ++ more))
        = ofList name count record' false (index + 1) fields more := by
  rw [ofElements] at decoded
  split at decoded
  · cases decoded
  rename_i set value
  have read := agree lays value .nil ends
  obtain ⟨d, s, rfl, solid, other⟩ := (Skipped.passed_of_lays lays).starts
  rw [List.nil_append, List.cons_append] at read
  refine ⟨set record, decoded, ?_⟩
  conv_lhs => rw [List.cons_append, ofList]
  simp only [next d _ solid other, read]

theorem ofList_series (agree : ∀ f ∈ fields, f.decoder.Agrees) (series : Series Lays 0x5D vs t) (more : Bytes)
    (decoded : ofElements name count length record index fields vs = .ok full) :
    ofList name count record false index fields (t ++ more) = .ok (full, more) := by
  induction series generalizing record index fields with
  | close blanks =>
    rw [List.append_assoc, List.singleton_append]
    exact ofList_closing false blanks more decoded
  | @more v vs b c t u before behind element others ih =>
    cases fields with
    | nil => cases decoded
    | cons field fields =>
      obtain ⟨taker, later⟩ := List.forall_mem_cons.mp agree
      obtain ⟨record', taken, same⟩ := ofList_element (fun s => b ++ 0x2C :: (c ++ s)) taker element
        (others.ends (.inl rfl) more) (fun _ s solid other => nextElement_comma before behind solid other s) decoded
      have text : b ++ 0x2C :: (c ++ (t ++ u)) ++ more = b ++ 0x2C :: (c ++ (t ++ (u ++ more))) := by simp
      rw [text, same]
      exact ih later taken

theorem ofList_enclosed (agree : ∀ f ∈ fields, f.decoder.Agrees) (lays : Enclosed Lays 0x5D vs t)
    (more : Bytes) (decoded : ofElements name count length record index fields vs = .ok full) :
    ofList name count record true index fields (t ++ more) = .ok (full, more) := by
  cases lays with
  | empty blanks =>
    rw [List.append_assoc, List.singleton_append]
    exact ofList_closing true blanks more decoded
  | @items v vs b t u before element others =>
    cases fields with
    | nil => cases decoded
    | cons field fields =>
      obtain ⟨taker, later⟩ := List.forall_mem_cons.mp agree
      obtain ⟨record', taken, same⟩ := ofList_element (b ++ ·) taker element
        (others.ends (.inl rfl) more) (fun _ s solid other => nextElement_first before solid other s) decoded
      have text : b ++ (t ++ u) ++ more = b ++ (t ++ (u ++ more)) := by simp
      rw [text, same]
      exact ofList_series later others more taken

end RecordField

/-- A record, if its fields agree. -/
theorem record_agrees {fields : List (RecordField σ)} (name : String) (initial : σ)
    (agree : ∀ f ∈ fields, f.decoder.Agrees) : (record name initial fields).Agrees := by
  intro v t a lays decoded b more blanks _
  have brace := blanks.skip_cons (by decide : ¬ isBlank 0x7B)
  have bracket := blanks.skip_cons (by decide : ¬ isBlank 0x5B)
  cases lays with
  | null | bool | number | string => cases decoded
  | array elements =>
    have read := RecordField.ofList_enclosed agree elements more decoded
    simp [record, Reader.leading, bracket, read]
  | @object ms t members =>
    simp only [record] at decoded
    split at decoded
    · cases decoded
    rename_i found seen taken
    split at decoded
    · cases decoded
    rename_i complete
    cases decoded
    have read := RecordField.ofObject_enclosed agree members more taken
    simp [record, Reader.leading, brace, read, complete]

end Decoder

end Json

end Overseer
