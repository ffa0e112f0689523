-- SUMMARY: The compact text of a value is read back as that value with its members in key order.
import Overseer.Proofs.Json.Locality.Value
import Overseer.Proofs.Json.Printed.Numeral
import Overseer.Proofs.Json.Printed.Text
import Overseer.Proofs.Json.Sorted

/-!
# Printed values

A value whose numbers are natural ones of 64 bits is read back from its compact text, as deep as lists and
objects may be nested. What encloses other values is read back whatever follows (`Exact`); for any value
it suffices that what follows ends it (`Printed`).
-/

namespace Overseer.Json

open Numeral (Ends Decimal)

-- ---------------------------------------------------------------------------
-- Texts
-- ---------------------------------------------------------------------------

namespace Value

/-- The octets of the compact text. -/
def octets (v : Value) : Bytes := Utf8.encode v.compact

/-- A member without the quote that opens its key. -/
def memberOctets (m : String × Value) : Bytes := Text.behindQuote m.1 ++ 0x3A :: m.2.octets

/-- What follows the first element of a list. -/
def elementsTail (vs : List Value) : Bytes := vs.flatMap (fun v => 0x2C :: v.octets) ++ [0x5D]

/-- What follows the first member of an object. -/
def membersTail (ms : List (String × Value)) : Bytes :=
  ms.flatMap (fun m => 0x2C :: 0x22 :: memberOctets m) ++ [0x7D]

variable {v : Value} {vs : List Value} {m : String × Value} {ms : List (String × Value)}

theorem elementsTail_cons : elementsTail (v :: vs) = 0x2C :: (v.octets ++ elementsTail vs) := by
  simp [elementsTail]

theorem membersTail_cons : membersTail (m :: ms) = 0x2C :: 0x22 :: (memberOctets m ++ membersTail ms) := by
  simp [membersTail]

theorem octets_elements :
    Utf8.encode (compactElements (v :: vs)) ++ [0x5D] = v.octets ++ elementsTail vs := by
  induction vs generalizing v with
  | nil => simp [compactElements, elementsTail, octets]
  | cons w vs ih =>
    have comma : Utf8.encode (',' :: compactElements (w :: vs))
        = 0x2C :: Utf8.encode (compactElements (w :: vs)) := rfl
    have split : compactElements (v :: w :: vs) = v.compact ++ ',' :: compactElements (w :: vs) := by
      simp [compactElements]
    rw [split, Utf8.encode_append, comma, List.append_assoc, List.cons_append, ih, elementsTail_cons]
    rfl

theorem octets_array_nil : (array []).octets = [0x5B, 0x5D] := rfl

theorem octets_array_head (vs : List Value) : ∃ t, (array vs).octets = 0x5B :: t := ⟨_, rfl⟩

theorem octets_object_head (ms : List (String × Value)) : ∃ t, (object ms).octets = 0x7B :: t := ⟨_, rfl⟩

theorem octets_array_cons : (array (v :: vs)).octets = 0x5B :: (v.octets ++ elementsTail vs) := by
  have opening : Utf8.encode ('[' :: (compactElements (v :: vs) ++ [']']))
      = 0x5B :: Utf8.encode (compactElements (v :: vs) ++ [']']) := rfl
  rw [octets, compact, List.cons_append, opening, Utf8.encode_append, ← octets_elements]
  rfl

theorem octets_member (m : String × Value) :
    Utf8.encode (quoted m.1 ++ ':' :: m.2.compact) = 0x22 :: memberOctets m := by
  have colon : Utf8.encode (':' :: m.2.compact) = 0x3A :: m.2.octets := rfl
  rw [Utf8.encode_append, Text.encode_quoted, colon, memberOctets, List.cons_append]

theorem octets_members :
    Utf8.encode (compactMembers (m :: ms)) ++ [0x7D] = 0x22 :: (memberOctets m ++ membersTail ms) := by
  induction ms generalizing m with
  | nil =>
    rw [compactMembers, octets_member]
    simp [membersTail]
  | cons n ms ih =>
    have comma : Utf8.encode (',' :: compactMembers (n :: ms))
        = 0x2C :: Utf8.encode (compactMembers (n :: ms)) := rfl
    have split : compactMembers (m :: n :: ms)
        = quoted m.1 ++ ':' :: m.2.compact ++ ',' :: compactMembers (n :: ms) := by
      simp [compactMembers]
    rw [split, Utf8.encode_append, octets_member, comma, membersTail_cons, ← ih]
    simp

theorem octets_object_nil : (object []).octets = [0x7B, 0x7D] := rfl

theorem octets_object_cons :
    (object (m :: ms)).octets = 0x7B :: 0x22 :: (memberOctets m ++ membersTail ms) := by
  have opening : Utf8.encode ('\x7b' :: (compactMembers (m :: ms) ++ ['\x7d']))
      = 0x7B :: Utf8.encode (compactMembers (m :: ms) ++ ['\x7d']) := rfl
  rw [octets, compact, List.cons_append, opening, Utf8.encode_append, ← octets_members]
  rfl

end Value

-- ---------------------------------------------------------------------------
-- Reading values back
-- ---------------------------------------------------------------------------

/-- In a list or an object, the text is read as `v`. What is there of it without its end is unfinished, or
    it is a value that ends with the text. -/
structure Printed (read : Bytes → Answer Value) (text : Bytes) (v : Value) : Prop where
  starts : ∃ b t, text = b :: t ∧ ¬ isBlank b ∧ b ≠ 0x5D
  whole : ∀ more, Ends more → read (text ++ more) = .ok (v, more)
  part : ∀ ⦃u⦄, Cut u text → AsksForMore (read u) ∨ ∃ w, read u = .ok (w, [])

theorem Exact.printed {read : Bytes → Answer Value} {text : Bytes} {v : Value}
    (h : Exact read text v) (starts : ∃ b t, text = b :: t ∧ ¬ isBlank b ∧ b ≠ 0x5D) :
    Printed read text v where
  starts := starts
  whole more _ := h.whole more
  part _ cut := .inl (h.part cut)

/-- The text ends the value before it, also when only a part of the text is there. -/
def Closes (t : Bytes) : Prop := ∃ b s, t = b :: s ∧ (b = 0x2C ∨ b = 0x5D ∨ b = 0x7D)

theorem Closes.ends {t : Bytes} (h : Closes t) (more : Bytes) : Ends (t ++ more) := by
  obtain ⟨b, s, rfl, closing⟩ := h
  intro c mem
  cases mem
  exact .inr closing

theorem Closes.ends_cut {t u : Bytes} (h : Closes t) (cut : Cut u t) : Ends u := by
  obtain ⟨b, s, rfl, closing⟩ := h
  rcases cut_cons cut with rfl | ⟨w, rfl, -⟩
  · nofun
  · intro c mem
    cases mem
    exact .inr closing

theorem closes_elementsTail (vs : List Value) : Closes (Value.elementsTail vs) := by
  cases vs with
  | nil => exact ⟨_, _, rfl, .inr (.inl rfl)⟩
  | cons v vs => exact ⟨_, _, Value.elementsTail_cons, .inl rfl⟩

theorem closes_membersTail (ms : List (String × Value)) : Closes (Value.membersTail ms) := by
  cases ms with
  | nil => exact ⟨_, _, rfl, .inr (.inr rfl)⟩
  | cons m ms => exact ⟨_, _, Value.membersTail_cons, .inl rfl⟩

-- ---------------------------------------------------------------------------
-- Lists
-- ---------------------------------------------------------------------------

section Lists

variable {element : Reader Value} {found : List Value} {tail : Bytes} {first : Bool}
  {x y : Value} {ys xs : List Value}

/-- One element behind what leads to it, and the elements that follow. -/
theorem exact_element (lead : Bytes) (printed : Printed element.run x.octets y) (closes : Closes tail)
    (next : ∀ b t, ¬ isBlank b → b ≠ 0x5D → nextElement first (lead ++ b :: t) = .ok (true, b :: t))
    (wait : ∀ u, u <+: lead → AsksForMore (elements element found first u))
    (others : Exact (elements element (y :: found) false) tail ys) :
    Exact (elements element found first) (lead ++ (x.octets ++ tail)) ys := by
  obtain ⟨b, t, starts, solid, other⟩ := printed.starts
  have reads (more : Bytes) (fine : Ends more) :
      elements element found first (lead ++ (x.octets ++ more)) = elements element (y :: found) false more := by
    have found := next b (t ++ more) solid other
    rw [← List.cons_append, ← starts] at found
    exact elements_step found (printed.whole more fine)
  constructor
  · intro more
    rw [List.append_assoc, List.append_assoc, reads _ (closes.ends more)]
    exact others.whole more
  · intro u cut
    rcases cut_append cut with leading | ⟨u, rfl, later⟩
    · exact wait u leading.1
    rcases cut_append later with inside | ⟨w, rfl, behind⟩
    · rcases cut_cons (starts ▸ inside) with rfl | ⟨t', rfl, -⟩
      · rw [List.append_nil]
        exact wait lead List.prefix_rfl
      have found := next b t' solid other
      rcases printed.part inside with ⟨fault, refused, unfinished⟩ | ⟨z, read⟩
      · exact ⟨fault, elements_element_error found refused, unfinished⟩
      · rw [elements_step found read, elements_nil]
        exact ⟨_, rfl, rfl⟩
    · rw [reads w (closes.ends_cut behind)]
      exact others.part behind

theorem asks_elements (found : List Value) : AsksForMore (elements element found first []) :=
  ⟨_, elements_nil, rfl⟩

theorem exact_closingBracket (element : Reader Value) (found : List Value) (first : Bool) :
    Exact (elements element found first) [0x5D] found.reverse where
  whole more := by
    have closing : nextElement first (0x5D :: more) = .ok (false, 0x5D :: more) := rfl
    exact elements_end closing
  part u cut := by
    obtain rfl := cut_singleton cut
    exact asks_elements found

theorem exact_elementsTail (found : List Value)
    (printed : ∀ x ∈ xs, Printed element.run x.octets x.sorted) :
    Exact (elements element found false) (Value.elementsTail xs)
      (found.reverse ++ xs.map Value.sorted) := by
  induction xs generalizing found with
  | nil =>
    rw [List.map_nil, List.append_nil]
    exact exact_closingBracket element found false
  | cons x xs ih =>
    have first := printed x (by simp)
    have others := ih (x.sorted :: found) fun z mem => printed z (by simp [mem])
    rw [Value.elementsTail_cons]
    have both : found.reverse ++ (x :: xs).map Value.sorted
        = (x.sorted :: found).reverse ++ xs.map Value.sorted := by simp
    rw [both]
    refine exact_element [0x2C] first (closes_elementsTail xs) ?_ ?_ others
    · intro b t solid other
      have comma : ¬ isBlank 0x2C := by decide
      simp [nextElement, skipBlanks, solid, other, comma]
    · intro u part
      rcases prefix_singleton part with rfl | rfl
      · exact asks_elements found
      · have ended : nextElement false [0x2C] = .error (.peeked (.ended .value) []) := rfl
        exact ⟨_, elements_nextElement_error ended, rfl⟩

/-- The elements of a list, from behind its opening bracket. -/
theorem exact_elements (printed : ∀ x ∈ xs, Printed element.run x.octets x.sorted) :
    ∃ t, (Value.array xs).octets = 0x5B :: t ∧
      Exact (elements element [] true) t (xs.map Value.sorted) := by
  cases xs with
  | nil => exact ⟨_, Value.octets_array_nil, exact_closingBracket element [] true⟩
  | cons x xs =>
    have first := printed x (by simp)
    have others := exact_elementsTail [x.sorted] fun z (mem : z ∈ xs) => printed z (by simp [mem])
    refine ⟨_, Value.octets_array_cons, ?_⟩
    refine exact_element [] first (closes_elementsTail xs) ?_ ?_ others
    · intro b t solid other
      simp [nextElement, skipBlanks, solid, other]
    · intro u part
      rw [List.prefix_nil.mp part]
      exact asks_elements []

end Lists

-- ---------------------------------------------------------------------------
-- Objects
-- ---------------------------------------------------------------------------

section Objects

variable {member : Reader Value} {found : List (String × Value)} {tail : Bytes} {first : Bool}
  {x : String × Value} {y : Value} {ys xs : List (String × Value)}

theorem colon_mark (s : Bytes) : colon (0x3A :: s) = .ok s := rfl

/-- One member behind what leads to its key, and the members that follow. -/
theorem exact_member (lead : Bytes) (printed : Printed member.run x.2.octets y) (closes : Closes tail)
    (next : ∀ t, nextKey first (lead ++ 0x22 :: t) = .ok (true, t))
    (wait : ∀ u, u <+: lead → AsksForMore (members member found first u))
    (others : Exact (members member ((x.1, y) :: found) false) tail ys) :
    Exact (members member found first) (lead ++ 0x22 :: (Value.memberOctets x ++ tail)) ys := by
  have key := Text.exact_read x.1
  have split : Value.memberOctets x ++ tail = Text.behindQuote x.1 ++ (0x3A :: (x.2.octets ++ tail)) := by
    simp [Value.memberOctets]
  have reads (more : Bytes) (fine : Ends more) :
      members member found first (lead ++ 0x22 :: (Text.behindQuote x.1 ++ 0x3A :: (x.2.octets ++ more)))
        = members member ((x.1, y) :: found) false more :=
    members_step (next _) (key.whole _) (colon_mark _) (printed.whole more fine)
  rw [split]
  constructor
  · intro more
    have regroup : lead ++ 0x22 :: (Text.behindQuote x.1 ++ 0x3A :: (x.2.octets ++ tail)) ++ more
        = lead ++ 0x22 :: (Text.behindQuote x.1 ++ 0x3A :: (x.2.octets ++ (tail ++ more))) := by simp
    rw [regroup, reads _ (closes.ends more)]
    exact others.whole more
  · intro u cut
    rcases cut_append cut with leading | ⟨fromQuote, rfl, quoteCut⟩
    · exact wait u leading.1
    rcases cut_cons quoteCut with rfl | ⟨fromKey, rfl, keyCut⟩
    · rw [List.append_nil]
      exact wait lead List.prefix_rfl
    rcases cut_append keyCut with inKey | ⟨fromColon, rfl, colonCut⟩
    · obtain ⟨fault, refused, unfinished⟩ := key.part inKey
      exact ⟨fault, members_key_error (next fromKey) refused, unfinished⟩
    rcases cut_cons colonCut with rfl | ⟨fromValue, rfl, valueCut⟩
    · have mark : colon [] = .error (.peeked (.ended .object) []) := rfl
      exact ⟨_, members_colon_error (next _) (key.whole []) mark, rfl⟩
    rcases cut_append valueCut with inValue | ⟨w, rfl, behind⟩
    · rcases printed.part inValue with ⟨fault, refused, unfinished⟩ | ⟨z, read⟩
      · exact ⟨fault, members_member_error (next _) (key.whole _) (colon_mark _) refused, unfinished⟩
      · rw [members_step (next _) (key.whole _) (colon_mark _) read, members_nil]
        exact ⟨_, rfl, rfl⟩
    · rw [reads w (closes.ends_cut behind)]
      exact others.part behind

theorem asks_members (found : List (String × Value)) : AsksForMore (members member found first []) :=
  ⟨_, members_nil, rfl⟩

theorem exact_closingBrace (member : Reader Value) (found : List (String × Value)) (first : Bool) :
    Exact (members member found first) [0x7D] found.reverse where
  whole more := by
    have closing : nextKey first (0x7D :: more) = .ok (false, 0x7D :: more) := rfl
    exact members_end closing
  part u cut := by
    obtain rfl := cut_singleton cut
    exact asks_members found

theorem exact_membersTail (found : List (String × Value))
    (printed : ∀ x ∈ xs, Printed member.run x.2.octets x.2.sorted) :
    Exact (members member found false) (Value.membersTail xs)
      (found.reverse ++ xs.map fun m => (m.1, m.2.sorted)) := by
  induction xs generalizing found with
  | nil =>
    rw [List.map_nil, List.append_nil]
    exact exact_closingBrace member found false
  | cons x xs ih =>
    have first := printed x (by simp)
    have others := ih ((x.1, x.2.sorted) :: found) fun z mem => printed z (by simp [mem])
    rw [Value.membersTail_cons]
    have both : found.reverse ++ (x :: xs).map (fun m => (m.1, m.2.sorted))
        = ((x.1, x.2.sorted) :: found).reverse ++ xs.map fun m => (m.1, m.2.sorted) := by simp
    rw [both]
    refine exact_member [0x2C] first (closes_membersTail xs) (fun t => rfl) ?_ others
    intro u part
    rcases prefix_singleton part with rfl | rfl
    · exact asks_members found
    · have ended : nextKey false [0x2C] = .error (.peeked (.ended .value) []) := rfl
      exact ⟨_, members_nextKey_error ended, rfl⟩

/-- The members of an object, from behind its opening brace. -/
theorem exact_members (printed : ∀ x ∈ xs, Printed member.run x.2.octets x.2.sorted) :
    ∃ t, (Value.object xs).octets = 0x7B :: t ∧
      Exact (members member [] true) t (xs.map fun m => (m.1, m.2.sorted)) := by
  cases xs with
  | nil => exact ⟨_, Value.octets_object_nil, exact_closingBrace member [] true⟩
  | cons x xs =>
    have first := printed x (by simp)
    have others := exact_membersTail [(x.1, x.2.sorted)]
      fun z (mem : z ∈ xs) => printed z (by simp [mem])
    refine ⟨_, Value.octets_object_cons, ?_⟩
    refine exact_member [] first (closes_membersTail xs) (fun t => rfl) ?_ others
    intro u part
    rw [List.prefix_nil.mp part]
    exact asks_members []

end Objects

-- ---------------------------------------------------------------------------
-- Values
-- ---------------------------------------------------------------------------

/-- What can be read back at depth `d`: no number but a natural one of 64 bits, and no list or object where
    too many are open. -/
def Readable (d : Nat) : Value → Prop
  | .number n => ∃ k ≤ Numeral.maxSignificand, n = .integer k
  | .array _ | .object _ => d < maxDepth
  | _ => True

variable {d depth : Nat} {v : Value}

theorem valueOf_asks (nested : Option (Reader Value)) : AsksForMore (valueOf nested []) := ⟨_, rfl, rfl⟩

theorem value_run (depth : Nat) : ∃ nested, (Reader.value depth).run = valueOf nested := by
  cases depth with
  | zero => exact ⟨none, rfl⟩
  | succ depth => exact ⟨some (Reader.value depth), rfl⟩

theorem value_run_succ (depth : Nat) :
    (Reader.value (depth + 1)).run = valueOf (some (Reader.value depth)) := rfl

/-- A literal, from its first letter. -/
theorem exact_literal {b : UInt8} {letters : Bytes} {nested : Option (Reader Value)}
    (start : ∀ s, valueOf nested (b :: s) = (word letters s).map fun _ => v) :
    Exact (valueOf nested) (b :: letters) v :=
  ((exact_word letters).map fun _ => v).cons start (valueOf_asks nested)

theorem printed_string {nested : Option (Reader Value)} (s : String) :
    Exact (valueOf nested) (Value.string s).octets (.string s) := by
  have octets : (Value.string s).octets = 0x22 :: Text.behindQuote s := Text.encode_quoted s
  rw [octets]
  exact ((Text.exact_read s).map Value.string).cons (fun t => valueOf_string rfl) (valueOf_asks nested)

theorem printed_number {nested : Option (Reader Value)} {k : Nat} (fits : k ≤ Numeral.maxSignificand) :
    Printed (valueOf nested) (Value.number (.integer k)).octets (.number (.integer k)) := by
  have octets : (Value.number (.integer k)).octets = Utf8.encode (Nat.toDigits 10 k) := by
    rw [Value.octets, Value.compact, Numeral.text_integer]
  have decimal := Numeral.decimal_toDigits k
  rw [octets]
  generalize Utf8.encode (Nat.toDigits 10 k) = text at decimal
  have digits := decimal.isDigit
  have starts : ∃ b t, text = b :: t := by
    rcases decimal.leading with ⟨-, rfl⟩ | ⟨b, t, rfl, -⟩
    · exact ⟨_, _, rfl⟩
    · exact ⟨_, _, rfl⟩
  obtain ⟨b, t, rfl⟩ := starts
  have digit : Numeral.isDigit b := digits b (by simp)
  have number : startsNumber b := by simp [startsNumber, digit]
  have solid : ¬ isBlank b := by
    intro blank
    rcases Numeral.blank_cases blank with rfl | rfl | rfl | rfl <;> exact absurd digit (by decide)
  have start (s : Bytes) : valueOf nested (b :: s) = (Numeral.read (b :: s)).map .number :=
    valueOf_number (by simp [skipBlanks, solid]) number
  refine ⟨⟨b, t, rfl, solid, ?_⟩, ?_, ?_⟩
  · rintro rfl
    exact absurd digit (by decide)
  · intro more ends
    have read := decimal.read fits ends
    rw [List.cons_append] at read ⊢
    rw [start, read]
    rfl
  · intro u cut
    rcases cut_cons cut with rfl | ⟨w, rfl, -⟩
    · exact .inl (valueOf_asks nested)
    · rw [start]
      rcases decimal.read_cut fits cut with asks | ⟨m, read⟩
      · exact .inl (asks.map _)
      · exact .inr ⟨_, map_eq_ok read⟩

theorem exact_array {vs : List Value}
    (printed : ∀ x ∈ vs, Printed (Reader.value depth).run x.octets x.sorted) :
    Exact (Reader.value (depth + 1)).run (Value.array vs).octets (Value.array vs).sorted := by
  obtain ⟨t, octets, exact⟩ := exact_elements printed
  rw [octets, Value.sorted_array, value_run_succ]
  exact (exact.map Value.array).cons (fun s => valueOf_array rfl) (valueOf_asks _)

theorem exact_object {ms : List (String × Value)}
    (printed : ∀ x ∈ ms, Printed (Reader.value depth).run x.2.octets x.2.sorted) :
    Exact (Reader.value (depth + 1)).run (Value.object ms).octets (Value.object ms).sorted := by
  obtain ⟨t, octets, exact⟩ := exact_members printed
  rw [octets, Value.sorted_object, value_run_succ]
  exact (exact.map _).cons (fun s => valueOf_object rfl) (valueOf_asks _)

/-- A value is read back from its compact text. -/
theorem printed_value (h : Value.Everywhere Readable d v) (room : d + depth = maxDepth) :
    Printed (Reader.value depth).run v.octets v.sorted := by
  induction h generalizing depth with
  | @intro d v here _ ih =>
    obtain ⟨nested, run⟩ := value_run depth
    cases v with
    | null =>
      rw [run]
      exact (exact_literal fun s => valueOf_null rfl).printed ⟨_, _, rfl, by decide, by decide⟩
    | bool b =>
      rw [run]
      cases b with
      | true => exact (exact_literal fun s => valueOf_true rfl).printed ⟨_, _, rfl, by decide, by decide⟩
      | false => exact (exact_literal fun s => valueOf_false rfl).printed ⟨_, _, rfl, by decide, by decide⟩
    | number n =>
      obtain ⟨k, fits, rfl⟩ := here
      rw [run]
      exact printed_number fits
    | string s =>
      rw [run]
      exact (printed_string s).printed ⟨_, _, Text.encode_quoted s, by decide, by decide⟩
    | array vs =>
      have deep : d < maxDepth := here
      obtain ⟨k, rfl⟩ : ∃ k, depth = k + 1 := ⟨depth - 1, by omega⟩
      have exact := exact_array fun x (mem : x ∈ vs) => @ih x mem k (by omega)
      obtain ⟨t, octets⟩ := Value.octets_array_head vs
      exact exact.printed ⟨_, _, octets, by decide, by decide⟩
    | object ms =>
      have deep : d < maxDepth := here
      obtain ⟨k, rfl⟩ : ∃ k, depth = k + 1 := ⟨depth - 1, by omega⟩
      have inside : ∀ x ∈ ms, Printed (Reader.value k).run x.2.octets x.2.sorted :=
        fun x mem => @ih x.2 (List.mem_map_of_mem mem) k (by omega)
      obtain ⟨t, octets⟩ := Value.octets_object_head ms
      exact (exact_object inside).printed ⟨_, _, octets, by decide, by decide⟩

theorem Readable.shallower {e : Nat} (h : Readable d v) (le : e ≤ d) : Readable e v := by
  cases v with
  | null | bool | number | string => exact h
  | array | object => exact Nat.lt_of_le_of_lt le h

theorem readable_shallower {e : Nat} (h : Value.Everywhere Readable d v) (le : e ≤ d) :
    Value.Everywhere Readable e v := by
  induction h generalizing e with
  | intro here _ ih => exact .intro (here.shallower le) fun w mem => ih w mem (Nat.succ_le_succ le)

/-- An object that can be read back inside others is read back by itself. -/
theorem exact_anyValue {ms : List (String × Value)} (h : Value.Everywhere Readable d (.object ms)) :
    Exact Reader.anyValue.run (Value.object ms).octets (Value.object ms).sorted := by
  have outermost := readable_shallower h (Nat.zero_le d)
  exact @exact_object 126 ms fun m mem =>
    printed_value (outermost.inside (List.mem_map_of_mem mem)) rfl

end Overseer.Json
