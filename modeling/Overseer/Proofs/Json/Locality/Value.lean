-- SUMMARY: A value is settled by its octets and the one behind it, an object by its octets alone.
import Overseer.Json.Reader
import Overseer.Proofs.Json.Locality.Numeral
import Overseer.Proofs.Json.Locality.Text

/-!
# Locality of values

Lists and objects are delimited, since they end with a bracket or a brace of their own; that also settles
the values in them, each of which has an octet behind it. A text is refused for good as soon as one value
in it is.
-/

namespace Overseer.Json

variable {α : Type}

/-! ## Literals and punctuation -/

theorem delimited_word (letters : Bytes) : Delimited (word letters) := by
  intro s rest a h
  fun_induction word letters s with
  | case1 s => cases h; exact ⟨[], rfl, fun more => by rw [List.nil_append, word]⟩
  | case2 | case4 => cases h
  | case3 letters b s ih =>
    obtain ⟨used, rfl, takes⟩ := ih h
    exact ⟨b :: used, rfl, fun more => by rw [List.cons_append, word, if_pos rfl, takes]⟩

theorem settled_word (letters s : Bytes) : Settled (word letters) s := by
  intro fault h finished more
  fun_induction word letters s with
  | case1 => cases h
  | case2 => cases h; cases finished
  | case3 letters b s ih =>
    obtain ⟨why, still⟩ := ih h
    exact ⟨why, by rw [List.cons_append, word, if_pos rfl, still]⟩
  | case4 w letters b s other =>
    exact ⟨.behind .expectedIdent (s ++ more), by rw [List.cons_append, word, if_neg other]⟩

theorem colon_takes {s rest : Bytes} (h : colon s = .ok rest) :
    ∃ used, s = used ++ rest ∧ ∀ more, colon (used ++ more) = .ok more := by
  unfold colon at h
  split at h
  · cases h
  rename_i b t start
  obtain ⟨blanks, rfl, skips⟩ := skipBlanks_cons start
  split at h
  · rename_i mark
    cases h
    refine ⟨blanks ++ [b], by simp, fun more => ?_⟩
    simp only [List.append_assoc, List.cons_append, List.nil_append, colon, skips, if_pos mark]
  · cases h

theorem colon_settled {s : Bytes} {fault : Fault} (h : colon s = .error fault)
    (finished : fault.isUnfinished = false) (more : Bytes) : ∃ why, colon (s ++ more) = .error why := by
  unfold colon at h
  split at h
  · cases h; cases finished
  rename_i b t start
  split at h
  · cases h
  · rename_i other
    refine ⟨.peeked .expectedColon (b :: (t ++ more)), ?_⟩
    simp only [colon, skipBlanks_append start, if_neg other]

/-- An element is found by the octets before it and its first one. -/
theorem nextElement_takes {first found : Bool} {s rest : Bytes}
    (h : nextElement first s = .ok (found, rest)) :
    ∃ used c t, rest = c :: t ∧ s = used ++ c :: t ∧
      ∀ more, nextElement first (used ++ c :: more) = .ok (found, c :: more) := by
  unfold nextElement at h
  split at h
  · cases h
  rename_i b t start
  obtain ⟨blanks, rfl, skips⟩ := skipBlanks_cons start
  split at h
  · rename_i bracket
    cases h
    exact ⟨blanks, b, t, rfl, rfl, fun more => by simp only [nextElement, skips, if_pos bracket]⟩
  rename_i bracket
  split at h
  · rename_i isFirst
    cases h
    refine ⟨blanks, b, t, rfl, rfl, fun more => ?_⟩
    simp only [nextElement, skips, if_neg bracket, if_pos isFirst]
  rename_i isFirst
  split at h
  · rename_i comma
    split at h
    · cases h
    rename_i c after next
    obtain ⟨blanks', rfl, skips'⟩ := skipBlanks_cons next
    split at h
    · cases h
    rename_i closing
    cases h
    refine ⟨blanks ++ b :: blanks', c, after, rfl, by simp, fun more => ?_⟩
    simp only [List.append_assoc, List.cons_append, nextElement, skips, skips', if_neg bracket,
      if_neg isFirst, if_pos comma, if_neg closing]
  · cases h

theorem settled_nextElement (first : Bool) (s : Bytes) : Settled (nextElement first) s := by
  intro fault h finished more
  unfold nextElement at h
  split at h
  · cases h; cases finished
  rename_i b t start
  have start := skipBlanks_append start more
  split at h
  · cases h
  rename_i bracket
  split at h
  · cases h
  rename_i isFirst
  split at h
  · rename_i comma
    split at h
    · cases h; cases finished
    rename_i c after next
    have next := skipBlanks_append next more
    split at h
    · rename_i closing
      refine ⟨.peeked .trailingComma (c :: (after ++ more)), ?_⟩
      simp only [nextElement, start, next, if_neg bracket, if_neg isFirst, if_pos comma,
        if_pos closing]
    · cases h
  · rename_i comma
    refine ⟨.peeked .expectedListComma (b :: (t ++ more)), ?_⟩
    simp only [nextElement, start, if_neg bracket, if_neg isFirst, if_neg comma]

/-- The end of an object is found by the octets up to its brace. -/
theorem nextKey_closes {first : Bool} {s rest : Bytes} (h : nextKey first s = .ok (false, rest)) :
    ∃ used t, rest = 0x7D :: t ∧ s = used ++ 0x7D :: t ∧
      ∀ more, nextKey first (used ++ 0x7D :: more) = .ok (false, 0x7D :: more) := by
  unfold nextKey at h
  split at h
  · cases h
  rename_i b t start
  obtain ⟨blanks, rfl, skips⟩ := skipBlanks_cons start
  split at h
  · rename_i brace
    subst brace
    cases h
    exact ⟨blanks, t, rfl, rfl, fun more => by simp only [nextKey, skips, if_true]⟩
  split at h
  · split at h
    · cases h
    · cases h
  split at h
  · split at h
    · cases h
    split at h
    · cases h
    split at h
    · cases h
    · cases h
  · cases h

/-- A key is found by the octets up to its quote. -/
theorem nextKey_takes {first : Bool} {s rest : Bytes} (h : nextKey first s = .ok (true, rest)) :
    ∃ used, s = used ++ rest ∧ ∀ more, nextKey first (used ++ more) = .ok (true, more) := by
  unfold nextKey at h
  split at h
  · cases h
  rename_i b t start
  obtain ⟨blanks, rfl, skips⟩ := skipBlanks_cons start
  split at h
  · cases h
  rename_i brace
  split at h
  · rename_i isFirst
    split at h
    · rename_i quote
      cases h
      refine ⟨blanks ++ [b], by simp, fun more => ?_⟩
      simp only [List.append_assoc, List.cons_append, List.nil_append, nextKey, skips, if_neg brace,
        if_pos isFirst, if_pos quote]
    · cases h
  rename_i isFirst
  split at h
  · rename_i comma
    split at h
    · cases h
    rename_i c after next
    obtain ⟨blanks', rfl, skips'⟩ := skipBlanks_cons next
    split at h
    · rename_i quote
      cases h
      refine ⟨blanks ++ b :: (blanks' ++ [c]), by simp, fun more => ?_⟩
      simp only [List.append_assoc, List.cons_append, List.nil_append, nextKey, skips, skips',
        if_neg brace, if_neg isFirst, if_pos comma, if_pos quote]
    split at h
    · cases h
    · cases h
  · cases h

theorem settled_nextKey (first : Bool) (s : Bytes) : Settled (nextKey first) s := by
  intro fault h finished more
  unfold nextKey at h
  split at h
  · cases h; cases finished
  rename_i b t start
  have start := skipBlanks_append start more
  split at h
  · cases h
  rename_i brace
  split at h
  · rename_i isFirst
    split at h
    · cases h
    · rename_i quote
      refine ⟨.peeked .keyNotString (b :: (t ++ more)), ?_⟩
      simp only [nextKey, start, if_neg brace, if_pos isFirst, if_neg quote]
  rename_i isFirst
  split at h
  · rename_i comma
    split at h
    · cases h; cases finished
    rename_i c after next
    have next := skipBlanks_append next more
    split at h
    · cases h
    rename_i quote
    split at h
    · rename_i closing
      refine ⟨.peeked .trailingComma (c :: (after ++ more)), ?_⟩
      simp only [nextKey, start, next, if_neg brace, if_neg isFirst, if_pos comma, if_neg quote,
        if_pos closing]
    · rename_i closing
      refine ⟨.peeked .keyNotString (c :: (after ++ more)), ?_⟩
      simp only [nextKey, start, next, if_neg brace, if_neg isFirst, if_pos comma, if_neg quote,
        if_neg closing]
  · rename_i comma
    refine ⟨.peeked .expectedObjectComma (b :: (t ++ more)), ?_⟩
    simp only [nextKey, start, if_neg brace, if_neg isFirst, if_neg comma]

/-! ## Lists -/

/-- A reader whose answers are local and whose refusals are settled. -/
structure Steady (r : Reader α) : Prop where
  isLocal : Local r.run
  refusals : ∀ s : Bytes, SettledIf (ShortRuns s) r.run s

theorem Steady.settled {r : Reader α} (h : Steady r) {s : Bytes} (short : ShortRuns s) :
    Settled r.run s :=
  (h.refusals s).settled short

section Lists

variable {element : Reader α} {found : List α} {first : Bool} {s rest after : Bytes} {a : α}

/-- One round of reading a list. -/
theorem elements_eq : elements element found first s =
    match nextElement first s with
    | .error fault => .error fault
    | .ok (false, rest) => .ok (found.reverse, rest.tail)
    | .ok (true, rest) =>
      match element.run rest with
      | .error fault => .error fault
      | .ok (a, after) => elements element (a :: found) false after := by
  rw [elements]
  split <;> simp only [*]
  split <;> simp only [*]

theorem elements_end (next : nextElement first s = .ok (false, rest)) :
    elements element found first s = .ok (found.reverse, rest.tail) := by
  rw [elements_eq, next]

theorem elements_step (next : nextElement first s = .ok (true, rest))
    (read : element.run rest = .ok (a, after)) :
    elements element found first s = elements element (a :: found) false after := by
  rw [elements_eq, next]
  simp only [read]

theorem elements_nextElement_error {fault : Fault} (next : nextElement first s = .error fault) :
    elements element found first s = .error fault := by
  rw [elements_eq, next]

/-- A list that ends without its bracket is unfinished. -/
theorem elements_nil :
    elements element found first [] = .error (.peeked (.ended .list) []) :=
  elements_nextElement_error rfl

theorem elements_element_error {fault : Fault} (next : nextElement first s = .ok (true, rest))
    (read : element.run rest = .error fault) :
    elements element found first s = .error fault := by
  rw [elements_eq, next]
  simp only [read]

/-- What consumed octets begin with does not depend on what follows them. -/
theorem head?_append_of_consumed {used s rest : Bytes} (split : s = used ++ rest)
    (consumes : rest.length < s.length) (more : Bytes) : (used ++ more).head? = s.head? := by
  subst split
  cases used with
  | nil => exact absurd consumes (lt_irrefl _)
  | cons b used => rfl

theorem delimited_elements (h : Local element.run) (found : List α) (first : Bool) :
    Delimited (elements element found first) := by
  intro s rest as eq
  fun_induction elements element found first s with
  | case1 | case3 => cases eq
  | case2 found first s rest' next =>
    obtain ⟨used, c, t, rfl, rfl, takes⟩ := nextElement_takes next
    cases eq
    refine ⟨used ++ [c], by simp, fun more => ?_⟩
    rw [List.append_assoc, List.singleton_append, elements_end (takes more), List.tail_cons]
  | case4 found first s start next a after read ih =>
    obtain ⟨used, c, t, rfl, rfl, finds⟩ := nextElement_takes next
    have consumed := elements_length eq
    obtain ⟨tail, split, ends⟩ := ih eq
    obtain ⟨body, same, takes⟩ := h read
    have reads (more : Bytes) : element.run (body ++ (tail ++ more)) = .ok (a, tail ++ more) :=
      takes _ (head?_append_of_consumed split consumed more)
    have begins (more : Bytes) : ∃ t, body ++ (tail ++ more) = c :: t := by
      have := head?_append_of_consumed same (element.consumes read) (tail ++ more)
      exact List.head?_eq_some_iff.mp this
    refine ⟨used ++ (body ++ tail), ?_, fun more => ?_⟩
    · rw [same, split]; simp
    · obtain ⟨t', start⟩ := begins more
      have next := finds t'
      rw [← start] at next
      rw [List.append_assoc, List.append_assoc, elements_step next (reads more), ends more]

theorem settled_elements (h : Steady element) (found : List α) (first : Bool) (s : Bytes) :
    SettledIf (ShortRuns s) (elements element found first) s := by
  intro fault eq finished short more
  fun_induction elements element found first s with
  | case1 found first s fault' next =>
    cases eq
    obtain ⟨why, still⟩ := settled_nextElement first s next finished more
    exact ⟨why, elements_nextElement_error still⟩
  | case2 => cases eq
  | case3 found first s start next fault' read =>
    cases eq
    obtain ⟨used, c, t, rfl, rfl, finds⟩ := nextElement_takes next
    obtain ⟨why, still⟩ := h.refusals _ read finished (fun large => (short large).right) more
    refine ⟨why, ?_⟩
    rw [List.append_assoc, List.cons_append]
    exact elements_element_error (finds (t ++ more)) still
  | case4 found first s start next a after read ih =>
    obtain ⟨used, c, t, rfl, rfl, finds⟩ := nextElement_takes next
    have shorter (large : fault.TooLarge) :=
      ShortRuns.of_infix (short large).right (h.isLocal.suffix read).isInfix
    have further : after ≠ [] := by
      rintro rfl
      rw [elements_nil] at eq
      cases eq; cases finished
    obtain ⟨why, still⟩ := ih eq shorter
    refine ⟨why, ?_⟩
    rw [List.append_assoc, List.cons_append,
      elements_step (finds (t ++ more)) (h.isLocal.append read more further), still]

end Lists

/-! ## Objects -/

section Objects

variable {member : Reader α} {found : List (String × α)} {first : Bool} {key : String} {a : α}
  {s rest afterKey start after : Bytes} {fault : Fault}

/-- One round of reading an object. -/
theorem members_eq : members member found first s =
    match nextKey first s with
    | .error fault => .error fault
    | .ok (false, rest) => .ok (found.reverse, rest.tail)
    | .ok (true, rest) =>
      match Text.read rest with
      | .error fault => .error fault
      | .ok (key, afterKey) =>
        match colon afterKey with
        | .error fault => .error fault
        | .ok start =>
          match member.run start with
          | .error fault => .error fault
          | .ok (a, after) => members member ((key, a) :: found) false after := by
  rw [members]
  split <;> simp only [*]
  split <;> simp only [*]
  split <;> simp only [*]
  split <;> simp only [*]

theorem members_end (next : nextKey first s = .ok (false, rest)) :
    members member found first s = .ok (found.reverse, rest.tail) := by
  rw [members_eq, next]

theorem members_nextKey_error (next : nextKey first s = .error fault) :
    members member found first s = .error fault := by
  rw [members_eq, next]

/-- An object that ends without its brace is unfinished. -/
theorem members_nil :
    members member found first [] = .error (.peeked (.ended .object) []) :=
  members_nextKey_error rfl

theorem members_key_error (next : nextKey first s = .ok (true, rest))
    (read : Text.read rest = .error fault) : members member found first s = .error fault := by
  rw [members_eq, next]
  simp only [read]

theorem members_colon_error (next : nextKey first s = .ok (true, rest))
    (read : Text.read rest = .ok (key, afterKey)) (mark : colon afterKey = .error fault) :
    members member found first s = .error fault := by
  rw [members_eq, next]
  simp only [read, mark]

theorem members_member_error (next : nextKey first s = .ok (true, rest))
    (read : Text.read rest = .ok (key, afterKey)) (mark : colon afterKey = .ok start)
    (value : member.run start = .error fault) :
    members member found first s = .error fault := by
  rw [members_eq, next]
  simp only [read, mark, value]

theorem members_step (next : nextKey first s = .ok (true, rest))
    (read : Text.read rest = .ok (key, afterKey)) (mark : colon afterKey = .ok start)
    (value : member.run start = .ok (a, after)) :
    members member found first s = members member ((key, a) :: found) false after := by
  rw [members_eq, next]
  simp only [read, mark, value]

theorem delimited_members (h : Local member.run) (found : List (String × α)) (first : Bool) :
    Delimited (members member found first) := by
  intro s rest as eq
  fun_induction members member found first s with
  | case1 | case3 | case4 | case5 => cases eq
  | case2 found first s rest' next =>
    obtain ⟨used, t, rfl, rfl, takes⟩ := nextKey_closes next
    cases eq
    refine ⟨used ++ [0x7D], by simp, fun more => ?_⟩
    rw [List.append_assoc, List.singleton_append, members_end (takes more), List.tail_cons]
  | case6 found first s behind next key afterKey read start mark a after value ih =>
    have consumed := members_length eq
    obtain ⟨tail, split, ends⟩ := ih eq
    obtain ⟨used, rfl, finds⟩ := nextKey_takes next
    obtain ⟨text, rfl, reads⟩ := Text.delimited_read read
    obtain ⟨sign, rfl, marks⟩ := colon_takes mark
    obtain ⟨body, rfl, takes⟩ := h value
    have values (more : Bytes) : member.run (body ++ (tail ++ more)) = .ok (a, tail ++ more) :=
      takes _ (head?_append_of_consumed split consumed more)
    refine ⟨used ++ (text ++ (sign ++ (body ++ tail))), ?_, fun more => ?_⟩
    · rw [split]; simp
    · simp only [List.append_assoc]
      rw [members_step (finds _) (reads _) (marks _) (values more), ends more]

theorem settled_members (h : Steady member) (found : List (String × α)) (first : Bool) (s : Bytes) :
    SettledIf (ShortRuns s) (members member found first) s := by
  intro fault eq finished short more
  fun_induction members member found first s with
  | case1 found first s fault' next =>
    cases eq
    obtain ⟨why, still⟩ := settled_nextKey first s next finished more
    exact ⟨why, members_nextKey_error still⟩
  | case2 => cases eq
  | case3 found first s behind next fault' read =>
    cases eq
    obtain ⟨used, rfl, finds⟩ := nextKey_takes next
    obtain ⟨why, still⟩ := Text.settled_read behind read finished more
    refine ⟨why, ?_⟩
    rw [List.append_assoc]
    exact members_key_error (finds _) still
  | case4 found first s behind next key afterKey read fault' mark =>
    cases eq
    obtain ⟨used, rfl, finds⟩ := nextKey_takes next
    obtain ⟨why, still⟩ := colon_settled mark finished more
    refine ⟨why, ?_⟩
    rw [List.append_assoc]
    exact members_colon_error (finds _) (Text.delimited_read.append read more) still
  | case5 found first s behind next key afterKey read start mark fault' value =>
    cases eq
    obtain ⟨used, rfl, finds⟩ := nextKey_takes next
    obtain ⟨text, rfl, reads⟩ := Text.delimited_read read
    obtain ⟨sign, rfl, marks⟩ := colon_takes mark
    obtain ⟨why, still⟩ :=
      h.refusals _ value finished (fun large => (short large).right.right.right) more
    refine ⟨why, ?_⟩
    simp only [List.append_assoc]
    exact members_member_error (finds _) (reads _) (marks _) still
  | case6 found first s behind next key afterKey read start mark a after value ih =>
    obtain ⟨used, rfl, finds⟩ := nextKey_takes next
    obtain ⟨text, rfl, reads⟩ := Text.delimited_read read
    obtain ⟨sign, rfl, marks⟩ := colon_takes mark
    have shorter (large : fault.TooLarge) :=
      ShortRuns.of_infix (short large).right.right.right (h.isLocal.suffix value).isInfix
    have further : after ≠ [] := by
      rintro rfl
      rw [members_nil] at eq
      cases eq; cases finished
    obtain ⟨why, still⟩ := ih eq shorter
    refine ⟨why, ?_⟩
    simp only [List.append_assoc]
    rw [members_step (finds _) (reads _) (marks _) (h.isLocal.append value more further), still]

end Objects

/-! ## Values -/

section Values

variable {nested : Option (Reader Value)} {s t rest : Bytes} {v : Value}

theorem valueOf_nil (h : skipBlanks s = []) :
    valueOf nested s = .error (.peeked (.ended .value) []) := by
  unfold valueOf
  simp only [h]

theorem valueOf_null (h : skipBlanks s = 0x6E :: t) :
    valueOf nested s = (word nullTail t).map fun _ => .null := by
  unfold valueOf
  simp only [h, if_true]

theorem valueOf_true (h : skipBlanks s = 0x74 :: t) :
    valueOf nested s = (word trueTail t).map fun _ => .bool true := by
  unfold valueOf
  simp [h]

theorem valueOf_false (h : skipBlanks s = 0x66 :: t) :
    valueOf nested s = (word falseTail t).map fun _ => .bool false := by
  unfold valueOf
  simp [h]

theorem valueOf_number {b : UInt8} (h : skipBlanks s = b :: t) (number : startsNumber b) :
    valueOf nested s = (Numeral.read (b :: t)).map .number := by
  have letter : b ≠ 0x6E ∧ b ≠ 0x74 ∧ b ≠ 0x66 := by
    refine ⟨?_, ?_, ?_⟩
    · rintro rfl; exact absurd number (by decide)
    · rintro rfl; exact absurd number (by decide)
    · rintro rfl; exact absurd number (by decide)
  unfold valueOf
  simp [h, letter, number]

theorem valueOf_string (h : skipBlanks s = 0x22 :: t) :
    valueOf nested s = (Text.read t).map .string := by
  unfold valueOf
  simp [h, startsNumber, Numeral.isDigit]

theorem valueOf_array {element : Reader Value} (h : skipBlanks s = 0x5B :: t) :
    valueOf (some element) s = (elements element [] true t).map .array := by
  unfold valueOf
  simp [h, startsNumber, Numeral.isDigit]

theorem valueOf_object {member : Reader Value} (h : skipBlanks s = 0x7B :: t) :
    valueOf (some member) s
      = (members member [] true t).map fun found => .object (Entries.ofList found) := by
  unfold valueOf
  simp [h, startsNumber, Numeral.isDigit]

/-- The octets that a value of any kind starts with. -/
def startsValue (b : UInt8) : Bool :=
  b = 0x6E || b = 0x74 || b = 0x66 || startsNumber b || b = 0x22 || b = 0x5B || b = 0x7B

theorem valueOf_other {b : UInt8} (h : skipBlanks s = b :: t) (other : startsValue b = false) :
    valueOf nested s = .error (.peeked .expectedValue (b :: t)) := by
  simp only [startsValue, Bool.or_eq_false_iff, decide_eq_false_iff_not] at other
  unfold valueOf
  simp [h, other]

theorem valueOf_tooDeep {b : UInt8} (h : skipBlanks s = b :: t) (opens : b = 0x5B ∨ b = 0x7B) :
    valueOf none s = .error (.peeked .recursionLimit (b :: t)) := by
  unfold valueOf
  rcases opens with rfl | rfl
  · simp [h, startsNumber, Numeral.isDigit]
  · simp [h, startsNumber, Numeral.isDigit]

/-- Every first octet starts a value of some kind or none. -/
theorem startsValue_cases (b : UInt8) :
    b = 0x6E ∨ b = 0x74 ∨ b = 0x66 ∨ startsNumber b ∨ b = 0x22 ∨ b = 0x5B ∨ b = 0x7B
      ∨ startsValue b = false := by
  cases h : startsValue b with
  | false => simp
  | true =>
    simp only [startsValue, Bool.or_eq_true, decide_eq_true_eq] at h
    tauto

section Behind

variable {b : UInt8} {inner : Bytes → Answer Value}

theorem local_behind (h : Local inner) (start : skipBlanks s = b :: t)
    (same : ∀ {s t}, skipBlanks s = b :: t → valueOf nested s = inner t)
    (eq : valueOf nested s = .ok (v, rest)) :
    ∃ used, s = used ++ rest ∧
      ∀ more, more.head? = rest.head? → valueOf nested (used ++ more) = .ok (v, more) := by
  rw [same start] at eq
  obtain ⟨blanks, rfl, skips⟩ := skipBlanks_cons start
  obtain ⟨used, rfl, takes⟩ := h eq
  refine ⟨blanks ++ b :: used, by simp, fun more further => ?_⟩
  rw [List.append_assoc, List.cons_append, same (skips (used ++ more))]
  exact takes more further

theorem delimited_behind (h : Delimited inner) (start : skipBlanks s = b :: t)
    (same : ∀ {s t}, skipBlanks s = b :: t → valueOf nested s = inner t)
    (eq : valueOf nested s = .ok (v, rest)) :
    ∃ used, s = used ++ rest ∧ ∀ more, valueOf nested (used ++ more) = .ok (v, more) := by
  rw [same start] at eq
  obtain ⟨blanks, rfl, skips⟩ := skipBlanks_cons start
  obtain ⟨used, rfl, takes⟩ := h eq
  refine ⟨blanks ++ b :: used, by simp, fun more => ?_⟩
  rw [List.append_assoc, List.cons_append, same (skips (used ++ more))]
  exact takes more

theorem settled_behind (start : skipBlanks s = b :: t) {bounded : Prop} (h : SettledIf bounded inner t)
    (same : ∀ {s t}, skipBlanks s = b :: t → valueOf nested s = inner t) :
    SettledIf bounded (valueOf nested) s := by
  intro fault eq finished large more
  rw [same start] at eq
  rw [same (skipBlanks_append start more)]
  exact h eq finished large more

end Behind

/-- A number, from behind its first octet. -/
theorem local_number (b : UInt8) : Local fun t => Numeral.read (b :: t) := by
  intro t rest n eq
  have consumed := Numeral.read_length eq
  obtain ⟨used, split, takes⟩ := Numeral.local_read eq
  cases used with
  | nil => rw [split] at consumed; exact absurd consumed (lt_irrefl _)
  | cons c used =>
    obtain ⟨rfl, rfl⟩ := List.cons.inj split
    exact ⟨used, rfl, takes⟩

theorem local_valueOf (h : ∀ r ∈ nested, Local r.run) : Local (valueOf nested) := by
  intro s rest v eq
  cases start : skipBlanks s with
  | nil => rw [valueOf_nil start] at eq; cases eq
  | cons b t =>
    rcases startsValue_cases b with rfl | rfl | rfl | number | rfl | rfl | rfl | other
    · exact local_behind ((delimited_word _).isLocal.map _) start valueOf_null eq
    · exact local_behind ((delimited_word _).isLocal.map _) start valueOf_true eq
    · exact local_behind ((delimited_word _).isLocal.map _) start valueOf_false eq
    · exact local_behind ((local_number b).map _) start (valueOf_number · number) eq
    · exact local_behind (Text.delimited_read.isLocal.map _) start valueOf_string eq
    · cases nested with
      | none => rw [valueOf_tooDeep start (.inl rfl)] at eq; cases eq
      | some element =>
        have inner := (delimited_elements (h element rfl) [] true).isLocal
        exact local_behind (inner.map _) start valueOf_array eq
    · cases nested with
      | none => rw [valueOf_tooDeep start (.inr rfl)] at eq; cases eq
      | some member =>
        have inner := (delimited_members (h member rfl) [] true).isLocal
        exact local_behind (inner.map _) start valueOf_object eq
    · rw [valueOf_other start other] at eq; cases eq

theorem settled_valueOf (h : ∀ r ∈ nested, Steady r) (s : Bytes) :
    SettledIf (ShortRuns s) (valueOf nested) s := by
  cases start : skipBlanks s with
  | nil =>
    intro fault eq finished
    rw [valueOf_nil start] at eq; cases eq; cases finished
  | cons b t =>
    obtain ⟨blanks, rfl, skips⟩ := skipBlanks_cons start
    have here (short : ShortRuns (blanks ++ b :: t)) : ShortRuns (b :: t) := short.right
    have behind (short : ShortRuns (blanks ++ b :: t)) : ShortRuns t :=
      short.right.of_infix (List.suffix_cons b t).isInfix
    rcases startsValue_cases b with rfl | rfl | rfl | number | rfl | rfl | rfl | other
    · exact settled_behind start ((settled_word _ t).settledIf.map _) valueOf_null
    · exact settled_behind start ((settled_word _ t).settledIf.map _) valueOf_true
    · exact settled_behind start ((settled_word _ t).settledIf.map _) valueOf_false
    · have inner : SettledIf (ShortRuns (b :: t))
          (fun t => (Numeral.read (b :: t)).map Value.number) t :=
        fun _ eq => (Numeral.settled_read (b :: t)).map Value.number eq
      exact settled_behind start (inner.mono here) (valueOf_number · number)
    · exact settled_behind start ((Text.settled_read t).settledIf.map _) valueOf_string
    · cases nested with
      | none =>
        intro fault eq finished large more
        exact ⟨_, valueOf_tooDeep (skipBlanks_append start more) (.inl rfl)⟩
      | some element =>
        have inner := (settled_elements (h element rfl) [] true t).mono behind
        exact settled_behind start (inner.map _) valueOf_array
    · cases nested with
      | none =>
        intro fault eq finished large more
        exact ⟨_, valueOf_tooDeep (skipBlanks_append start more) (.inr rfl)⟩
      | some member =>
        have inner := (settled_members (h member rfl) [] true t).mono behind
        exact settled_behind start (inner.map _) valueOf_object
    · intro fault eq finished large more
      exact ⟨_, valueOf_other (skipBlanks_append start more) other⟩

end Values

theorem steady_value (depth : Nat) : Steady (Reader.value depth) := by
  induction depth with
  | zero =>
    have none : ∀ r ∈ (none : Option (Reader Value)), Steady r := fun _ mem => by cases mem
    exact ⟨local_valueOf fun r mem => (none r mem).isLocal, settled_valueOf none⟩
  | succ depth ih =>
    have nested : ∀ r ∈ some (Reader.value depth), Steady r := fun r mem => by cases mem; exact ih
    exact ⟨local_valueOf fun r mem => (nested r mem).isLocal, settled_valueOf nested⟩

/-- An object is settled by its octets. -/
theorem object_takes {s t rest : Bytes} {v : Value} (start : skipBlanks s = 0x7B :: t)
    (h : Reader.anyValue.run s = .ok (v, rest)) :
    ∃ used, s = used ++ rest ∧ ∀ more, Reader.anyValue.run (used ++ more) = .ok (v, more) :=
  delimited_behind ((delimited_members (steady_value 126).isLocal [] true).map _) start
    valueOf_object h

/-- A part of an object that is still arriving is unfinished, unless a number of 309 digits or more is too
    large without what follows. -/
theorem object_part {s t more : Bytes} {v : Value} (start : skipBlanks s = 0x7B :: t) (further : more ≠ [])
    (whole : Reader.anyValue.run (s ++ more) = .ok (v, [])) :
    ∃ fault, Reader.anyValue.run s = .error fault ∧
      (fault.isUnfinished ∨ fault.TooLarge ∧ ¬ ShortRuns s) := by
  cases read : Reader.anyValue.run s with
  | ok found =>
    obtain ⟨w, rest⟩ := found
    obtain ⟨used, split, takes⟩ := object_takes start read
    have early := takes (rest ++ more)
    rw [← List.append_assoc, ← split, whole] at early
    cases List.append_eq_nil_iff.mp (Prod.mk.inj (Except.ok.inj early)).2.symm with
    | intro _ none => exact absurd none further
  | error fault =>
    refine ⟨fault, rfl, ?_⟩
    by_cases unfinished : fault.isUnfinished
    · exact .inl unfinished
    · -- A refusal that is settled would be one of the whole object.
      right
      by_contra settled
      obtain ⟨why, still⟩ := (steady_value 127).refusals s read (Bool.eq_false_iff.mpr unfinished)
        (fun large => by_contra fun long => settled ⟨large, long⟩) more
      cases whole.symm.trans still

/-- What starts with a brace is an object. -/
theorem isObject_of_brace {s t rest : Bytes} {v : Value} (start : skipBlanks s = 0x7B :: t)
    (h : Reader.anyValue.run s = .ok (v, rest)) : v.isObject := by
  have same : Reader.anyValue.run s
      = (members (.value 126) [] true t).map fun found => .object (Entries.ofList found) :=
    valueOf_object start
  rw [same] at h
  obtain ⟨_, _, rfl⟩ := Answer.map_ok h
  rfl

/-- What is no object by its form is none by its content. -/
theorem isObject_map {α : Type} {answer : Answer α} {f : α → Value} {rest : Bytes} {v : Value}
    (plain : ∀ a, (f a).isObject = false) (h : answer.map f = .ok (v, rest)) :
    v.isObject = false := by
  obtain ⟨a, _, rfl⟩ := Answer.map_ok h
  exact plain a

/-- What is an object starts with a brace. -/
theorem brace_of_isObject {s t rest : Bytes} {b : UInt8} {v : Value}
    (start : skipBlanks s = b :: t) (h : Reader.anyValue.run s = .ok (v, rest))
    (object : v.isObject) : b = 0x7B := by
  by_contra other
  refine Bool.eq_false_iff.mp ?_ object
  change valueOf (some (.value 126)) s = _ at h
  rcases startsValue_cases b with rfl | rfl | rfl | number | rfl | rfl | rfl | nothing
  · exact isObject_map (fun _ => rfl) (valueOf_null start ▸ h)
  · exact isObject_map (fun _ => rfl) (valueOf_true start ▸ h)
  · exact isObject_map (fun _ => rfl) (valueOf_false start ▸ h)
  · exact isObject_map (fun _ => rfl) (valueOf_number start number ▸ h)
  · exact isObject_map (fun _ => rfl) (valueOf_string start ▸ h)
  · exact isObject_map (fun _ => rfl) (valueOf_array start ▸ h)
  · exact absurd rfl other
  · rw [valueOf_other start nothing] at h
    cases h

end Overseer.Json
