-- SUMMARY: Reading JSON texts: literals, lists, objects, values, documents and streams.
import Overseer.Json.Numeral

/-!
# Readers

A reader takes something from the front of a text and answers it with the rest, which is shorter.
Lists and objects are read by repeating a reader of their elements, so that the same steps serve
values of any kind and values of a known shape.
-/

namespace Overseer.Json

/-- A reading function that consumes at least one octet when it succeeds. -/
structure Reader (α : Type) where
  run : Bytes → Answer α
  consumes : ∀ {s rest : Bytes} {a : α}, run s = .ok (a, rest) → rest.length < s.length

/-- The number of lists and objects that may be nested in each other. -/
def maxDepth : Nat := 127

/-! ## Literals and punctuation -/

/-- The remaining letters of a literal. -/
def word : Bytes → Bytes → Answer Unit
  | [], s => .ok ((), s)
  | _ :: _, [] => .error (.behind (.ended .value) [])
  | w :: letters, b :: s => if b = w then word letters s else .error (.behind .expectedIdent s)

/-- `null`, `true` and `false` behind their first letters. -/
def nullTail : Bytes := [0x75, 0x6C, 0x6C]
def trueTail : Bytes := [0x72, 0x75, 0x65]
def falseTail : Bytes := [0x61, 0x6C, 0x73, 0x65]

theorem word_length {letters s rest : Bytes} (h : word letters s = .ok ((), rest)) :
    rest.length ≤ s.length := by
  fun_induction word letters s with
  | case1 => cases h; exact Nat.le_refl _
  | case2 | case4 => cases h
  | case3 _ _ _ ih =>
    have := ih h
    simp only [List.length_cons]; omega

/-- Looks for the next element of a list, behind the opening bracket (`first`) or an element: whether
    there is one, and the text from it or from the closing bracket. -/
def nextElement (first : Bool) (s : Bytes) : Answer Bool :=
  match skipBlanks s with
  | [] => .error (.peeked (.ended .list) [])
  | b :: rest =>
    if b = 0x5D then .ok (false, b :: rest)
    else if first then .ok (true, b :: rest)
    else if b = 0x2C then
      match skipBlanks rest with
      | [] => .error (.peeked (.ended .value) [])
      | c :: after =>
        if c = 0x5D then .error (.peeked .trailingComma (c :: after)) else .ok (true, c :: after)
    else .error (.peeked .expectedListComma (b :: rest))

/-- Looks for the next key of an object, behind the opening brace (`first`) or a member: the text
    from behind the quote that opens the key, or from the closing brace. -/
def nextKey (first : Bool) (s : Bytes) : Answer Bool :=
  match skipBlanks s with
  | [] => .error (.peeked (.ended .object) [])
  | b :: rest =>
    if b = 0x7D then .ok (false, b :: rest)
    else if first then
      if b = 0x22 then .ok (true, rest) else .error (.peeked .keyNotString (b :: rest))
    else if b = 0x2C then
      match skipBlanks rest with
      | [] => .error (.peeked (.ended .value) [])
      | c :: after =>
        if c = 0x22 then .ok (true, after)
        else if c = 0x7D then .error (.peeked .trailingComma (c :: after))
        else .error (.peeked .keyNotString (c :: after))
    else .error (.peeked .expectedObjectComma (b :: rest))

/-- The colon between a key and its value. -/
def colon (s : Bytes) : Except Fault Bytes :=
  match skipBlanks s with
  | [] => .error (.peeked (.ended .object) [])
  | b :: rest => if b = 0x3A then .ok rest else .error (.peeked .expectedColon (b :: rest))

theorem skipBlanks_cons_length {s t : Bytes} {b : UInt8} (h : skipBlanks s = b :: t) :
    t.length < s.length := by
  have := skipBlanks_length s
  rw [h, List.length_cons] at this
  omega

theorem nextElement_length {first more : Bool} {s rest : Bytes}
    (h : nextElement first s = .ok (more, rest)) : rest.length ≤ s.length := by
  unfold nextElement at h
  split at h
  · cases h
  rename_i b t eq
  have := skipBlanks_cons_length eq
  split at h
  · cases h; simp only [List.length_cons]; omega
  split at h
  · cases h; simp only [List.length_cons]; omega
  split at h
  · split at h
    · cases h
    rename_i eq
    have := skipBlanks_cons_length eq
    split at h
    · cases h
    · cases h; simp only [List.length_cons]; omega
  · cases h

/-- Behind the last element of a list stands its closing bracket. -/
theorem nextElement_closing {first : Bool} {s rest : Bytes}
    (h : nextElement first s = .ok (false, rest)) : ∃ t, rest = 0x5D :: t := by
  unfold nextElement at h
  split at h
  · cases h
  split at h
  · rename_i eq
    cases h; exact ⟨_, by rw [eq]⟩
  split at h
  · cases h
  split at h
  · split at h
    · cases h
    split at h
    · cases h
    · cases h
  · cases h

theorem nextKey_length {first more : Bool} {s rest : Bytes}
    (h : nextKey first s = .ok (more, rest)) : rest.length ≤ s.length := by
  unfold nextKey at h
  split at h
  · cases h
  rename_i b t eq
  have := skipBlanks_cons_length eq
  split at h
  · cases h; simp only [List.length_cons]; omega
  split at h
  · split at h
    · cases h; omega
    · cases h
  split at h
  · split at h
    · cases h
    rename_i eq
    have := skipBlanks_cons_length eq
    split at h
    · cases h; omega
    split at h
    · cases h
    · cases h
  · cases h

theorem nextKey_closing {first : Bool} {s rest : Bytes}
    (h : nextKey first s = .ok (false, rest)) : ∃ t, rest = 0x7D :: t := by
  unfold nextKey at h
  split at h
  · cases h
  split at h
  · rename_i eq
    cases h; exact ⟨_, by rw [eq]⟩
  split at h
  · split at h
    · cases h
    · cases h
  split at h
  · split at h
    · cases h
    split at h
    · cases h
    split at h
    · cases h
    · cases h
  · cases h

theorem colon_length {s rest : Bytes} (h : colon s = .ok rest) : rest.length < s.length := by
  unfold colon at h
  split at h
  · cases h
  rename_i eq
  have := skipBlanks_cons_length eq
  split at h
  · cases h; omega
  · cases h

/-! ## Lists and objects -/

/-- The elements of a list and its closing bracket, behind the elements in `found`, the latest of
    which stands first. -/
def elements {α : Type} (element : Reader α) (found : List α) (first : Bool) (s : Bytes) :
    Answer (List α) :=
  match _next : nextElement first s with
  | .error fault => .error fault
  | .ok (false, rest) => .ok (found.reverse, rest.tail)
  | .ok (true, rest) =>
    match _read : element.run rest with
    | .error fault => .error fault
    | .ok (a, after) => elements element (a :: found) false after
termination_by s.length
decreasing_by
  have := nextElement_length _next
  have := element.consumes _read
  omega

/-- The members of an object and its closing brace, behind the members in `found`, the latest of
    which stands first. -/
def members {α : Type} (member : Reader α) (found : List (String × α)) (first : Bool) (s : Bytes) :
    Answer (List (String × α)) :=
  match _next : nextKey first s with
  | .error fault => .error fault
  | .ok (false, rest) => .ok (found.reverse, rest.tail)
  | .ok (true, rest) =>
    match _key : Text.read rest with
    | .error fault => .error fault
    | .ok (key, afterKey) =>
      match _colon : colon afterKey with
      | .error fault => .error fault
      | .ok start =>
        match _read : member.run start with
        | .error fault => .error fault
        | .ok (a, after) => members member ((key, a) :: found) false after
termination_by s.length
decreasing_by
  have := nextKey_length _next
  have := Text.read_length _key
  have := colon_length _colon
  have := member.consumes _read
  omega

theorem elements_length {α : Type} {element : Reader α} {found as : List α} {first : Bool}
    {s rest : Bytes} (h : elements element found first s = .ok (as, rest)) :
    rest.length < s.length := by
  fun_induction elements element found first s with
  | case1 | case3 => cases h
  | case2 _ _ _ t next =>
    obtain ⟨t, rfl⟩ := nextElement_closing next
    have := nextElement_length next
    rw [List.length_cons] at this
    cases h; exact this
  | case4 _ _ _ _ next _ _ read ih =>
    have := ih h
    have := nextElement_length next
    have := element.consumes read
    omega

theorem members_length {α : Type} {member : Reader α} {found as : List (String × α)} {first : Bool}
    {s rest : Bytes} (h : members member found first s = .ok (as, rest)) :
    rest.length < s.length := by
  fun_induction members member found first s with
  | case1 | case3 | case4 | case5 => cases h
  | case2 _ _ _ t next =>
    obtain ⟨t, rfl⟩ := nextKey_closing next
    have := nextKey_length next
    rw [List.length_cons] at this
    cases h; exact this
  | case6 _ _ _ _ next _ _ key _ colonEq _ _ read ih =>
    have := ih h
    have := nextKey_length next
    have := Text.read_length key
    have := colon_length colonEq
    have := member.consumes read
    omega

/-! ## Values -/

/-- Whether a number starts with this octet. -/
def startsNumber (b : UInt8) : Bool := b = 0x2D || Numeral.isDigit b

/-- A value whose lists and objects hold what `nested` reads; none are admitted without it. -/
def valueOf (nested : Option (Reader Value)) (s : Bytes) : Answer Value :=
  match skipBlanks s with
  | [] => .error (.peeked (.ended .value) [])
  | b :: rest =>
    if b = 0x6E then (word nullTail rest).map fun _ => .null
    else if b = 0x74 then (word trueTail rest).map fun _ => .bool true
    else if b = 0x66 then (word falseTail rest).map fun _ => .bool false
    else if startsNumber b then (Numeral.read (b :: rest)).map .number
    else if b = 0x22 then (Text.read rest).map .string
    else if b = 0x5B then
      match nested with
      | none => .error (.peeked .recursionLimit (b :: rest))
      | some element => (elements element [] true rest).map .array
    else if b = 0x7B then
      match nested with
      | none => .error (.peeked .recursionLimit (b :: rest))
      | some member => (members member [] true rest).map fun found =>
        .object (Entries.ofList found)
    else .error (.peeked .expectedValue (b :: rest))

theorem valueOf_length {nested : Option (Reader Value)} {s rest : Bytes} {v : Value}
    (h : valueOf nested s = .ok (v, rest)) : rest.length < s.length := by
  unfold valueOf at h
  split at h
  · cases h
  rename_i b t eq
  have := skipBlanks_cons_length eq
  split at h
  · obtain ⟨_, read, _⟩ := Answer.map_ok h
    have := word_length read
    omega
  split at h
  · obtain ⟨_, read, _⟩ := Answer.map_ok h
    have := word_length read
    omega
  split at h
  · obtain ⟨_, read, _⟩ := Answer.map_ok h
    have := word_length read
    omega
  split at h
  · obtain ⟨_, read, _⟩ := Answer.map_ok h
    have := Numeral.read_length read
    rw [List.length_cons] at this
    omega
  split at h
  · obtain ⟨_, read, _⟩ := Answer.map_ok h
    have := Text.read_length read
    omega
  split at h
  · split at h
    · cases h
    · obtain ⟨_, read, _⟩ := Answer.map_ok h
      have := elements_length read
      omega
  split at h
  · split at h
    · cases h
    · obtain ⟨_, read, _⟩ := Answer.map_ok h
      have := members_length read
      omega
  · cases h

namespace Reader

/-- A value with at most `depth` lists and objects nested in each other. -/
def value : (depth : Nat) → Reader Value
  | 0 => ⟨valueOf none, valueOf_length⟩
  | depth + 1 => ⟨valueOf (some (value depth)), valueOf_length⟩

/-- Any value within the nesting limit. -/
def anyValue : Reader Value := value maxDepth

/-- A whole text: what `r` reads, with nothing but white space behind it. -/
def document {α : Type} (r : Reader α) (s : Bytes) : Except Fault α :=
  match r.run s with
  | .error fault => .error fault
  | .ok (a, rest) =>
    match skipBlanks rest with
    | [] => .ok a
    | b :: after => .error (.peeked .trailingCharacters (b :: after))

end Reader

/-! ## Streams -/

/-- Whether a value that starts with this octet shows where it ends. -/
def delimitsItself (b : UInt8) : Bool := b = 0x5B || b = 0x22 || b = 0x7B

/-- Whether this octet may follow a literal or a number. -/
def endsValue (b : UInt8) : Bool :=
  isBlank b || b = 0x22 || b = 0x5B || b = 0x5D || b = 0x7B || b = 0x7D || b = 0x2C || b = 0x3A

/-- The first value of an unframed sequence of values and what follows it; nothing if there is only
    white space. A number or literal at the end of the text counts as complete. -/
def firstValue (s : Bytes) : Except Fault (Option (Value × Bytes)) :=
  match skipBlanks s with
  | [] => .ok none
  | b :: t =>
    match Reader.anyValue.run (b :: t) with
    | .error fault => .error fault
    | .ok (v, rest) =>
      match rest with
      | [] => .ok (some (v, []))
      | c :: after =>
        if delimitsItself b || endsValue c then .ok (some (v, c :: after))
        else .error (.peeked .trailingCharacters (c :: after))

end Overseer.Json
