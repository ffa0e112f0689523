-- SUMMARY: Decoding JSON into known types, from a text or from a value already read.
import Overseer.Json.Skipped

/-!
# Decoders

A decoder takes what it wants either from a text or from a value already read. From a text the first
fault in reading order counts and has a place; a value has no places, and its members are taken in the
order in which they stand. Records are decoded from objects, whose unknown members are passed over,
and from lists, which hold the fields in their order.
-/

namespace Overseer.Json

/-- How something is decoded from a text and from a value. -/
structure Decoder (α : Type) where
  text : Reader α
  value : Value → Except Mismatch α

namespace Reader

/-- A reader that is chosen by the first octet behind the white space. -/
def leading {α : Type} (next : UInt8 → Bytes → Answer α)
    (consumes : ∀ {b s rest a}, next b s = .ok (a, rest) → rest.length ≤ s.length) : Reader α where
  run s :=
    match skipBlanks s with
    | [] => .error (.peeked (.ended .value) [])
    | b :: rest => next b rest
  consumes := by
    intro s rest a h
    split at h
    · cases h
    · rename_i eq
      exact Nat.lt_of_le_of_lt (consumes h) (skipBlanks_cons_length eq)

def map {α β : Type} (f : α → β) (r : Reader α) : Reader β where
  run s := (r.run s).map f
  consumes h := by
    obtain ⟨_, read, _⟩ := Answer.map_ok h
    exact r.consumes read

/-- What `r` reads, further checked; a complaint is placed behind it. -/
def refine {α β : Type} (f : α → Except Mismatch β) (r : Reader α) : Reader β where
  run s :=
    match r.run s with
    | .error fault => .error fault
    | .ok (a, rest) =>
      match f a with
      | .error why => .error (.unsuitable why rest)
      | .ok b => .ok (b, rest)
  consumes := by
    intro s rest b h
    split at h
    · cases h
    rename_i read
    split at h
    · cases h
    · cases h; exact r.consumes read

end Reader

namespace Decoder

variable {α β σ : Type}

def map (f : α → β) (d : Decoder α) : Decoder β where
  text := d.text.map f
  value v := (d.value v).map f

/-- What `d` decodes, further checked. -/
def refine (f : α → Except Mismatch β) (d : Decoder α) : Decoder β where
  text := d.text.refine f
  value v :=
    match d.value v with
    | .error why => .error why
    | .ok a => f a

/-- Decodes a whole text. -/
def ofText (d : Decoder α) (s : Bytes) : Except Diagnosis α :=
  match d.text.document s with
  | .ok a => .ok a
  | .error fault => .error (fault.diagnosis s)

/-- The complaint about a value of the wrong kind, which starts with `b`. A literal, number or string
    has to be well formed and is passed; a list or object is complained about where it opens. -/
def wrongKind (expected : String) (b : UInt8) (rest : Bytes) : Fault :=
  let complain (answer : Answer Found) : Fault :=
    match answer with
    | .error fault => fault
    | .ok (found, after) => .unsuitable (.invalidType found expected) after
  if b = 0x6E then complain ((word nullTail rest).map fun _ => .null)
  else if b = 0x74 then complain ((word trueTail rest).map fun _ => .bool true)
  else if b = 0x66 then complain ((word falseTail rest).map fun _ => .bool false)
  else if startsNumber b then complain ((Numeral.read (b :: rest)).map .number)
  else if b = 0x22 then complain ((Text.read rest).map .string)
  else if b = 0x5B then .unsuitable (.invalidType .sequence expected) (b :: rest)
  else if b = 0x7B then .unsuitable (.invalidType .map expected) (b :: rest)
  else .peeked .expectedValue (b :: rest)

/-! ## Scalars -/

/-- A string, which a complaint calls `expected`. -/
def stringFor (expected : String) : Decoder String where
  text := .leading
    (fun b rest => if b = 0x22 then Text.read rest else .error (wrongKind expected b rest))
    (by
      intro b s rest a h
      split at h
      · exact Nat.le_of_lt (Text.read_length h)
      · cases h)
  value
    | .string s => .ok s
    | v => .error (.invalidType v.found expected)

def string : Decoder String := stringFor "a string"

/-- The path of a file. -/
def path : Decoder String := stringFor "path string"

def bool : Decoder Bool where
  text := .leading
    (fun b rest =>
      if b = 0x74 then (word trueTail rest).map fun _ => true
      else if b = 0x66 then (word falseTail rest).map fun _ => false
      else .error (wrongKind "a boolean" b rest))
    (by
      intro b s rest a h
      split at h
      · obtain ⟨_, read, _⟩ := Answer.map_ok h
        exact word_length read
      split at h
      · obtain ⟨_, read, _⟩ := Answer.map_ok h
        exact word_length read
      · cases h)
  value
    | .bool b => .ok b
    | v => .error (.invalidType v.found "a boolean")

/-- The integer that a number stands for, which must lie between `low` and `high`. -/
def inRange (low high : Int) (expected : String) : Number → Except Mismatch Int
  | .integer n =>
    if low ≤ n ∧ n ≤ high then .ok n
    else .error (.invalidValue (.number (.integer n)) expected)
  | .real x => .error (.invalidType (.number (.real x)) expected)

/-- A number of any size. -/
def number (expected : String) : Decoder Number where
  text := .leading
    (fun b rest =>
      if startsNumber b then Numeral.read (b :: rest) else .error (wrongKind expected b rest))
    (by
      intro b s rest a h
      split at h
      · have := Numeral.read_length h
        rw [List.length_cons] at this
        omega
      · cases h)
  value
    | .number n => .ok n
    | v => .error (.invalidType v.found expected)

def integer (low high : Int) (expected : String) : Decoder Int :=
  (number expected).refine (inRange low high expected)

/-- An unsigned integer below `2 ^ bits`. -/
def unsigned (bits : Nat) : Decoder Nat :=
  (integer 0 (Width.unsignedMax bits) ("u" ++ toString bits)).map Int.toNat

def uint64 : Decoder UInt64 := (unsigned 64).map UInt64.ofNat

/-- A signed integer of 32 bits. -/
def int32 : Decoder Int32 :=
  (integer (Width.signedMin 32) (Width.signedMax 32) "i32").map Int32.ofInt

/-- Nothing but `null`. -/
def unit : Decoder Unit where
  text := .leading
    (fun b rest => if b = 0x6E then word nullTail rest else .error (wrongKind "unit" b rest))
    (by
      intro b s rest a h
      split at h
      · exact word_length h
      · cases h)
  value
    | .null => .ok ()
    | v => .error (.invalidType v.found "unit")

/-! ## Containers -/

/-- `null`, or what `d` decodes. -/
def option (d : Decoder α) : Decoder (Option α) where
  text := .leading
    (fun b rest =>
      if b = 0x6E then (word nullTail rest).map fun _ => none
      else (d.text.run (b :: rest)).map some)
    (by
      intro b s rest a h
      split at h
      · obtain ⟨_, read, _⟩ := Answer.map_ok h
        exact word_length read
      · obtain ⟨_, read, _⟩ := Answer.map_ok h
        have := d.text.consumes read
        rw [List.length_cons] at this
        omega)
  value
    | .null => .ok none
    | v => (d.value v).map some

def list (d : Decoder α) : Decoder (List α) where
  text := .leading
    (fun b rest =>
      if b = 0x5B then elements d.text [] true rest
      else .error (wrongKind "a sequence" b rest))
    (by
      intro b s rest a h
      split at h
      · exact Nat.le_of_lt (elements_length h)
      · cases h)
  value
    | .array vs => vs.mapM d.value
    | v => .error (.invalidType v.found "a sequence")

/-- An object with any keys; of members with one key the last counts. -/
def dictionary (d : Decoder α) : Decoder (Dictionary α) where
  text := .leading
    (fun b rest =>
      if b = 0x7B then (members d.text [] true rest).map .ofList
      else .error (wrongKind "a map" b rest))
    (by
      intro b s rest a h
      split at h
      · obtain ⟨_, read, _⟩ := Answer.map_ok h
        exact Nat.le_of_lt (members_length read)
      · cases h)
  value
    | .object vs =>
      (vs.mapM fun (member : String × Value) =>
        (d.value member.2).map fun a => (member.1, a)).map .ofList
    | v => .error (.invalidType v.found "a map")

/-! ## Enumerations -/

/-- The closing brace of an object that names one variant. -/
def closeVariant (a : α) (s : Bytes) : Answer α :=
  match skipBlanks s with
  | [] => .error (.behind (.ended .object) [])
  | b :: rest =>
    if b = 0x7D then .ok (a, rest) else .error (.behind .expectedValue (b :: rest))

/-- A variant written as an object with its name as the only key and nothing in it, from behind the
    opening brace. -/
def variantObject (name : Reader α) (s : Bytes) : Answer α :=
  match name.run s with
  | .error fault => .error fault
  | .ok (a, rest) =>
    match colon rest with
    | .error fault => .error fault
    | .ok start =>
      match unit.text.run start with
      | .error fault => .error fault
      | .ok (_, after) => closeVariant a after

theorem closeVariant_length {a b : α} {s rest : Bytes} (h : closeVariant a s = .ok (b, rest)) :
    rest.length < s.length := by
  unfold closeVariant at h
  split at h
  · cases h
  rename_i eq
  have := skipBlanks_cons_length eq
  split at h
  · cases h; exact this
  · cases h

theorem variantObject_length {name : Reader α} {a : α} {s rest : Bytes}
    (h : variantObject name s = .ok (a, rest)) : rest.length < s.length := by
  unfold variantObject at h
  split at h
  · cases h
  rename_i named
  have := name.consumes named
  split at h
  · cases h
  rename_i separated
  have := colon_length separated
  split at h
  · cases h
  rename_i empty
  have := unit.text.consumes empty
  have := closeVariant_length h
  omega

/-- The variant of a name; `other` stands for all names that are not listed. -/
def resolve (variants : List (String × α)) (other : Option α) (name : String) :
    Except Mismatch α :=
  match variants.find? (·.1 = name), other with
  | some (_, a), _ => .ok a
  | none, some a => .ok a
  | none, none => .error (.unknownVariant name (variants.map (·.1)))

/-- One of some named variants. -/
def variant (variants : List (String × α)) (other : Option α) : Decoder α where
  text :=
    let name := (stringFor "variant identifier").text.refine (resolve variants other)
    .leading
      (fun b rest =>
        if b = 0x7B then variantObject name rest
        else if b = 0x22 then name.run (b :: rest)
        else .error (.peeked .expectedValue (b :: rest)))
      (by
        intro b s rest a h
        split at h
        · exact Nat.le_of_lt (variantObject_length h)
        split at h
        · have := name.consumes h
          rw [List.length_cons] at this
          omega
        · cases h)
  value
    | .string s => resolve variants other s
    | .object [(key, v)] =>
      match resolve variants other key with
      | .error why => .error why
      | .ok a => (unit.value v).map fun _ => a
    | .object _ => .error (.invalidValue .map "map with a single key")
    | v => .error (.invalidType v.found "string or map")

/-! ## Records -/

/-- A field of the record `σ`: its key, whether it may be missing, and how it is decoded into a record
    that holds the defaults of what has not been decoded yet. -/
structure RecordField (σ : Type) where
  name : String
  required : Bool
  decoder : Decoder (σ → σ)

/-- A field that keeps its default when it is missing. -/
def RecordField.optional (name : String) (d : Decoder α) (set : α → σ → σ) : RecordField σ :=
  ⟨name, false, d.map set⟩

def RecordField.mandatory (name : String) (d : Decoder α) (set : α → σ → σ) : RecordField σ :=
  ⟨name, true, d.map set⟩

namespace RecordField

def find? (fields : List (RecordField σ)) (key : String) : Option (RecordField σ) :=
  fields.find? (·.name = key)

/-- The first field that must be present and is not among the keys `seen`. -/
def missing? (fields : List (RecordField σ)) (seen : List String) : Option String :=
  (fields.find? fun f => f.required && !seen.contains f.name).map (·.name)

/-- The complaint about a list that ends before the field number `index`. -/
def tooShort (name : String) (count index : Nat) : Mismatch :=
  .invalidLength index
    ("struct " ++ name ++ " with " ++ toString count ++ if count = 1 then " element" else " elements")

/-- Where an object whose members could not all be decoded is left: behind the white space that
    follows, and behind a brace that closes it there. -/
def leave (s : Bytes) : Bytes :=
  match skipBlanks s with
  | [] => []
  | b :: rest => if b = 0x7D then rest else b :: rest

/-- The members of an object and its closing brace. `seen` are the fields decoded so far. -/
def ofObject (fields : List (RecordField σ)) (record : σ) (seen : List String) (first : Bool)
    (s : Bytes) : Answer (σ × List String) :=
  match _next : nextKey first s with
  | .error fault => .error fault
  | .ok (false, rest) => .ok ((record, seen), rest.tail)
  | .ok (true, rest) =>
    match _key : Text.read rest with
    | .error fault => .error fault
    | .ok (key, afterKey) =>
      match find? fields key with
      | some field =>
        if seen.contains key then .error (.unsuitable (.duplicateField key) (leave afterKey))
        else
          match _colon : colon afterKey with
          | .error fault => .error fault
          | .ok start =>
            match _read : field.decoder.text.run start with
            | .error fault => .error fault
            | .ok (set, after) => ofObject fields (set record) (key :: seen) false after
      | none =>
        match _colon : colon afterKey with
        | .error fault => .error fault
        | .ok start =>
          match _read : Reader.skipped.run start with
          | .error fault => .error fault
          | .ok (_, after) => ofObject fields record seen false after
termination_by s.length
decreasing_by
  · have := nextKey_length _next
    have := Text.read_length _key
    have := colon_length _colon
    have := field.decoder.text.consumes _read
    omega
  · have := nextKey_length _next
    have := Text.read_length _key
    have := colon_length _colon
    have := Reader.skipped.consumes _read
    omega

/-- The closing bracket of a list that holds a record. -/
def closeList (record : σ) (s : Bytes) : Answer σ :=
  match skipBlanks s with
  | [] => .error (.peeked (.ended .list) [])
  | b :: rest =>
    if b = 0x5D then .ok (record, rest)
    else if b = 0x2C then
      match skipBlanks rest with
      | [] => .error (.peeked .trailingCharacters [])
      | c :: after =>
        .error (.peeked (if c = 0x5D then .trailingComma else .trailingCharacters) (c :: after))
    else .error (.peeked .trailingCharacters (b :: rest))

/-- The remaining fields from a list, the first of them being number `index` of `count`. -/
def ofList (name : String) (count : Nat) (record : σ) (first : Bool) (index : Nat) :
    List (RecordField σ) → Bytes → Answer σ
  | [], s => closeList record s
  | field :: fields, s =>
    match nextElement first s with
    | .error fault => .error fault
    | .ok (false, rest) =>
      if field.required then .error (.unsuitable (tooShort name count index) rest.tail)
      else ofList name count record first (index + 1) fields s
    | .ok (true, rest) =>
      match field.decoder.text.run rest with
      | .error fault => .error fault
      | .ok (set, after) => ofList name count (set record) false (index + 1) fields after

/-- The members of an object already read. -/
def ofMembers (fields : List (RecordField σ)) (record : σ) (seen : List String) :
    List (String × Value) → Except Mismatch (σ × List String)
  | [] => .ok (record, seen)
  | (key, v) :: rest =>
    match find? fields key with
    | none => ofMembers fields record seen rest
    | some field =>
      if seen.contains key then .error (.duplicateField key)
      else
        match field.decoder.value v with
        | .error why => .error why
        | .ok set => ofMembers fields (set record) (key :: seen) rest

/-- The remaining fields from the elements of a list already read, which had `length` elements. -/
def ofElements (name : String) (count length : Nat) (record : σ) (index : Nat) :
    List (RecordField σ) → List Value → Except Mismatch σ
  | [], [] => .ok record
  | [], _ :: _ => .error (.invalidLength length "fewer elements in array")
  | field :: fields, [] =>
    if field.required then .error (tooShort name count index)
    else ofElements name count length record (index + 1) fields []
  | field :: fields, v :: rest =>
    match field.decoder.value v with
    | .error why => .error why
    | .ok set => ofElements name count length (set record) (index + 1) fields rest

theorem ofObject_length {fields : List (RecordField σ)} {record : σ} {seen : List String} {first : Bool}
    {s rest : Bytes} {found : σ × List String}
    (h : ofObject fields record seen first s = .ok (found, rest)) : rest.length < s.length := by
  fun_induction ofObject fields record seen first s with
  | case1 | case3 | case4 | case5 | case6 | case8 | case9 => cases h
  | case2 _ _ _ _ _ next =>
    obtain ⟨t, rfl⟩ := nextKey_closing next
    have := nextKey_length next
    rw [List.length_cons] at this
    cases h; exact this
  | case7 _ _ _ _ _ next _ _ key field _ _ _ separated _ _ read ih =>
    have := ih h
    have := nextKey_length next
    have := Text.read_length key
    have := colon_length separated
    have := field.decoder.text.consumes read
    omega
  | case10 _ _ _ _ _ next _ _ key _ _ separated _ _ read ih =>
    have := ih h
    have := nextKey_length next
    have := Text.read_length key
    have := colon_length separated
    have := Reader.skipped.consumes read
    omega

theorem closeList_length {record a : σ} {s rest : Bytes}
    (h : closeList record s = .ok (a, rest)) : rest.length < s.length := by
  unfold closeList at h
  split at h
  · cases h
  rename_i eq
  have := skipBlanks_cons_length eq
  split at h
  · cases h; exact this
  split at h
  · split at h
    · cases h
    · cases h
  · cases h

theorem ofList_length {name : String} {count index : Nat} {record a : σ} {first : Bool}
    {fields : List (RecordField σ)} {s rest : Bytes}
    (h : ofList name count record first index fields s = .ok (a, rest)) :
    rest.length < s.length := by
  fun_induction ofList name count record first index fields s with
  | case1 => exact closeList_length h
  | case2 | case3 | case5 => cases h
  | case4 _ _ _ _ _ _ _ _ _ ih => exact ih h
  | case6 _ _ _ field _ _ _ next _ _ read ih =>
    have := ih h
    have := nextElement_length next
    have := field.decoder.text.consumes read
    omega

end RecordField

/-- A record with the given fields; `initial` holds the defaults. -/
def record (name : String) (initial : σ) (fields : List (RecordField σ)) : Decoder σ where
  text := .leading
    (fun b rest =>
      if b = 0x7B then
        match RecordField.ofObject fields initial [] true rest with
        | .error fault => .error fault
        | .ok ((found, seen), after) =>
          match RecordField.missing? fields seen with
          | some field => .error (.unsuitable (.missingField field) after)
          | none => .ok (found, after)
      else if b = 0x5B then RecordField.ofList name fields.length initial true 0 fields rest
      else .error (wrongKind ("struct " ++ name) b rest))
    (by
      intro b s rest a h
      split at h
      · split at h
        · cases h
        rename_i read
        split at h
        · cases h
        · cases h; exact Nat.le_of_lt (RecordField.ofObject_length read)
      split at h
      · exact Nat.le_of_lt (RecordField.ofList_length h)
      · cases h)
  value
    | .object members =>
      match RecordField.ofMembers fields initial [] members with
      | .error why => .error why
      | .ok (found, seen) =>
        match RecordField.missing? fields seen with
        | some field => .error (.missingField field)
        | none => .ok found
    | .array elements =>
      RecordField.ofElements name fields.length elements.length initial 0 fields elements
    | v => .error (.invalidType v.found ("struct " ++ name))

end Decoder

end Overseer.Json
