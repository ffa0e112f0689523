-- SUMMARY: The compact and the indented text of a value are among its layouts.
import Overseer.Proofs.Json.Layout
import Overseer.Proofs.Json.Printed.Value

/-!
# Printed layouts

Both printings of a value are texts of it. Compact text has no white space between its parts; indented text
has a line break with some spaces in front of every item and of what closes them.
-/

namespace Overseer.Json

variable {α : Type} {v : Value} {vs : List Value} {m : String × Value} {ms : List (String × Value)} {d : Nat}

-- ---------------------------------------------------------------------------
-- Scalars
-- ---------------------------------------------------------------------------

theorem spelled_behindQuote (s : String) : Spelled s (Text.behindQuote s) := (Text.exact_read s).whole

theorem lays_quoted (s : String) : Lays (.string s) (Utf8.encode (quoted s)) := by
  rw [Text.encode_quoted]
  exact .string (spelled_behindQuote s)

/-- Integers that fit 64 bits, signed or unsigned. -/
theorem lays_int {n : Int} (low : -(Width.count 63 : Int) ≤ n) (high : n ≤ Numeral.maxSignificand) :
    Lays (.int n) (Value.int n).octets := by
  obtain ⟨k, rfl⟩ | ⟨k, rfl⟩ : (∃ k : Nat, n = k) ∨ ∃ k : Nat, n = -(k + 1 : Nat) := by
    cases n with
    | ofNat k => exact .inl ⟨k, rfl⟩
    | negSucc k => exact .inr ⟨k, rfl⟩
  · have text : (Value.int k).octets = Utf8.encode (Nat.toDigits 10 k) := by
      rw [Value.octets, Value.int, Value.compact, Numeral.text_integer]
    rw [text]
    exact .number fun _ ends => (Numeral.decimal_toDigits k).read (by omega) ends
  · have text : (Value.int (-(k + 1 : Nat))).octets = 0x2D :: Utf8.encode (Nat.toDigits 10 (k + 1)) := by
      rw [Value.octets, Value.int, Value.compact, Numeral.text_negative]
      rfl
    rw [text]
    exact .number fun _ ends => (Numeral.decimal_toDigits (k + 1)).read_negative (by omega) (by omega) ends

theorem lays_nat {n : Nat} (fits : n ≤ Numeral.maxSignificand) : Lays (.nat n) (Value.nat n).octets :=
  lays_int (by omega) (by omega)

theorem lays_bool (truth : Bool) : Lays (.bool truth) (Value.bool truth).octets := by
  cases truth with
  | true => exact .bool .true
  | false => exact .bool .false

-- ---------------------------------------------------------------------------
-- Items
-- ---------------------------------------------------------------------------

section Items

variable {item : α → Bytes → Prop} {close : UInt8} {text : α → Bytes} {b c e : Bytes} {a : α} {as : List α}

/-- What stands between the items and around them, if it is the same everywhere. -/
def itemsTail (b c e : Bytes) (close : UInt8) (text : α → Bytes) (as : List α) : Bytes :=
  as.flatMap (fun a => b ++ 0x2C :: (c ++ text a)) ++ (e ++ [close])

theorem series_itemsTail (before : Blanks b) (behind : Blanks c) (last : Blanks e)
    (each : ∀ a ∈ as, item a (text a)) : Series item close as (itemsTail b c e close text as) := by
  induction as with
  | nil => exact .close last
  | cons a as ih =>
    obtain ⟨first, others⟩ := List.forall_mem_cons.mp each
    have series := Series.more before behind first (ih others)
    simpa [itemsTail] using series

theorem enclosed_items (before : Blanks b) (behind : Blanks c) (last : Blanks e)
    (each : ∀ x ∈ a :: as, item x (text x)) :
    Enclosed item close (a :: as) (c ++ (text a ++ itemsTail b c e close text as)) := by
  obtain ⟨first, others⟩ := List.forall_mem_cons.mp each
  exact .items behind first (series_itemsTail before behind last others)

end Items

theorem member_compact (lays : Lays m.2 m.2.octets) : Member Lays m (0x22 :: Value.memberOctets m) :=
  .intro (spelled_behindQuote m.1) .nil .nil lays

-- ---------------------------------------------------------------------------
-- Legible values
-- ---------------------------------------------------------------------------

/-- A number, if it is one, is read back from its text. -/
def Legible (_ : Nat) : Value → Prop
  | .number n => Lays (.number n) (Value.number n).octets
  | _ => True

theorem legible_int32 (n : Int32) (d : Nat) : (Value.int n.toInt).Everywhere Legible d := by
  have low := n.le_toInt
  have high := n.toInt_lt
  have limit : Numeral.maxSignificand = 2 ^ 64 - 1 := rfl
  have count : Width.count 63 = 2 ^ 63 := rfl
  exact .leaf (lays_int (by omega) (by omega)) rfl

theorem legible_nat {n : Nat} (fits : n ≤ Numeral.maxSignificand) (d : Nat) :
    (Value.nat n).Everywhere Legible d := .leaf (lays_nat fits) rfl

theorem legible_string (s : String) (d : Nat) : (Value.string s).Everywhere Legible d := .leaf trivial rfl

theorem legible_bool (truth : Bool) (d : Nat) : (Value.bool truth).Everywhere Legible d := .leaf trivial rfl

theorem legible_ofOption {encode : α → Value} (each : ∀ a, (encode a).Everywhere Legible d) (a : Option α) :
    (Value.ofOption encode a).Everywhere Legible d := by
  cases a with
  | none => exact .leaf trivial rfl
  | some a => exact each a

theorem legible_array (each : ∀ v ∈ vs, v.Everywhere Legible (d + 1)) : (Value.array vs).Everywhere Legible d :=
  .intro trivial each

theorem legible_object (each : ∀ m ∈ ms, m.2.Everywhere Legible (d + 1)) :
    (Value.object ms).Everywhere Legible d := by
  refine .intro trivial fun w mem => ?_
  obtain ⟨m, member, rfl⟩ := List.mem_map.mp mem
  exact each m member

-- ---------------------------------------------------------------------------
-- Compact text
-- ---------------------------------------------------------------------------

theorem lays_array (each : ∀ v ∈ vs, Lays v v.octets) : Lays (.array vs) (Value.array vs).octets := by
  cases vs with
  | nil => exact .array (.empty .nil)
  | cons v vs =>
    rw [Value.octets_array_cons]
    exact .array (enclosed_items (c := []) .nil .nil .nil each)

theorem lays_object (each : ∀ m ∈ ms, Lays m.2 m.2.octets) : Lays (.object ms) (Value.object ms).octets := by
  cases ms with
  | nil => exact .object (.empty .nil)
  | cons m ms =>
    rw [Value.octets_object_cons]
    exact .object (enclosed_items (c := []) .nil .nil .nil fun m mem => member_compact (each m mem))

/-- The compact text is a text of the value. -/
theorem lays_octets (legible : v.Everywhere Legible d) : Lays v v.octets := by
  induction legible with
  | @intro _ v here _ ih =>
    cases v with
    | null => exact .null
    | bool truth => exact lays_bool truth
    | number => exact here
    | string s => exact lays_quoted s
    | array vs => exact lays_array ih
    | object ms => exact lays_object fun m mem => ih m.2 (List.mem_map_of_mem mem)

theorem document_text (legible : v.Everywhere Legible d) : Document v (Bytes.ofString v.text) := by
  have octets : Bytes.ofString v.text = v.octets := by
    rw [Bytes.ofString, Value.text, String.toList_ofList, Value.octets]
  exact octets ▸ (lays_octets legible).document

-- ---------------------------------------------------------------------------
-- Indented text
-- ---------------------------------------------------------------------------

namespace Value

/-- The octets of the indented text inside `depth` lists and objects. -/
def indentedOctets (depth : Nat) (v : Value) : Bytes := Utf8.encode (v.indented depth)

/-- The octets of a line break and the indentation. -/
def lineOctets (depth : Nat) : Bytes := Utf8.encode (lineAt depth)

def indentedMember (depth : Nat) (m : String × Value) : Bytes :=
  0x22 :: (Text.behindQuote m.1 ++ 0x3A :: 0x20 :: m.2.indentedOctets depth)

theorem blanks_lineOctets (depth : Nat) : Blanks (lineOctets depth) := by
  have spaces : ∀ n, Blanks (Utf8.encode (List.replicate n ' ')) := by
    intro n
    induction n with
    | zero => exact .nil
    | succ n ih => exact ih.cons rfl
  exact (spaces (2 * depth)).cons rfl

theorem encode_indentedElements (depth : Nat) :
    Utf8.encode (indentedElements depth (v :: vs)) = lineOctets depth ++ (v.indentedOctets depth ++
      vs.flatMap fun w => 0x2C :: (lineOctets depth ++ w.indentedOctets depth)) := by
  induction vs generalizing v with
  | nil => simp [indentedElements, lineOctets, indentedOctets]
  | cons w vs ih =>
    have comma : Utf8.encode (',' :: indentedElements depth (w :: vs))
        = 0x2C :: Utf8.encode (indentedElements depth (w :: vs)) := rfl
    rw [indentedElements, Utf8.encode_append, comma, ih]
    simp [lineOctets, indentedOctets]
    nofun

theorem encode_indentedMember (depth : Nat) (m : String × Value) :
    Utf8.encode (quoted m.1 ++ ':' :: ' ' :: m.2.indented depth) = indentedMember depth m := by
  have colon : Utf8.encode (':' :: ' ' :: m.2.indented depth) = 0x3A :: 0x20 :: m.2.indentedOctets depth := rfl
  rw [Utf8.encode_append, Text.encode_quoted, colon, indentedMember, List.cons_append]

theorem encode_indentedMembers (depth : Nat) :
    Utf8.encode (indentedMembers depth (m :: ms)) = lineOctets depth ++ (indentedMember depth m ++
      ms.flatMap fun n => 0x2C :: (lineOctets depth ++ indentedMember depth n)) := by
  induction ms generalizing m with
  | nil =>
    rw [indentedMembers, List.append_assoc, Utf8.encode_append, encode_indentedMember]
    simp [lineOctets]
  | cons n ms ih =>
    have comma : Utf8.encode (',' :: indentedMembers depth (n :: ms))
        = 0x2C :: Utf8.encode (indentedMembers depth (n :: ms)) := rfl
    have split : indentedMembers depth (m :: n :: ms)
        = lineAt depth ++ (quoted m.1 ++ ':' :: ' ' :: m.2.indented depth)
          ++ ',' :: indentedMembers depth (n :: ms) := by
      simp [indentedMembers]
    rw [split, Utf8.encode_append, Utf8.encode_append, encode_indentedMember, comma, ih]
    simp [lineOctets]

theorem indentedOctets_array_cons (depth : Nat) :
    (array (v :: vs)).indentedOctets depth = 0x5B :: (lineOctets (depth + 1) ++ (v.indentedOctets (depth + 1) ++
      itemsTail [] (lineOctets (depth + 1)) (lineOctets depth) 0x5D (indentedOctets (depth + 1)) vs)) := by
  have opening (cs : List Char) : Utf8.encode ('[' :: cs) = 0x5B :: Utf8.encode cs := rfl
  have closing : Utf8.encode [']'] = [0x5D] := rfl
  have printed : (array (v :: vs)).indented depth
      = '[' :: indentedElements (depth + 1) (v :: vs) ++ lineAt depth ++ [']'] := by simp [indented]
  rw [indentedOctets, printed, Utf8.encode_append, Utf8.encode_append, opening, encode_indentedElements, closing]
  simp [itemsTail, lineOctets]

theorem indentedOctets_object_cons (depth : Nat) :
    (object (m :: ms)).indentedOctets depth = 0x7B :: (lineOctets (depth + 1) ++ (indentedMember (depth + 1) m ++
      itemsTail [] (lineOctets (depth + 1)) (lineOctets depth) 0x7D (indentedMember (depth + 1)) ms)) := by
  have opening (cs : List Char) : Utf8.encode ('\x7b' :: cs) = 0x7B :: Utf8.encode cs := rfl
  have closing : Utf8.encode ['\x7d'] = [0x7D] := rfl
  have printed : (object (m :: ms)).indented depth
      = '\x7b' :: indentedMembers (depth + 1) (m :: ms) ++ lineAt depth ++ ['\x7d'] := by simp [indented]
  rw [indentedOctets, printed, Utf8.encode_append, Utf8.encode_append, opening, encode_indentedMembers, closing]
  simp [itemsTail, lineOctets]

end Value

theorem member_indented {depth : Nat} (lays : Lays m.2 (m.2.indentedOctets depth)) :
    Member Lays m (Value.indentedMember depth m) :=
  .intro (spelled_behindQuote m.1) .nil (Blanks.nil.cons rfl) lays

/-- The indented text is a text of the value, at any depth. -/
theorem lays_indentedOctets (legible : v.Everywhere Legible d) (depth : Nat) :
    Lays v (v.indentedOctets depth) := by
  induction legible generalizing depth with
  | @intro _ v here _ ih =>
    cases v with
    | null => exact .null
    | bool truth => exact lays_bool truth
    | number => exact here
    | string s => exact lays_quoted s
    | array vs =>
      cases vs with
      | nil => exact .array (.empty .nil)
      | cons v vs =>
        rw [Value.indentedOctets_array_cons]
        exact .array (enclosed_items .nil (Value.blanks_lineOctets _) (Value.blanks_lineOctets _)
          fun w mem => ih w mem (depth + 1))
    | object ms =>
      cases ms with
      | nil => exact .object (.empty .nil)
      | cons m ms =>
        rw [Value.indentedOctets_object_cons]
        exact .object (enclosed_items .nil (Value.blanks_lineOctets _) (Value.blanks_lineOctets _)
          fun n mem => member_indented (ih n.2 (List.mem_map_of_mem mem) (depth + 1)))

theorem document_prettyText (legible : v.Everywhere Legible d) :
    Document v (Bytes.ofString v.prettyText) := by
  have octets : Bytes.ofString v.prettyText = v.indentedOctets 0 := by
    rw [Bytes.ofString, Value.prettyText, String.toList_ofList, Value.indentedOctets]
  exact octets ▸ (lays_indentedOctets legible 0).document

end Overseer.Json
