-- SUMMARY: The text of an event: it is read back, closes nothing that was open before it, and hides no other event.
import Overseer.Proofs.Json.Printed.Braces
import Overseer.Proofs.Telemetry.Inside
import Overseer.Proofs.Telemetry.Trail

/-!
# Records

A record is an event with a text that writes it: the compact text of its value, the members of each object
standing in any order. The reader takes the text and nothing else for the event (`Record.exact`). A brace in
front of it that is still open cannot be closed by it (`Record.keepsOpen`). And whoever reads from the
middle of it reads no event (`Record.silent_inside`): outside of strings an inner object is read, which is
none; inside a string, each key that is read starts where a string of the record ends, thus with a blank or
a mark.
-/

namespace Overseer.Telemetry

open Json (Outline Value Readable OpensKey)
open Json.Outline (run step run_cons_eq_some run_append_eq_some Balanced KeepsOpen Punctuation Crossed)
open Json.Reader (anyValue)
open Json.Value (Everywhere)

/-- The text is the compact text of the event's value, but for the order of members. -/
def Event.Writes (e : Event) (text : Bytes) : Prop :=
  ∃ v : Value, v.Distinct ∧ v.sorted = e.encode.sorted ∧ text = v.octets

/-- An event and a text that writes it. -/
structure Record where
  event : Event
  text : Bytes
  written : event.Writes text

namespace Record

/-- The record of an event whose members stand in the order of its fields and keys. -/
def ofEvent (e : Event) : Record where
  event := e
  text := Bytes.ofString e.line
  written := by
    refine ⟨e.encode, e.tidy.mono fun _ _ tidy => tidy.1, rfl, ?_⟩
    rw [Bytes.ofString, Event.line, Value.text, String.toList_ofList]
    rfl

variable {d : Nat} {v : Value} {s t rest before behind : Bytes}

theorem readable_sorted : Readable d v.sorted ↔ Readable d v := by
  cases v with
  | null | bool | number | string => simp [Value.sorted, Readable]
  | array => simp [Value.sorted_array, Readable]
  | object => simp [Value.sorted_object, Readable]

/-- A value that is an event's but for the order of members. -/
theorem inner_of_sorted {e : Event} (distinct : v.Distinct) (same : v.sorted = e.encode.sorted) :
    v.Everywhere Inner 0 := by
  have throughout : e.encode.Everywhere (fun d w => Readable d w.sorted ∧ (0 < d → Silent w.sorted)) 0 :=
    e.tidy.mono fun _ _ tidy => ⟨readable_sorted.mpr tidy.2.1, tidy.2.2⟩
  have read := throughout.sorted (P := fun d u => Readable d u ∧ (0 < d → Silent u))
  rw [← same] at read
  exact (Json.Value.everywhere_of_sorted distinct read).mono fun _ _ h => ⟨readable_sorted.mp h.1, h.2⟩

theorem object_of_sorted {e : Event} (same : v.sorted = e.encode.sorted) :
    ∃ members, v = .object members ∧ members ≠ [] := by
  cases v with
  | object members =>
    refine ⟨members, rfl, ?_⟩
    rintro rfl
    rw [Event.encode, Value.sorted_object, Value.sorted_object, Value.object.injEq] at same
    have empty := Entries.ofList_eq_nil.mp same.symm
    cases empty
  | null | bool | number | string =>
    rw [Event.encode, Value.sorted_object] at same
    simp [Value.sorted] at same
  | array =>
    rw [Event.encode, Value.sorted_object, Value.sorted_array] at same
    cases same

/-- The value that a record prints. -/
theorem value (r : Record) : ∃ members, (Value.object members).Everywhere Inner 0 ∧
    (Value.object members).Distinct ∧ (Value.object members).sorted = r.event.encode.sorted ∧
    r.text = (Value.object members).octets := by
  obtain ⟨v, distinct, same, text⟩ := r.written
  obtain ⟨members, rfl, -⟩ := object_of_sorted same
  exact ⟨members, inner_of_sorted distinct same, distinct, same, text⟩

-- ---------------------------------------------------------------------------
-- From the front
-- ---------------------------------------------------------------------------

/-- The record is read as its event, whatever follows it. -/
theorem exact (r : Record) : Json.Exact anyValue.run r.text r.event.encode.sorted := by
  obtain ⟨members, inner, -, same, text⟩ := r.value
  rw [text, ← same]
  exact Json.exact_anyValue (inner.mono fun _ _ h => h.1)

theorem converted_event (e : Event) : converted e.encode.sorted = [e] := by
  simp [converted, Event.inverts e, Except.toOption]

theorem brace (r : Record) : ∃ t, r.text = 0x7B :: t := by
  obtain ⟨members, -, -, -, text⟩ := r.value
  obtain ⟨t, octets⟩ := Value.octets_object_head members
  exact ⟨t, text.trans octets⟩

theorem balanced (r : Record) : ∃ q, q.Outside ∧ Balanced .between r.text q := by
  obtain ⟨members, inner, -, -, text⟩ := r.value
  rw [text]
  exact Json.balanced_octets (inner.mono fun _ _ h => h.1) (by decide)

/-- The keys of an event. -/
theorem key_of_event {e : Event} {m : String × Value}
    (h : ∃ members, e.encode = .object members ∧ m ∈ members) :
    m.1 = "type" ∨ m.1 = "id" ∨ m.1 = "data" := by
  obtain ⟨members, eq, mem⟩ := h
  cases eq
  rcases List.mem_append.mp mem with fixed | optional
  · simp only [List.mem_cons, List.not_mem_nil, or_false] at fixed
    rcases fixed with rfl | rfl
    · exact .inl rfl
    · exact .inr (.inl rfl)
  · obtain ⟨stats, -, rfl⟩ := List.mem_map.mp optional
    exact .inr (.inr rfl)

/-- A record starts with a brace and one of the keys of an event. -/
theorem starts (r : Record) : ∃ key more, r.text = 0x7B :: 0x22 :: (Json.Text.behindQuote key ++ more) ∧
    (key = "type" ∨ key = "id" ∨ key = "data") := by
  obtain ⟨members, inner, distinct, same, text⟩ := r.value
  have kind : (Value.string r.event.kind.name).sorted ∈ (Value.object members).sorted.children :=
    same ▸ Json.Value.mem_children_sorted r.event.tidy.here.1 (by simp [Event.encode, Value.children])
  obtain ⟨w, inside, -⟩ := Json.Value.children_sorted kind
  cases members with
  | nil => cases inside
  | cons m members =>
    refine ⟨m.1, 0x3A :: m.2.octets ++ Value.membersTail members, ?_, ?_⟩
    · rw [text, Value.octets_object_cons, Value.memberOctets, List.append_assoc]
    · rw [Event.encode, Value.sorted_object, Value.sorted_object] at same
      have entries := Value.object.inj same
      have here : (m.1, m.2.sorted) ∈ Entries.ofList ((m :: members).map fun m => (m.1, m.2.sorted)) := by
        refine Entries.mem_ofList ?_ (by simp)
        simpa [Value.keys, List.map_map, Function.comp_def] using distinct.here
      rw [entries] at here
      obtain ⟨n, mem, eq⟩ := List.mem_map.mp (Entries.mem_of_mem_ofList here)
      have key := key_of_event ⟨_, rfl, mem⟩
      rwa [(Prod.mk.inj eq).1] at key

/-- No brace that is open in front of a record is closed in it. -/
theorem keepsOpen (r : Record) : KeepsOpen r.text := by
  obtain ⟨q, -, balanced⟩ := r.balanced
  obtain ⟨key, more, text, known⟩ := r.starts
  have first : ∃ c s, Json.Text.behindQuote key = c :: s ∧ ¬ Punctuation c := by
    rcases known with rfl | rfl | rfl
    · exact ⟨0x74, _, rfl, by simp [Punctuation, Json.isBlank]⟩
    · exact ⟨0x69, _, rfl, by simp [Punctuation, Json.isBlank]⟩
    · exact ⟨0x64, _, rfl, by simp [Punctuation, Json.isBlank]⟩
  obtain ⟨c, s, start, solid⟩ := first
  rw [start, List.cons_append] at text
  rw [text] at balanced ⊢
  exact Json.Outline.keepsOpen_of_key ⟨_, balanced⟩ solid

-- ---------------------------------------------------------------------------
-- From the middle
-- ---------------------------------------------------------------------------

/-- A key that starts with a blank or a mark is not the one that an event needs. -/
theorem key_ne_type {c : UInt8} {key : String} (mark : Punctuation c)
    (h : Json.Text.read (c :: s) = .ok (key, rest)) : key ≠ "type" := by
  rintro rfl
  have other : c.toNat < 0x80 ∧ Json.Outline.Plain c ∧ some 't' ≠ some (Char.ofNat c.toNat) := by
    rcases mark with blank | rfl | rfl | rfl | rfl
    · simp only [Json.isBlank, Bool.or_eq_true, decide_eq_true_eq] at blank
      rcases blank with ((rfl | rfl) | rfl) | rfl
      all_goals exact ⟨by decide, by simp [Json.Outline.Plain], by decide⟩
    all_goals exact ⟨by decide, by simp [Json.Outline.Plain], by decide⟩
  exact other.2.2 (Json.Text.read_head other.1 other.2.1 h)

/-- Whoever reads an object from a brace inside a string of the record, to whose end the record goes on as
    `outline` says, reads keys that start where strings of the record end. -/
theorem silent_inString {o q : Outline} (inString : o.place = .inString) (outlined : run o behind = some q)
    (read : anyValue.run (0x7B :: behind) = .ok (v, rest)) : converted v = [] := by
  obtain ⟨u, p, found, rfl, -, -, rfl, opens⟩ := Json.object_outline read
  refine converted_object fun w k mem => ?_
  obtain ⟨before, inside, left, rfl, between, key⟩ := opens _ (Entries.mem_of_mem_ofList mem)
  rw [List.append_assoc, List.cons_append] at outlined
  obtain ⟨m, first, later⟩ := run_append_eq_some.mp outlined
  have start : Crossed o.place (⟨[], .between⟩ : Outline).place := .inl ⟨inString, .inl rfl⟩
  have crossed : Crossed m.place .between := start.run first between
  obtain ⟨awaited, place⟩ := m
  obtain rfl : place = .inString := by
    rcases crossed with ⟨inside, -⟩ | ⟨-, impossible⟩
    · exact inside
    · cases impossible
  obtain ⟨m, quote, onward⟩ := run_cons_eq_some.mp later
  cases quote
  have next : ∃ c s, inside ++ 0x7D :: rest = c :: s :=
    List.exists_cons_of_ne_nil (by simp)
  obtain ⟨c, s, next⟩ := next
  rw [next] at onward key
  obtain ⟨_, mark, -⟩ := run_cons_eq_some.mp onward
  exact absurd rfl (key_ne_type (Json.Outline.punctuation_of_step mark) key)

/-- Whoever reads an object from a brace outside of strings reads one of the record's. -/
theorem silent_outside (r : Record) {o : Outline} (split : r.text = before ++ 0x7B :: behind)
    (nonempty : before ≠ []) (outlined : run ⟨[], .between⟩ before = some o)
    (between : o.place = .between) (read : anyValue.run (0x7B :: behind) = .ok (v, rest)) :
    converted v = [] := by
  obtain ⟨members, inner, -, -, text⟩ := r.value
  obtain ⟨t, octets, braces⟩ := Json.braces_inside (fun _ _ h => h.1) inner (by decide)
  rw [text, octets] at split
  cases before with
  | nil => exact absurd rfl nonempty
  | cons b before =>
    obtain ⟨rfl, inside⟩ := List.cons.inj split
    have opened : run ⟨[0x7D], .between⟩ before = some o := outlined
    obtain ⟨w, n, deep, object, holds, part⟩ := braces inside opened between
    obtain ⟨more, eq⟩ := part
    cases w with
    | object ws =>
      have exact := Json.exact_anyValue (holds.mono fun _ _ h => h.1)
      rw [← eq, exact.whole] at read
      cases read
      refine holds.here.2 deep ?_
      rw [Value.sorted_object]
      rfl
    | null | bool | number | string | array => cases object

/-- Whoever reads from the middle of a record reads no event. -/
theorem silent_inside (r : Record) (split : r.text = before ++ 0x7B :: behind) (nonempty : before ≠ [])
    (read : anyValue.run (0x7B :: behind) = .ok (v, rest)) : converted v = [] := by
  obtain ⟨q, -, balanced⟩ := r.balanced
  rw [split] at balanced
  obtain ⟨⟨awaited, place⟩, front, back⟩ := run_append_eq_some.mp balanced
  obtain ⟨o, first, later⟩ := run_cons_eq_some.mp back
  cases place with
  | between => exact r.silent_outside split nonempty front rfl read
  | behindString =>
    have mark := Json.Outline.punctuation_of_step first
    simp [Punctuation, Json.isBlank] at mark
  | inString | inEscape =>
    cases first
    exact silent_inString rfl later read

end Record

end Overseer.Telemetry
