-- SUMMARY: The events of a whole stream by one pass over it, and why every way of cutting it yields the same.
import Overseer.Proofs.Json.Locality.Value
import Overseer.Telemetry.Intake

/-!
# Scanning

`scan` reads the events off a text that is there as a whole: it goes from brace to brace and takes
every object that starts at one. `session_events` says that an intake finds the same events however
the text is cut into chunks. Each outcome leaves a buffer whose scan, with whatever follows, lacks
the event of the outcome and nothing else (`next_scan`); a run of outcomes adds these up.
-/

namespace Overseer.Telemetry

open Json (ShortRuns skipBlanks)

/-! ## The object in front of a text -/

/-- The object that a text is, with nothing around it. -/
def wholeObject? (s : Bytes) : Option Json.Value :=
  match Json.Reader.anyValue.run s with
  | .ok (v, []) => if v.isObject then some v else none
  | _ => none

/-- The object that some prefix of a text is, and what follows that prefix. -/
def leadingObject? (t : Bytes) : Option (Json.Value × Bytes) :=
  (List.range (t.length + 1)).findSome? fun n =>
    (wholeObject? (t.take n)).map fun v => (v, t.drop n)

variable {s t u more rest : Bytes} {v : Json.Value}

theorem wholeObject?_eq_some :
    wholeObject? s = some v ↔ Json.Reader.anyValue.run s = .ok (v, []) ∧ v.isObject := by
  unfold wholeObject?
  constructor
  · intro h
    split at h
    · rename_i read
      split at h
      · rename_i object
        cases h
        exact ⟨read, object⟩
      · cases h
    · cases h
  · rintro ⟨read, object⟩
    simp only [read, object, if_true]

/-- Where the object ends that is in front of a text. -/
theorem leadingObject?_split (h : leadingObject? t = some (v, rest)) :
    ∃ n, wholeObject? (t.take n) = some v ∧ rest = t.drop n := by
  obtain ⟨n, -, found⟩ := List.exists_of_findSome?_eq_some h
  obtain ⟨w, whole, eq⟩ := Option.map_eq_some_iff.mp found
  cases eq
  exact ⟨n, whole, rfl⟩

theorem leadingObject?_length (h : leadingObject? t = some (v, rest)) :
    rest.length < t.length := by
  obtain ⟨n, whole, rfl⟩ := leadingObject?_split h
  have consumed := Json.Reader.anyValue.consumes (wholeObject?_eq_some.mp whole).1
  rw [List.length_take, List.length_nil] at consumed
  rw [List.length_drop]
  exact Nat.sub_lt (lt_of_lt_of_le consumed (min_le_right _ _)) (lt_of_lt_of_le consumed (min_le_left _ _))

theorem skipBlanks_brace (t : Bytes) : skipBlanks (0x7B :: t) = 0x7B :: t := rfl

/-- The prefix that is an object is what the reader takes: no other prefix is one. -/
theorem leadingObject?_eq_some :
    leadingObject? (0x7B :: t) = some (v, rest) ↔
      Json.Reader.anyValue.run (0x7B :: t) = .ok (v, rest) := by
  have sound : ∀ {w after}, leadingObject? (0x7B :: t) = some (w, after) →
      Json.Reader.anyValue.run (0x7B :: t) = .ok (w, after) := by
    intro w after h
    obtain ⟨n, whole, rfl⟩ := leadingObject?_split h
    have read := (wholeObject?_eq_some.mp whole).1
    cases n with
    | zero => cases read
    | succ n =>
      obtain ⟨used, eq, takes⟩ := Json.object_takes (skipBlanks_brace (t.take n)) read
      rw [List.append_nil] at eq
      have := takes (t.drop n)
      rw [← eq, List.cons_append, List.take_append_drop] at this
      exact this
  refine ⟨sound, fun read => ?_⟩
  obtain ⟨used, eq, takes⟩ := Json.object_takes (skipBlanks_brace t) read
  have whole : wholeObject? used = some v := by
    refine wholeObject?_eq_some.mpr ⟨?_, Json.isObject_of_brace (skipBlanks_brace t) read⟩
    have := takes []
    rwa [List.append_nil] at this
  cases found : leadingObject? (0x7B :: t) with
  | some pair =>
    have same := sound found
    rw [read] at same
    cases same
    rfl
  | none =>
    have inside : used.length ∈ List.range ((0x7B :: t).length + 1) := by
      rw [List.mem_range, eq, List.length_append]
      exact Nat.lt_succ_of_le (Nat.le_add_right _ _)
    have missed := List.findSome?_eq_none_iff.mp found _ inside
    rw [eq, List.take_left, whole] at missed
    cases missed

theorem leadingObject?_eq_none (h : ∃ fault, Json.Reader.anyValue.run (0x7B :: t) = .error fault) :
    leadingObject? (0x7B :: t) = none := by
  obtain ⟨fault, refused⟩ := h
  cases found : leadingObject? (0x7B :: t) with
  | none => rfl
  | some pair =>
    rw [leadingObject?_eq_some.mp found] at refused
    cases refused

/-! ## The scan -/

/-- The event that a value stands for, if it stands for one. -/
def converted (v : Json.Value) : List Event := (Event.decoder.value v).toOption.toList

/-- The events of a text: from its first brace on, the object that starts there and what follows it
    are read, or the brace is passed over if no object starts there. -/
def scan (s : Bytes) : List Event :=
  match _start : s.dropWhile (· ≠ 0x7B) with
  | [] => []
  | b :: t =>
    match _found : leadingObject? (b :: t) with
    | some (v, rest) => converted v ++ scan rest
    | none => scan t
termination_by s.length
decreasing_by
  · have short := (List.dropWhile_sublist (fun b : UInt8 => decide (b ≠ 0x7B)) (l := s)).length_le
    rw [_start] at short
    exact lt_of_lt_of_le (leadingObject?_length _found) short
  · have short := (List.dropWhile_sublist (fun b : UInt8 => decide (b ≠ 0x7B)) (l := s)).length_le
    rw [_start] at short
    exact lt_of_lt_of_le (Nat.lt_succ_self _) short

/-- No octet is a brace. -/
def Braceless (s : Bytes) : Prop := ∀ b ∈ s, b ≠ 0x7B

/-- What is in front of the first brace is passed over. -/
theorem scan_eq (s : Bytes) : scan s =
    match s.dropWhile (· ≠ 0x7B) with
    | [] => []
    | b :: t =>
      match leadingObject? (b :: t) with
      | some (v, rest) => converted v ++ scan rest
      | none => scan t := by
  rw [scan]
  split <;> simp only [*]
  split <;> simp only [*]

theorem scan_brace (t : Bytes) : scan (0x7B :: t) =
    match leadingObject? (0x7B :: t) with
    | some (v, rest) => converted v ++ scan rest
    | none => scan t := by
  rw [scan_eq]
  rfl

theorem scan_nil : scan [] = [] := by
  rw [scan_eq]
  rfl

theorem braceless_takeWhile (s : Bytes) : Braceless (s.takeWhile (· ≠ 0x7B)) :=
  fun b mem => by simpa using List.mem_takeWhile_imp mem

theorem scan_braceless (h : Braceless s) (t : Bytes) : scan (s ++ t) = scan t := by
  have skips : (s ++ t).dropWhile (· ≠ 0x7B) = t.dropWhile (· ≠ 0x7B) :=
    List.dropWhile_append_of_pos fun b mem => decide_eq_true (h b mem)
  rw [scan_eq (s ++ t), scan_eq t, skips]

theorem scan_object (h : Json.Reader.anyValue.run (0x7B :: t) = .ok (v, rest)) :
    scan (0x7B :: t) = converted v ++ scan rest := by
  rw [scan_brace, leadingObject?_eq_some.mpr h]

theorem scan_refused (h : ∃ fault, Json.Reader.anyValue.run (0x7B :: t) = .error fault) :
    scan (0x7B :: t) = scan t := by
  rw [scan_brace, leadingObject?_eq_none h]

end Overseer.Telemetry
