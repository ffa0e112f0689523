-- SUMMARY: Objects that lack some of the members of another one, and records decoded from them.
import Mathlib.Tactic.Tauto
import Overseer.Json.Decoder

/-!
# Excerpts

Members are taken out of an object, others with new keys are put in, and all are put in any order. A record
decoded from what is left keeps its defaults for what was taken out and does not notice what was put in.
-/

namespace Overseer.Json

open Decoder (RecordField)

variable {σ : Type} {known ms : List (String × Value)} {m : String × Value} {seen : List String} {key : String}

/-- The keys of members in their order. -/
def memberKeys (ms : List (String × Value)) : List String := ms.map Prod.fst

@[simp] theorem memberKeys_nil : memberKeys [] = [] := rfl

@[simp] theorem memberKeys_cons : memberKeys (m :: ms) = m.1 :: memberKeys ms := rfl

/-- Some of the members of `known`, none of them twice, among others with keys that are not known. -/
inductive Excerpt (known : List (String × Value)) : List (String × Value) → Prop where
  | nil : Excerpt known []
  | kept {m : String × Value} {ms : List (String × Value)} (mem : m ∈ known) (once : m.1 ∉ memberKeys ms)
      (others : Excerpt known ms) : Excerpt known (m :: ms)
  | new {m : String × Value} {ms : List (String × Value)} (unknown : m.1 ∉ memberKeys known)
      (others : Excerpt known ms) : Excerpt known (m :: ms)

/-- Nothing is taken out and nothing put in. -/
theorem excerpt_of_subset (nodup : (memberKeys ms).Nodup) (subset : ms ⊆ known) : Excerpt known ms := by
  induction ms with
  | nil => exact .nil
  | cons m ms ih =>
    obtain ⟨once, nodup⟩ := List.nodup_cons.mp nodup
    obtain ⟨mem, subset⟩ := List.cons_subset.mp subset
    exact .kept mem once (ih nodup subset)

-- ---------------------------------------------------------------------------
-- Records
-- ---------------------------------------------------------------------------

namespace Decoder.RecordField

variable {fields : List (RecordField σ)} {field : RecordField σ} {state : List String → σ}

/-- `state seen` is the record once the members with the keys `seen` were taken: every known member leads from
    one such state to the next, and no other member is a field. -/
structure Follows (fields : List (RecordField σ)) (known : List (String × Value)) (state : List String → σ) :
    Prop where
  takes : ∀ m ∈ known, ∃ field set, find? fields m.1 = some field ∧ field.decoder.value m.2 = .ok set ∧
    ∀ seen, set (state seen) = state (m.1 :: seen)
  passes : ∀ key ∉ memberKeys known, find? fields key = none
  same : ∀ seen taken, (∀ key ∈ memberKeys known, key ∈ seen ↔ key ∈ taken) → state seen = state taken

theorem Follows.ofMembers (follows : Follows fields known state) (excerpt : Excerpt known ms)
    (fresh : ∀ key ∈ seen, key ∉ memberKeys ms) : ∃ taken,
      ofMembers fields (state seen) seen ms = .ok (state taken, taken) ∧
        ∀ key ∈ memberKeys known, key ∈ taken ↔ key ∈ seen ∨ key ∈ memberKeys ms := by
  induction excerpt generalizing seen with
  | nil => exact ⟨seen, rfl, fun key _ => by simp⟩
  | @kept m ms mem once others ih =>
    obtain ⟨field, set, found, value, next⟩ := follows.takes m mem
    have new : seen.contains m.1 = false := by
      simpa using fun again => fresh m.1 again List.mem_cons_self
    have later : ∀ key ∈ m.1 :: seen, key ∉ memberKeys ms :=
      List.forall_mem_cons.mpr ⟨once, fun key mem again => fresh key mem (List.mem_cons_of_mem _ again)⟩
    obtain ⟨taken, run, all⟩ := ih later
    refine ⟨taken, ?_, fun key mem => ?_⟩
    · rw [RecordField.ofMembers]
      simp only [found, new, value, Bool.false_eq_true, if_false, next, run]
    · rw [all key mem, memberKeys_cons, List.mem_cons, List.mem_cons]
      tauto
  | @new m ms unknown others ih =>
    have later : ∀ key ∈ seen, key ∉ memberKeys ms := fun key mem again =>
      fresh key mem (List.mem_cons_of_mem _ again)
    obtain ⟨taken, run, all⟩ := ih later
    refine ⟨taken, ?_, fun key mem => ?_⟩
    · rw [RecordField.ofMembers]
      simp only [follows.passes m.1 unknown, run]
    · have other : key ≠ m.1 := fun same => unknown (same ▸ mem)
      rw [all key mem, memberKeys_cons, List.mem_cons, or_iff_right other]

theorem missing?_optional (optional : ∀ field ∈ fields, field.required = false) (seen : List String) :
    missing? fields seen = none := by
  rw [missing?, Option.map_eq_none_iff, List.find?_eq_none]
  intro field mem
  simp [optional field mem]

theorem find?_other (other : key ∉ fields.map (·.name)) : find? fields key = none := by
  rw [find?, List.find?_eq_none]
  intro field mem same
  exact other (List.mem_map.mpr ⟨field, mem, of_decide_eq_true same⟩)

/-- A record none of whose fields must be there, from an excerpt of its members. -/
theorem Follows.value (follows : Follows fields known state) (excerpt : Excerpt known ms) (name : String)
    (optional : ∀ field ∈ fields, field.required = false) :
    (record name (state []) fields).value (.object ms) = .ok (state (memberKeys ms)) := by
  obtain ⟨taken, run, all⟩ := follows.ofMembers excerpt (List.forall_mem_nil _)
  have same : state taken = state (memberKeys ms) := by
    refine follows.same _ _ fun key mem => ?_
    rw [all key mem]
    exact or_iff_right List.not_mem_nil
  simp only [record, run, missing?_optional optional, same]

end Decoder.RecordField

end Overseer.Json
