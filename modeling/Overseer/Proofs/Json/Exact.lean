-- SUMMARY: Texts that a reader takes whole, and of which it asks for the rest when the end is missing.
import Mathlib.Data.List.Infix
import Overseer.Json.Reader

/-!
# Exact texts

A text is exact for a reader when it is taken whatever follows it, and when any part of it that lacks the
end is refused as unfinished. Where an exact text arrives in pieces, the reader waits for the last of
them and then takes what it would have taken from the whole.
-/

namespace Overseer

-- ---------------------------------------------------------------------------
-- Texts without their ends
-- ---------------------------------------------------------------------------

/-- `u` is the text `t` without its end. -/
def Cut (u t : Bytes) : Prop := u <+: t ∧ u ≠ t

variable {s t u : Bytes} {b : UInt8}

theorem not_cut_nil : ¬ Cut u [] := fun h => h.2 (List.prefix_nil.mp h.1)

theorem cut_cons (h : Cut u (b :: t)) : u = [] ∨ ∃ w, u = b :: w ∧ Cut w t := by
  obtain ⟨part, other⟩ := h
  cases u with
  | nil => exact .inl rfl
  | cons c w =>
    obtain ⟨rfl, inner⟩ := List.cons_prefix_cons.mp part
    refine .inr ⟨w, rfl, inner, ?_⟩
    rintro rfl
    exact other rfl

theorem prefix_singleton (h : u <+: [b]) : u = [] ∨ u = [b] := by
  rcases List.prefix_cons_iff.mp h with empty | ⟨w, rfl, rest⟩
  · exact .inl empty
  · exact .inr (congrArg (b :: ·) (List.prefix_nil.mp rest))

/-- Without its end, a single octet is gone. -/
theorem cut_singleton (h : Cut u [b]) : u = [] := by
  rcases cut_cons h with empty | ⟨w, -, impossible⟩
  · exact empty
  · exact absurd impossible not_cut_nil

/-- The end is missing in the first part or in the second. -/
theorem cut_append (h : Cut u (s ++ t)) : Cut u s ∨ ∃ w, u = s ++ w ∧ Cut w t := by
  induction s generalizing u with
  | nil => exact .inr ⟨u, rfl, h⟩
  | cons b s ih =>
    rcases cut_cons h with rfl | ⟨w, rfl, rest⟩
    · exact .inl ⟨List.nil_prefix, nofun⟩
    · rcases ih rest with ⟨part, other⟩ | ⟨v, rfl, behind⟩
      · refine .inl ⟨List.cons_prefix_cons.mpr ⟨rfl, part⟩, ?_⟩
        intro eq
        cases eq
        exact other rfl
      · exact .inr ⟨v, rfl, behind⟩

namespace Json

-- ---------------------------------------------------------------------------
-- Exact texts
-- ---------------------------------------------------------------------------

variable {α β : Type}

/-- The text ended too early. -/
def AsksForMore (answer : Answer α) : Prop := ∃ fault, answer = .error fault ∧ fault.isUnfinished

structure Exact (read : Bytes → Answer α) (text : Bytes) (a : α) : Prop where
  whole : ∀ more, read (text ++ more) = .ok (a, more)
  part : ∀ ⦃u⦄, Cut u text → AsksForMore (read u)

theorem AsksForMore.map {answer : Answer α} (h : AsksForMore answer) (f : α → β) :
    AsksForMore (answer.map f) := by
  obtain ⟨fault, rfl, unfinished⟩ := h
  exact ⟨fault, rfl, unfinished⟩

theorem Exact.map {read : Bytes → Answer α} {a : α} (h : Exact read t a) (f : α → β) :
    Exact (fun s => (read s).map f) t (f a) where
  whole more := by simp [h.whole, Answer.map]
  part u cut := (h.part cut).map f

/-- A reader that looks for its first octet and goes on behind it. -/
theorem Exact.cons {read inner : Bytes → Answer α} {a : α} (h : Exact inner t a)
    (start : ∀ s, read (b :: s) = inner s) (empty : AsksForMore (read [])) : Exact read (b :: t) a where
  whole more := by rw [List.cons_append, start, h.whole]
  part u cut := by
    rcases cut_cons cut with rfl | ⟨w, rfl, rest⟩
    · exact empty
    · rw [start]
      exact h.part rest

/-- The letters of a literal. -/
theorem exact_word (letters : Bytes) : Exact (word letters) letters () := by
  induction letters with
  | nil => exact ⟨fun more => by simp [word], fun u cut => absurd cut not_cut_nil⟩
  | cons b letters ih =>
    exact ih.cons (fun s => by simp [word]) ⟨_, rfl, rfl⟩

end Json

end Overseer
