-- SUMMARY: A value is read at any depth as it is read at a smaller one, or it is nested too deeply.
import Overseer.Proofs.Json.Locality.Value

/-!
# Depth

How many lists and objects are open around a value decides only whether it is refused for its nesting. If it
is not, the answer is that of a reader with more room.
-/

namespace Overseer.Json

variable {α β : Type}

/-- Values are refused for being nested too deeply. -/
def TooDeep (answer : Answer α) : Prop :=
  ∃ fault, answer = .error fault ∧ fault.cause = .malformed .recursionLimit

/-- The answer is that of a reader with more room, unless there is too little of it. -/
def Cramped (answer roomy : Answer α) : Prop := answer = roomy ∨ TooDeep answer

theorem TooDeep.map {answer : Answer α} (h : TooDeep answer) (f : α → β) : TooDeep (answer.map f) := by
  obtain ⟨fault, refused, deep⟩ := h
  exact ⟨fault, map_eq_error.mpr refused, deep⟩

theorem Cramped.map {answer roomy : Answer α} (h : Cramped answer roomy) (f : α → β) :
    Cramped (answer.map f) (roomy.map f) := by
  rcases h with rfl | deep
  · exact .inl rfl
  · exact .inr (deep.map f)

-- ---------------------------------------------------------------------------
-- Lists and objects
-- ---------------------------------------------------------------------------

theorem cramped_elements {inner outer : Reader α} (h : ∀ s, Cramped (inner.run s) (outer.run s))
    (found : List α) (first : Bool) (s : Bytes) :
    Cramped (elements inner found first s) (elements outer found first s) := by
  fun_induction elements inner found first s with
  | case1 found first s fault next => exact .inl (elements_nextElement_error next).symm
  | case2 found first s rest next => exact .inl (elements_end next).symm
  | case3 found first s rest next fault read =>
    rcases h rest with same | ⟨why, refused, deep⟩
    · exact .inl (elements_element_error next (same.symm.trans read)).symm
    · cases read.symm.trans refused
      exact .inr ⟨fault, rfl, deep⟩
  | case4 found first s rest next a after read ih =>
    rcases h rest with same | ⟨why, refused, deep⟩
    · rwa [elements_step next (same.symm.trans read)]
    · cases read.symm.trans refused

theorem cramped_members {inner outer : Reader α} (h : ∀ s, Cramped (inner.run s) (outer.run s))
    (found : List (String × α)) (first : Bool) (s : Bytes) :
    Cramped (members inner found first s) (members outer found first s) := by
  fun_induction members inner found first s with
  | case1 found first s fault next => exact .inl (members_nextKey_error next).symm
  | case2 found first s rest next => exact .inl (members_end next).symm
  | case3 found first s rest next fault key => exact .inl (members_key_error next key).symm
  | case4 found first s rest next key afterKey read fault mark =>
    exact .inl (members_colon_error next read mark).symm
  | case5 found first s rest next key afterKey read start mark fault value =>
    rcases h start with same | ⟨why, refused, deep⟩
    · exact .inl (members_member_error next read mark (same.symm.trans value)).symm
    · cases value.symm.trans refused
      exact .inr ⟨fault, rfl, deep⟩
  | case6 found first s rest next key afterKey read start mark a after value ih =>
    rcases h start with same | ⟨why, refused, deep⟩
    · rwa [members_step next read mark (same.symm.trans value)]
    · cases value.symm.trans refused

-- ---------------------------------------------------------------------------
-- Values
-- ---------------------------------------------------------------------------

/-- What else may be inside matters only to lists and objects. -/
theorem valueOf_flat (nested nested' : Option (Reader Value)) {s : Bytes}
    (flat : ∀ b ∈ (skipBlanks s).head?, b ≠ 0x5B ∧ b ≠ 0x7B) : valueOf nested s = valueOf nested' s := by
  unfold valueOf
  cases start : skipBlanks s with
  | nil => rfl
  | cons b t =>
    obtain ⟨bracket, brace⟩ := flat b (by rw [start]; rfl)
    simp only [if_neg bracket, if_neg brace]

theorem cramped_valueOf {inner outer : Option (Reader Value)}
    (room : ∀ r ∈ inner, ∃ r' ∈ outer, ∀ s, Cramped (r.run s) (r'.run s)) (s : Bytes) :
    Cramped (valueOf inner s) (valueOf outer s) := by
  by_cases flat : ∀ b ∈ (skipBlanks s).head?, b ≠ 0x5B ∧ b ≠ 0x7B
  · exact .inl (valueOf_flat inner outer flat)
  · obtain ⟨b, t, start, opens⟩ : ∃ b t, skipBlanks s = b :: t ∧ (b = 0x5B ∨ b = 0x7B) := by
      simp only [Option.mem_def, List.head?_eq_some_iff, not_forall, ← not_or, not_not] at flat
      obtain ⟨b, ⟨t, start⟩, opens⟩ := flat
      exact ⟨b, t, start, opens⟩
    cases inner with
    | none => exact .inr ⟨_, valueOf_tooDeep start opens, rfl⟩
    | some r =>
      obtain ⟨r', rfl, same⟩ := room r rfl
      rcases opens with rfl | rfl
      · rw [valueOf_array start, valueOf_array start]
        exact (cramped_elements same [] true t).map _
      · rw [valueOf_object start, valueOf_object start]
        exact (cramped_members same [] true t).map _

theorem cramped_value {depth room : Nat} (le : depth ≤ room) (s : Bytes) :
    Cramped ((Reader.value depth).run s) ((Reader.value room).run s) := by
  induction depth generalizing room s with
  | zero =>
    cases room with
    | zero => exact .inl rfl
    | succ room =>
      have flat : Cramped (valueOf none s) (valueOf (some (.value room)) s) :=
        cramped_valueOf (fun r mem => by cases mem) s
      exact flat
  | succ depth ih =>
    cases room with
    | zero => exact absurd le (Nat.not_succ_le_zero depth)
    | succ room =>
      have inside : ∀ r ∈ some (Reader.value depth), ∃ r' ∈ some (Reader.value room),
          ∀ t, Cramped (r.run t) (r'.run t) := by
        rintro r ⟨⟩
        exact ⟨_, rfl, ih (Nat.le_of_succ_le_succ le)⟩
      exact cramped_valueOf inside s

end Overseer.Json
