-- SUMMARY: Finite maps with string keys, in key order.

/-!
# Dictionaries

Association lists with strictly increasing keys. Keys are compared code point by code point, which is
also the order of their UTF-8 octets. Inserting a key that is present replaces its value.
-/

namespace Overseer

/-- The pairs of a map from strings. -/
abbrev Entries (α : Type) := List (String × α)

namespace Entries

variable {α : Type}

/-- The keys increase strictly. -/
def Sorted (entries : Entries α) : Prop := entries.Pairwise (fun a b => a.1 < b.1)

/-- Puts a value under a key of a sorted list. -/
def insert (key : String) (value : α) : Entries α → Entries α
  | [] => [(key, value)]
  | (k, v) :: rest =>
    if key < k then (key, value) :: (k, v) :: rest
    else if key = k then (key, value) :: rest
    else (k, v) :: insert key value rest

/-- The sorted list of some pairs; of pairs with one key the last stays. -/
def ofList (pairs : List (String × α)) : Entries α :=
  pairs.foldl (fun entries pair => entries.insert pair.1 pair.2) []

/-- The value under a key. -/
def get? (entries : Entries α) (key : String) : Option α :=
  (entries.find? (·.1 = key)).map (·.2)

theorem sorted_nil : Sorted ([] : Entries α) := List.Pairwise.nil

theorem mem_keys_insert {key : String} {value : α} {entries : Entries α} {p : String × α}
    (h : p ∈ entries.insert key value) : p.1 = key ∨ p ∈ entries := by
  induction entries with
  | nil => simp_all [insert]
  | cons head rest ih =>
    obtain ⟨k, v⟩ := head
    unfold insert at h
    split at h
    · simp only [List.mem_cons] at h ⊢
      rcases h with rfl | h
      · exact .inl rfl
      · exact .inr h
    · split at h
      · simp only [List.mem_cons] at h ⊢
        rcases h with rfl | h
        · exact .inl rfl
        · exact .inr (.inr h)
      · simp only [List.mem_cons] at h ⊢
        rcases h with rfl | h
        · exact .inr (.inl rfl)
        · exact (ih h).imp id .inr

theorem sorted_insert {key : String} {value : α} {entries : Entries α} (h : entries.Sorted) :
    (entries.insert key value).Sorted := by
  induction entries with
  | nil => simp [insert, Sorted]
  | cons head rest ih =>
    obtain ⟨k, v⟩ := head
    obtain ⟨first, tail⟩ := List.pairwise_cons.mp h
    unfold insert
    split
    · rename_i lt
      refine List.pairwise_cons.mpr ⟨?_, h⟩
      intro p mem
      rcases List.mem_cons.mp mem with rfl | mem
      · exact lt
      · exact String.lt_trans lt (first p mem)
    · rename_i notLt
      split
      · rename_i eq
        subst eq
        exact List.pairwise_cons.mpr ⟨first, tail⟩
      · rename_i ne
        refine List.pairwise_cons.mpr ⟨?_, ih tail⟩
        intro p mem
        have lt : k < key := by
          refine String.not_le.mp fun le => ?_
          exact ne (String.le_antisymm le (String.not_lt.mp notLt))
        rcases mem_keys_insert mem with eq | mem
        · exact eq ▸ lt
        · exact first p mem

theorem sorted_ofList (pairs : List (String × α)) : (ofList pairs).Sorted := by
  suffices ∀ entries : Entries α, entries.Sorted →
      (pairs.foldl (fun entries pair => entries.insert pair.1 pair.2) entries).Sorted from
    this [] sorted_nil
  induction pairs with
  | nil => exact fun _ h => h
  | cons head rest ih => exact fun _ h => ih _ (sorted_insert h)

end Entries

/-- A finite map from strings. -/
structure Dictionary (α : Type) where
  entries : Entries α
  sorted : entries.Sorted

namespace Dictionary

variable {α : Type}

theorem ext {a b : Dictionary α} (h : a.entries = b.entries) : a = b := by
  cases a; cases b; cases h; rfl

instance [DecidableEq α] : DecidableEq (Dictionary α) := fun a b =>
  if h : a.entries = b.entries then isTrue (ext h) else isFalse (fun eq => h (eq ▸ rfl))

def empty : Dictionary α := ⟨[], Entries.sorted_nil⟩

instance : Inhabited (Dictionary α) := ⟨empty⟩

def ofList (pairs : List (String × α)) : Dictionary α :=
  ⟨Entries.ofList pairs, Entries.sorted_ofList pairs⟩

end Dictionary

end Overseer
