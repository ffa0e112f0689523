-- SUMMARY: Values with the members of their objects in key order, and what holds throughout a value.
import Mathlib.Data.List.Nodup
import Overseer.Json.Value

/-!
# Sorted values

A value that was read has the members of its objects in key order; a value that is printed has them in any
order. `sorted` takes the second to the first, and `everywhere_of_sorted` brings back what holds throughout
the result, provided that no object has two members with one key.
-/

namespace Overseer

-- ---------------------------------------------------------------------------
-- Entries
-- ---------------------------------------------------------------------------

namespace Entries

variable {α : Type} {key : String} {value : α} {entries : Entries α} {pairs : List (String × α)}
  {p : String × α}

theorem mem_of_mem_insert (h : p ∈ entries.insert key value) : p = (key, value) ∨ p ∈ entries := by
  induction entries with
  | nil => simp_all [insert]
  | cons head rest ih =>
    unfold insert at h
    split_ifs at h
    · simpa using h
    · rcases List.mem_cons.mp h with rfl | mem
      · exact .inl rfl
      · exact .inr (List.mem_cons_of_mem _ mem)
    · rcases List.mem_cons.mp h with rfl | mem
      · exact .inr List.mem_cons_self
      · exact (ih mem).imp id (List.mem_cons_of_mem _)

theorem mem_insert_self : (key, value) ∈ entries.insert key value := by
  induction entries with
  | nil => simp [insert]
  | cons head rest ih =>
    unfold insert
    split_ifs
    · simp
    · simp
    · exact List.mem_cons_of_mem _ ih

/-- Only a pair with the same key gives way. -/
theorem mem_insert_of_mem (other : p.1 ≠ key) (h : p ∈ entries) : p ∈ entries.insert key value := by
  induction entries with
  | nil => cases h
  | cons head rest ih =>
    unfold insert
    split_ifs with smaller same
    · exact List.mem_cons_of_mem _ h
    · rcases List.mem_cons.mp h with rfl | mem
      · exact absurd same.symm other
      · exact List.mem_cons_of_mem _ mem
    · rcases List.mem_cons.mp h with rfl | mem
      · exact List.mem_cons_self
      · exact List.mem_cons_of_mem _ (ih mem)

/-- A key behind all others is put last. -/
theorem insert_last (h : ∀ q ∈ entries, q.1 < key) :
    entries.insert key value = entries ++ [(key, value)] := by
  induction entries with
  | nil => rfl
  | cons head rest ih =>
    have above : head.1 < key := h head (by simp)
    have notBelow : ¬ key < head.1 := fun below => String.lt_irrefl _ (String.lt_trans above below)
    have different : key ≠ head.1 := by
      intro eq
      rw [eq] at above
      exact String.lt_irrefl _ above
    rw [insert, if_neg notBelow, if_neg different, ih fun q mem => h q (by simp [mem]), List.cons_append]

/-- What is put in, in order. -/
def insertAll (entries : Entries α) (pairs : List (String × α)) : Entries α :=
  pairs.foldl (fun entries pair => entries.insert pair.1 pair.2) entries

theorem insertAll_cons :
    entries.insertAll (p :: pairs) = (entries.insert p.1 p.2).insertAll pairs := rfl

theorem mem_of_mem_insertAll (h : p ∈ entries.insertAll pairs) : p ∈ entries ∨ p ∈ pairs := by
  induction pairs generalizing entries with
  | nil => exact .inl h
  | cons q pairs ih =>
    rcases ih h with inserted | later
    · rcases mem_of_mem_insert inserted with rfl | before
      · exact .inr List.mem_cons_self
      · exact .inl before
    · exact .inr (List.mem_cons_of_mem _ later)

theorem mem_of_mem_ofList (h : p ∈ ofList pairs) : p ∈ pairs :=
  (mem_of_mem_insertAll h).resolve_left (by simp)

theorem mem_insertAll_of_mem (other : ∀ q ∈ pairs, p.1 ≠ q.1) (h : p ∈ entries) :
    p ∈ entries.insertAll pairs := by
  induction pairs generalizing entries with
  | nil => exact h
  | cons q pairs ih =>
    exact ih (fun r mem => other r (List.mem_cons_of_mem _ mem))
      (mem_insert_of_mem (other q List.mem_cons_self) h)

/-- If no two pairs have one key, all of them stay. -/
theorem mem_ofList (distinct : (pairs.map (·.1)).Nodup) (h : p ∈ pairs) : p ∈ ofList pairs := by
  suffices ∀ entries : Entries α, p ∈ entries.insertAll pairs from this []
  induction pairs with
  | nil => cases h
  | cons q pairs ih =>
    intro entries
    simp only [List.map_cons, List.nodup_cons, List.mem_map, not_exists, not_and] at distinct
    rw [insertAll_cons]
    rcases List.mem_cons.mp h with rfl | mem
    · exact mem_insertAll_of_mem (fun r later => (distinct.1 r later ·.symm)) mem_insert_self
    · exact ih distinct.2 mem _

theorem insert_ne_nil : entries.insert key value ≠ [] := fun gone => List.not_mem_nil (gone ▸ mem_insert_self)

theorem insertAll_ne_nil (some : entries ≠ []) : entries.insertAll pairs ≠ [] := by
  induction pairs generalizing entries with
  | nil => exact some
  | cons q pairs ih => exact ih insert_ne_nil

theorem ofList_eq_nil : ofList pairs = [] ↔ pairs = [] := by
  cases pairs with
  | nil => exact ⟨fun _ => rfl, fun _ => rfl⟩
  | cons q pairs =>
    have remains : (insert q.1 q.2 []).insertAll pairs ≠ [] := insertAll_ne_nil insert_ne_nil
    exact ⟨fun empty => absurd empty remains, nofun⟩

theorem Sorted.keys_nodup (sorted : entries.Sorted) : (entries.map (·.1)).Nodup := by
  refine List.pairwise_map.mpr (List.Pairwise.imp (fun {p q} lt same => ?_) sorted)
  rw [same] at lt
  exact String.lt_irrefl _ lt

theorem Sorted.nodup (sorted : entries.Sorted) : entries.Nodup := .of_map _ sorted.keys_nodup

/-- If no two pairs have one key, their order does not matter. -/
theorem ofList_perm {others : List (String × α)} (distinct : (pairs.map (·.1)).Nodup)
    (perm : pairs.Perm others) : ofList pairs = ofList others := by
  have distinct' : (others.map (·.1)).Nodup := (perm.map _).nodup_iff.mp distinct
  have same (p : String × α) : p ∈ ofList pairs ↔ p ∈ ofList others :=
    ⟨fun mem => mem_ofList distinct' (perm.mem_iff.mp (mem_of_mem_ofList mem)),
      fun mem => mem_ofList distinct (perm.mem_iff.mpr (mem_of_mem_ofList mem))⟩
  have sorted := sorted_ofList pairs
  have sorted' := sorted_ofList others
  exact List.Perm.eq_of_pairwise (fun p q _ _ lt gt => absurd (String.lt_trans lt gt) (String.lt_irrefl _))
    sorted sorted' ((List.perm_ext_iff_of_nodup sorted.nodup sorted'.nodup).mpr same)

theorem ofList_of_sorted (h : entries.Sorted) : ofList entries = entries := by
  suffices ∀ before : Entries α, Sorted (before ++ entries) →
      before.insertAll entries = before ++ entries from this [] h
  clear h
  induction entries with
  | nil => simp [insertAll]
  | cons q rest ih =>
    intro before sorted
    have below : ∀ r ∈ before, r.1 < q.1 := fun r mem =>
      (List.pairwise_append.mp sorted).2.2 r mem q List.mem_cons_self
    rw [insertAll_cons, insert_last below]
    have split : before ++ q :: rest = before ++ [q] ++ rest := by simp
    rw [split] at sorted ⊢
    exact ih _ sorted

end Entries

namespace Json.Value

-- ---------------------------------------------------------------------------
-- Values inside values
-- ---------------------------------------------------------------------------

/-- The values directly inside a value. -/
def children : Value → List Value
  | array elements => elements
  | object members => members.map (·.2)
  | _ => []

/-- The keys of an object in their order. -/
def keys : Value → List String
  | object members => members.map (·.1)
  | _ => []

/-- `P` holds of a value at depth `d` and of all values inside it at theirs. -/
inductive Everywhere (P : Nat → Value → Prop) : Nat → Value → Prop where
  | intro {d : Nat} {v : Value} (here : P d v) (inside : ∀ w ∈ v.children, Everywhere P (d + 1) w) :
      Everywhere P d v

variable {P Q : Nat → Value → Prop} {d n : Nat} {u v w : Value}

theorem Everywhere.here (h : Everywhere P d v) : P d v := by
  cases h
  assumption

theorem Everywhere.inside (h : Everywhere P d v) (mem : w ∈ v.children) : Everywhere P (d + 1) w := by
  cases h with
  | intro _ inside => exact inside w mem

theorem Everywhere.mono (h : Everywhere P d v) (imp : ∀ ⦃d w⦄, P d w → Q d w) : Everywhere Q d v := by
  induction h with
  | intro here _ ih => exact .intro (imp here) ih

/-- A value with nothing inside. -/
theorem Everywhere.leaf (here : P d v) (childless : v.children = []) : Everywhere P d v := by
  refine .intro here fun w mem => ?_
  rw [childless] at mem
  cases mem

-- ---------------------------------------------------------------------------
-- Sorting
-- ---------------------------------------------------------------------------

mutual

/-- The value with the members of all its objects in key order, one for each key. -/
def sorted : Value → Value
  | null => null
  | bool b => bool b
  | number n => number n
  | string s => string s
  | array elements => array (sortedElements elements)
  | object members => object (Entries.ofList (sortedMembers members))

def sortedElements : List Value → List Value
  | [] => []
  | v :: rest => sorted v :: sortedElements rest

def sortedMembers : List (String × Value) → List (String × Value)
  | [] => []
  | (key, v) :: rest => (key, sorted v) :: sortedMembers rest

end

theorem sortedElements_eq (elements : List Value) : sortedElements elements = elements.map sorted := by
  induction elements with
  | nil => simp [sortedElements]
  | cons v rest ih => simp [sortedElements, ih]

theorem sortedMembers_eq (members : List (String × Value)) :
    sortedMembers members = members.map fun m => (m.1, m.2.sorted) := by
  induction members with
  | nil => simp [sortedMembers]
  | cons m rest ih => simp [sortedMembers, ih]

theorem sorted_array (elements : List Value) : (array elements).sorted = array (elements.map sorted) := by
  rw [sorted, sortedElements_eq]

theorem sorted_object (members : List (String × Value)) :
    (object members).sorted = object (Entries.ofList (members.map fun m => (m.1, m.2.sorted))) := by
  rw [sorted, sortedMembers_eq]

/-- What is inside a sorted value was inside the value. -/
theorem children_sorted (h : u ∈ v.sorted.children) : ∃ w ∈ v.children, u = w.sorted := by
  cases v with
  | null | bool | number | string => simp [sorted, children] at h
  | array elements =>
    rw [sorted_array] at h
    obtain ⟨w, mem, rfl⟩ := List.mem_map.mp h
    exact ⟨w, mem, rfl⟩
  | object members =>
    rw [sorted_object] at h
    obtain ⟨m, mem, rfl⟩ := List.mem_map.mp h
    obtain ⟨n, member, rfl⟩ := List.mem_map.mp (Entries.mem_of_mem_ofList mem)
    exact ⟨n.2, List.mem_map_of_mem member, rfl⟩

theorem mem_children_sorted (distinct : v.keys.Nodup) (h : w ∈ v.children) :
    w.sorted ∈ v.sorted.children := by
  cases v with
  | null | bool | number | string => simp [children] at h
  | array elements =>
    rw [sorted_array]
    exact List.mem_map_of_mem h
  | object members =>
    rw [sorted_object]
    obtain ⟨m, mem, rfl⟩ := List.mem_map.mp h
    refine List.mem_map.mpr ⟨(m.1, m.2.sorted), ?_, rfl⟩
    refine Entries.mem_ofList ?_ (List.mem_map_of_mem mem)
    simpa [keys, List.map_map, Function.comp_def] using distinct

/-- No object in the value has two members with one key. -/
def Distinct (v : Value) : Prop := Everywhere (fun _ w => w.keys.Nodup) 0 v

/-- What holds throughout a value of the sorted values holds throughout the sorted value. -/
theorem Everywhere.sorted (h : Everywhere (fun d w => P d w.sorted) d v) : Everywhere P d v.sorted := by
  induction h with
  | intro here _ ih =>
    refine .intro here fun u mem => ?_
    obtain ⟨w, inside, rfl⟩ := children_sorted mem
    exact ih w inside

/-- And the other way round, if no member gave way to another. -/
theorem everywhere_of_sorted (distinct : Everywhere (fun _ w => w.keys.Nodup) n v)
    (h : Everywhere P d v.sorted) : Everywhere (fun d w => P d w.sorted) d v := by
  induction distinct generalizing d with
  | intro nodup _ ih =>
    refine .intro h.here fun w mem => ?_
    exact ih w mem (h.inside (mem_children_sorted nodup mem))

end Json.Value

end Overseer
