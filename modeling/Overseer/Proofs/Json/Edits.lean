-- SUMMARY: Edits of a value that change nothing in what is decoded from it.
import Mathlib.Data.List.Pairwise
import Mathlib.Data.List.Perm.Basic
import Overseer.Proofs.Json.Agreement
import Overseer.Proofs.Json.Sorted

/-!
# Edits

Members with unknown keys are put into an object, members that say what holds anyway are taken out, and all are
put in another order; the same is done inside of the members, of the elements of lists and of the entries of
tables. What is decoded stays the same, provided that the fields of a record can be set in any order.
-/

namespace Overseer

-- ---------------------------------------------------------------------------
-- Lists
-- ---------------------------------------------------------------------------

section Lists

variable {α β ε : Type} {f : α → Except ε β} {a b : α} {as bs : List α} {x : β} {xs : List β}

theorem mapM_replace (same : ∀ x, f a = .ok x → f b = .ok x) (before after : List α)
    (all : (before ++ a :: after).mapM f = .ok xs) : (before ++ b :: after).mapM f = .ok xs := by
  induction before generalizing xs with
  | nil =>
    obtain ⟨y, ys, first, others, rfl⟩ := mapM_cons_eq_ok.mp all
    exact mapM_cons_eq_ok.mpr ⟨y, ys, same y first, others, rfl⟩
  | cons c before ih =>
    obtain ⟨y, ys, first, others, rfl⟩ := mapM_cons_eq_ok.mp all
    exact mapM_cons_eq_ok.mpr ⟨y, ys, first, ih others, rfl⟩

theorem mapM_perm (perm : as.Perm bs) (all : as.mapM f = .ok xs) : ∃ ys, bs.mapM f = .ok ys ∧ xs.Perm ys := by
  induction perm generalizing xs with
  | nil => exact ⟨xs, all, .refl xs⟩
  | cons a _ ih =>
    obtain ⟨y, ys, first, others, rfl⟩ := mapM_cons_eq_ok.mp all
    obtain ⟨zs, moved, perm⟩ := ih others
    exact ⟨y :: zs, mapM_cons_eq_ok.mpr ⟨y, zs, first, moved, rfl⟩, perm.cons y⟩
  | swap a b as =>
    obtain ⟨y, ys, first, others, rfl⟩ := mapM_cons_eq_ok.mp all
    obtain ⟨z, zs, second, rest, rfl⟩ := mapM_cons_eq_ok.mp others
    have moved : (a :: b :: as).mapM f = .ok (z :: y :: zs) :=
      mapM_cons_eq_ok.mpr ⟨z, y :: zs, second, mapM_cons_eq_ok.mpr ⟨y, zs, first, rest, rfl⟩, rfl⟩
    exact ⟨z :: y :: zs, moved, .swap z y zs⟩
  | trans _ _ ih ih' =>
    obtain ⟨ys, moved, perm⟩ := ih all
    obtain ⟨zs, again, perm'⟩ := ih' moved
    exact ⟨zs, again, perm.trans perm'⟩

end Lists

namespace Json

variable {α β σ : Type} {v w : Value} {m : String × Value} {ms ns : List (String × Value)} {key : String}

-- ---------------------------------------------------------------------------
-- What a record is made of
-- ---------------------------------------------------------------------------

namespace Decoder.RecordField

variable {fields : List (RecordField σ)} {field : RecordField σ} {record initial a : σ} {set : σ → σ}
  {sets puts : List (String × (σ → σ))} {seen taken : List String}

/-- What those members set that are fields, with their keys and in their order. -/
inductive Sets (fields : List (RecordField σ)) : List (String × Value) → List (String × (σ → σ)) → Prop where
  | nil : Sets fields [] []
  | field {key : String} {v : Value} {field : RecordField σ} {set : σ → σ} {ms : List (String × Value)}
      {sets : List (String × (σ → σ))} (known : find? fields key = some field)
      (value : field.decoder.value v = .ok set) (others : Sets fields ms sets) :
      Sets fields ((key, v) :: ms) ((key, set) :: sets)
  | other {key : String} {v : Value} {ms : List (String × Value)} {sets : List (String × (σ → σ))}
      (unknown : find? fields key = none) (others : Sets fields ms sets) : Sets fields ((key, v) :: ms) sets

/-- The record after all was set. -/
def apply (record : σ) (sets : List (String × (σ → σ))) : σ := sets.foldl (fun r set => set.2 r) record

/-- The keys of what is set, in its order. -/
def setKeys (sets : List (String × (σ → σ))) : List String := sets.map (·.1)

theorem ofMembers_eq_ok :
    ofMembers fields record seen ms = .ok (a, taken) ↔
      ∃ sets, Sets fields ms sets ∧ (setKeys sets).Nodup ∧ (∀ key ∈ setKeys sets, key ∉ seen) ∧
        a = apply record sets ∧ taken = (setKeys sets).reverse ++ seen := by
  induction ms generalizing record seen with
  | nil =>
    constructor
    · rintro ⟨⟩
      exact ⟨[], .nil, .nil, List.forall_mem_nil _, rfl, rfl⟩
    · rintro ⟨sets, ⟨⟩, -, -, rfl, rfl⟩
      rfl
  | cons m ms ih =>
    obtain ⟨key, v⟩ := m
    constructor
    · intro decoded
      rw [ofMembers] at decoded
      split at decoded
      · rename_i unknown
        obtain ⟨sets, made, distinct, fresh, rfl, rfl⟩ := ih.mp decoded
        exact ⟨sets, .other unknown made, distinct, fresh, rfl, rfl⟩
      rename_i field known
      split at decoded
      · cases decoded
      rename_i new
      split at decoded
      · cases decoded
      rename_i set value
      obtain ⟨sets, made, distinct, fresh, rfl, rfl⟩ := ih.mp decoded
      have once : key ∉ setKeys sets := fun again => fresh key again List.mem_cons_self
      refine ⟨(key, set) :: sets, .field known value made, List.nodup_cons.mpr ⟨once, distinct⟩, ?_, rfl, ?_⟩
      · exact List.forall_mem_cons.mpr ⟨by simpa using new,
          fun other mem seen => fresh other mem (List.mem_cons_of_mem _ seen)⟩
      · simp [setKeys]
    · rintro ⟨sets, made, distinct, fresh, rfl, rfl⟩
      rw [ofMembers]
      cases made with
      | other unknown made =>
        simp only [unknown]
        exact ih.mpr ⟨sets, made, distinct, fresh, rfl, rfl⟩
      | @field _ _ field set _ sets known value made =>
        obtain ⟨once, distinct⟩ := List.nodup_cons.mp distinct
        obtain ⟨new, fresh⟩ := List.forall_mem_cons.mp fresh
        have unseen : seen.contains key = false := by simpa using new
        simp only [known, unseen, value, Bool.false_eq_true, if_false]
        refine ih.mpr ⟨sets, made, distinct, fun other mem => ?_, rfl, by simp [setKeys]⟩
        have different : other ≠ key := by
          rintro rfl
          exact once mem
        simp [different, fresh other mem]

theorem missing?_eq_none :
    missing? fields seen = none ↔ ∀ field ∈ fields, field.required → field.name ∈ seen := by
  rw [missing?, Option.map_eq_none_iff, List.find?_eq_none]
  simp

/-- How a record comes from the members of an object: these are `sets`, one for each field, all fields that must be
    there among them. -/
structure Makes (fields : List (RecordField σ)) (initial : σ) (ms : List (String × Value))
    (sets : List (String × (σ → σ))) (a : σ) : Prop where
  made : Sets fields ms sets
  once : (setKeys sets).Nodup
  complete : ∀ field ∈ fields, field.required → field.name ∈ setKeys sets
  result : a = apply initial sets

theorem value_record_eq_ok {name : String} :
    (Decoder.record name initial fields).value (.object ms) = .ok a ↔ ∃ sets, Makes fields initial ms sets a := by
  simp only [Decoder.record]
  constructor
  · intro decoded
    split at decoded
    · cases decoded
    rename_i found taken members
    split at decoded
    · cases decoded
    rename_i complete
    cases decoded
    obtain ⟨sets, made, distinct, -, rfl, rfl⟩ := ofMembers_eq_ok.mp members
    refine ⟨sets, made, distinct, fun field mem required => ?_, rfl⟩
    simpa using missing?_eq_none.mp complete field mem required
  · rintro ⟨sets, made, distinct, complete, rfl⟩
    have members : ofMembers fields initial [] ms = .ok (apply initial sets, (setKeys sets).reverse ++ []) :=
      ofMembers_eq_ok.mpr ⟨sets, made, distinct, fun _ _ => List.not_mem_nil, rfl, rfl⟩
    have nothing : missing? fields ((setKeys sets).reverse ++ []) = none :=
      missing?_eq_none.mpr fun field mem required => by simpa using complete field mem required
    rw [members]
    simp only [nothing]

-- ---------------------------------------------------------------------------
-- The order of what is set
-- ---------------------------------------------------------------------------

/-- What these two fields set can be set in either order. -/
def Commutes (f g : RecordField σ) : Prop :=
  ∀ ⦃v w s t⦄, f.decoder.value v = .ok s → g.decoder.value w = .ok t → ∀ r, s (t r) = t (s r)

instance : Std.Symm (@Commutes σ) where
  symm _ _ commutes _ _ _ _ first second r := (commutes second first r).symm

theorem commutes_map {d : Decoder α} {e : Decoder β} {name other : String} {required mandatory : Bool}
    {set : α → σ → σ} {put : β → σ → σ} (swap : ∀ a b r, set a (put b r) = put b (set a r)) :
    Commutes ⟨name, required, d.map set⟩ ⟨other, mandatory, e.map put⟩ := by
  intro v w s t first second r
  obtain ⟨a, -, rfl⟩ := except_map_eq_ok.mp first
  obtain ⟨b, -, rfl⟩ := except_map_eq_ok.mp second
  exact swap a b r

/-- The fields have different names, and any two of them can be set in either order. -/
structure Independent (fields : List (RecordField σ)) : Prop where
  names : (fields.map (·.name)).Nodup
  commute : fields.Pairwise Commutes

theorem find?_some (known : find? fields key = some field) : field ∈ fields ∧ field.name = key := by
  refine ⟨mem_of_find? known, ?_⟩
  rw [find?] at known
  simpa using List.find?_some known

/-- Where the names differ, a field is found by its own. -/
theorem find?_name (names : (fields.map (·.name)).Nodup) (mem : field ∈ fields) :
    find? fields field.name = some field := by
  induction fields with
  | nil => cases mem
  | cons f fields ih =>
    obtain ⟨new, names⟩ := List.nodup_cons.mp names
    rcases List.mem_cons.mp mem with rfl | mem
    · simp [find?]
    · have different : f.name ≠ field.name := fun same => new (List.mem_map.mpr ⟨field, mem, same.symm⟩)
      rw [find?, List.find?_cons_of_neg (by simpa using different)]
      exact ih names mem

theorem Sets.of_mem (made : Sets fields ms sets) {p : String × (σ → σ)} (mem : p ∈ sets) :
    ∃ field v, find? fields p.1 = some field ∧ field.decoder.value v = .ok p.2 := by
  induction made with
  | nil => cases mem
  | @field key v field set _ _ known value _ ih =>
    rcases List.mem_cons.mp mem with rfl | mem
    · exact ⟨field, v, known, value⟩
    · exact ih mem
  | other _ _ ih => exact ih mem

/-- In whatever order it is set, the record is the same. -/
theorem Sets.apply_perm (independent : Independent fields) (made : Sets fields ms sets)
    (once : (setKeys sets).Nodup) (perm : sets.Perm puts) (record : σ) : apply record sets = apply record puts := by
  refine perm.foldl_eq' (fun p mem q mem' r => ?_) record
  by_cases same : p = q
  · rw [same]
  have keys : p.1 ≠ q.1 := fun eq => same (List.inj_on_of_nodup_map once mem mem' eq)
  obtain ⟨f, v, found, value⟩ := made.of_mem mem
  obtain ⟨g, w, found', value'⟩ := made.of_mem mem'
  obtain ⟨inside, name⟩ := find?_some found
  obtain ⟨inside', name'⟩ := find?_some found'
  have different : g ≠ f := by
    rintro rfl
    exact keys (name.symm.trans name')
  exact independent.commute.forall inside' inside different value' value r

theorem Sets.perm (made : Sets fields ms sets) (perm : ms.Perm ns) :
    ∃ puts, Sets fields ns puts ∧ sets.Perm puts := by
  induction perm generalizing sets with
  | nil => exact ⟨sets, made, .refl sets⟩
  | cons m _ ih =>
    cases made with
    | field known value others =>
      obtain ⟨puts, made, perm⟩ := ih others
      exact ⟨_ :: puts, .field known value made, perm.cons _⟩
    | other unknown others =>
      obtain ⟨puts, made, perm⟩ := ih others
      exact ⟨puts, .other unknown made, perm⟩
  | swap m n ms =>
    cases made with
    | field known value others =>
      cases others with
      | field known' value' others => exact ⟨_, .field known' value' (.field known value others), .swap _ _ _⟩
      | other unknown others => exact ⟨_, .other unknown (.field known value others), .refl _⟩
    | other unknown others =>
      cases others with
      | field known value others => exact ⟨_, .field known value (.other unknown others), .refl _⟩
      | other unknown' others => exact ⟨_, .other unknown' (.other unknown others), .refl _⟩
  | trans _ _ ih ih' =>
    obtain ⟨puts, made, perm⟩ := ih made
    obtain ⟨last, made, perm'⟩ := ih' made
    exact ⟨last, made, perm.trans perm'⟩

theorem sets_append : Sets fields (ms ++ ns) sets ↔
    ∃ first second, Sets fields ms first ∧ Sets fields ns second ∧ sets = first ++ second := by
  induction ms generalizing sets with
  | nil =>
    constructor
    · exact fun made => ⟨[], sets, .nil, made, rfl⟩
    · rintro ⟨first, second, ⟨⟩, made, rfl⟩
      exact made
  | cons m ms ih =>
    constructor
    · intro made
      cases made with
      | field known value others =>
        obtain ⟨first, second, front, back, rfl⟩ := ih.mp others
        exact ⟨_ :: first, second, .field known value front, back, rfl⟩
      | other unknown others =>
        obtain ⟨first, second, front, back, rfl⟩ := ih.mp others
        exact ⟨first, second, .other unknown front, back, rfl⟩
    · rintro ⟨first, second, front, back, rfl⟩
      cases front with
      | field known value others => exact .field known value (ih.mpr ⟨_, second, others, back, rfl⟩)
      | other unknown others => exact .other unknown (ih.mpr ⟨first, second, others, back, rfl⟩)

end Decoder.RecordField

-- ---------------------------------------------------------------------------
-- Edits
-- ---------------------------------------------------------------------------

open Decoder (RecordField)
open Decoder.RecordField (find?)

/-- An edit inside of one element of a list. -/
inductive InElement (edit : Value → Value → Prop) : Value → Value → Prop where
  | intro (before after : List Value) {v w : Value} (inside : edit v w) :
      InElement edit (.array (before ++ v :: after)) (.array (before ++ w :: after))

/-- An edit of a table, whose keys are data: inside of one entry, or of their order. -/
inductive InTable (edit : Value → Value → Prop) : Value → Value → Prop where
  | entry (before after : List (String × Value)) {key : String} {v w : Value} (inside : edit v w) :
      InTable edit (.object (before ++ (key, v) :: after)) (.object (before ++ (key, w) :: after))
  | order {ms ns : List (String × Value)} (distinct : (ms.map (·.1)).Nodup) (perm : ms.Perm ns) :
      InTable edit (.object ms) (.object ns)

/-- An edit of an object from which a record is decoded. `inside` lists how the values of its fields may be edited. -/
inductive InRecord (initial : σ) (fields : List (RecordField σ)) (inside : List (String × (Value → Value → Prop))) :
    Value → Value → Prop where
  /-- A member is put in whose key is not known. -/
  | unknown (before after : List (String × Value)) {key : String} {v : Value}
      (unknown : find? fields key = none) :
      InRecord initial fields inside (.object (before ++ after)) (.object (before ++ (key, v) :: after))
  /-- A member is taken out that sets a field to its default, which may be missing. -/
  | default (before after : List (String × Value)) {key : String} {v : Value} {field : RecordField σ} {set : σ → σ}
      (known : find? fields key = some field) (optional : field.required = false)
      (value : field.decoder.value v = .ok set) (default : set initial = initial) :
      InRecord initial fields inside (.object (before ++ (key, v) :: after)) (.object (before ++ after))
  | order {ms ns : List (String × Value)} (perm : ms.Perm ns) :
      InRecord initial fields inside (.object ms) (.object ns)
  | field (before after : List (String × Value)) {key : String} {v w : Value} {edit : Value → Value → Prop}
      (mem : (key, edit) ∈ inside) (edited : edit v w) :
      InRecord initial fields inside (.object (before ++ (key, v) :: after)) (.object (before ++ (key, w) :: after))

/-- Before and after an edit of a record's object there is an object. -/
theorem InRecord.objects {initial : σ} {fields : List (RecordField σ)}
    {inside : List (String × (Value → Value → Prop))} (edited : InRecord initial fields inside v w) :
    v ≠ .null ∧ w ≠ .null := by
  cases edited with
  | unknown | default | order | field => exact ⟨nofun, nofun⟩

namespace Decoder

variable {d : Decoder α} {edit : Value → Value → Prop}

/-- What `d` decodes is not changed by an edit. -/
def Ignores (d : Decoder α) (edit : Value → Value → Prop) : Prop :=
  ∀ ⦃v w a⦄, edit v w → d.value v = .ok a → d.value w = .ok a

theorem Ignores.map (ignores : d.Ignores edit) (f : α → β) : (d.map f).Ignores edit := by
  intro v w b edited decoded
  obtain ⟨a, found, rfl⟩ := except_map_eq_ok.mp decoded
  exact except_map_eq_ok.mpr ⟨a, ignores edited found, rfl⟩

theorem Ignores.option (ignores : d.Ignores edit) (present : ∀ ⦃v w⦄, edit v w → v ≠ .null ∧ w ≠ .null) :
    (option d).Ignores edit := by
  intro v w a edited decoded
  obtain ⟨there, still⟩ := present edited
  rw [option_present there] at decoded
  rw [option_present still]
  exact ignores.map some edited decoded

theorem Ignores.list (ignores : d.Ignores edit) : (list d).Ignores (InElement edit) := by
  intro v w as edited decoded
  cases edited with
  | intro before after inside => exact mapM_replace (fun a value => ignores inside value) before after decoded

/-- How a table is made of its entries. -/
theorem dictionary_eq_ok {entries : Dictionary α} :
    (dictionary d).value (.object ms) = .ok entries ↔
      ∃ ps, (ms.mapM fun m => (d.value m.2).map fun a => (m.1, a)) = .ok ps ∧ entries = .ofList ps := by
  have value : (dictionary d).value (.object ms)
      = (ms.mapM fun m => (d.value m.2).map fun a => (m.1, a)).map .ofList := rfl
  rw [value]
  exact except_map_eq_ok

/-- The keys of the entries are those of the members. -/
theorem keys_mapM {ps : List (String × α)}
    (all : (ms.mapM fun m => (d.value m.2).map fun a => (m.1, a)) = .ok ps) : ps.map (·.1) = ms.map (·.1) := by
  induction ms generalizing ps with
  | nil =>
    cases all
    rfl
  | cons m ms ih =>
    obtain ⟨p, qs, first, others, rfl⟩ := mapM_cons_eq_ok.mp all
    obtain ⟨a, -, rfl⟩ := except_map_eq_ok.mp first
    rw [List.map_cons, List.map_cons, ih others]

theorem Ignores.dictionary (ignores : d.Ignores edit) : (dictionary d).Ignores (InTable edit) := by
  intro v w entries edited decoded
  cases edited with
  | @entry before after key _ _ inside =>
    obtain ⟨ps, all, rfl⟩ := dictionary_eq_ok.mp decoded
    refine dictionary_eq_ok.mpr ⟨ps, mapM_replace (fun p value => ?_) before after all, rfl⟩
    exact ignores.map (fun a => (key, a)) inside value
  | order distinct perm =>
    obtain ⟨ps, all, rfl⟩ := dictionary_eq_ok.mp decoded
    obtain ⟨qs, moved, perm⟩ := mapM_perm perm all
    have distinct : (ps.map (·.1)).Nodup := keys_mapM all ▸ distinct
    exact dictionary_eq_ok.mpr ⟨qs, moved, Dictionary.ext (Entries.ofList_perm distinct perm)⟩

end Decoder

-- ---------------------------------------------------------------------------
-- Edits of records
-- ---------------------------------------------------------------------------

namespace Decoder.RecordField

variable {fields : List (RecordField σ)} {field : RecordField σ} {initial a : σ} {set : σ → σ}
  {sets : List (String × (σ → σ))} {before after : List (String × Value)}

theorem Makes.unknown (makes : Makes fields initial (before ++ after) sets a) (unknown : find? fields key = none) :
    Makes fields initial (before ++ (key, v) :: after) sets a := by
  obtain ⟨first, second, front, back, rfl⟩ := sets_append.mp makes.made
  exact { makes with made := sets_append.mpr ⟨first, second, front, .other unknown back, rfl⟩ }

theorem Makes.default (independent : Independent fields)
    (makes : Makes fields initial (before ++ (key, v) :: after) sets a) (known : find? fields key = some field)
    (optional : field.required = false) (value : field.decoder.value v = .ok set) (default : set initial = initial) :
    ∃ puts, Makes fields initial (before ++ after) puts a := by
  obtain ⟨first, second, front, back, rfl⟩ := sets_append.mp makes.made
  cases back with
  | other unknown => cases known.symm.trans unknown
  | @field _ _ _ _ _ second known' value' back =>
    cases known.symm.trans known'
    cases value.symm.trans value'
    obtain ⟨mem, name⟩ := find?_some known
    have perm : (first ++ (key, set) :: second).Perm ((key, set) :: (first ++ second)) := List.perm_middle
    have once : (key :: setKeys (first ++ second)).Nodup := (perm.map _).nodup_iff.mp makes.once
    refine ⟨first ++ second, sets_append.mpr ⟨first, second, front, back, rfl⟩, (List.nodup_cons.mp once).2,
      fun other inside required => ?_, ?_⟩
    · have there := (perm.map _).mem_iff.mp (makes.complete other inside required)
      refine (List.mem_cons.mp there).resolve_left fun same => ?_
      -- The field that was taken out need not be there.
      have found := find?_name independent.names inside
      rw [same, known] at found
      cases found
      rw [optional] at required
      cases required
    · rw [makes.result, makes.made.apply_perm independent makes.once perm]
      exact congrArg (apply · (first ++ second)) default

theorem Makes.order (independent : Independent fields) (makes : Makes fields initial ms sets a) (perm : ms.Perm ns) :
    ∃ puts, Makes fields initial ns puts a := by
  obtain ⟨puts, made, moved⟩ := makes.made.perm perm
  have keys : (setKeys sets).Perm (setKeys puts) := moved.map _
  refine ⟨puts, made, keys.nodup_iff.mp makes.once, fun field mem required => ?_, ?_⟩
  · exact keys.mem_iff.mp (makes.complete field mem required)
  · rw [makes.result, makes.made.apply_perm independent makes.once moved]

theorem Makes.inside (makes : Makes fields initial (before ++ (key, v) :: after) sets a)
    (same : ∀ field, find? fields key = some field →
      ∀ set, field.decoder.value v = .ok set → field.decoder.value w = .ok set) :
    Makes fields initial (before ++ (key, w) :: after) sets a := by
  obtain ⟨first, second, front, back, rfl⟩ := sets_append.mp makes.made
  have edited : Sets fields ((key, w) :: after) second := by
    cases back with
    | field known value back => exact .field known (same _ known _ value) back
    | other unknown back => exact .other unknown back
  exact { makes with made := sets_append.mpr ⟨first, second, front, edited, rfl⟩ }

theorem ignores_optional {d : Decoder α} {put : α → σ → σ} {edit : Value → Value → Prop}
    (found : find? fields key = some (.optional key d put)) (ignores : d.Ignores edit) (field : RecordField σ)
    (known : find? fields key = some field) : field.decoder.Ignores edit := by
  cases found.symm.trans known
  exact ignores.map put

/-- A record whose fields can be set in any order ignores every edit of its object. -/
theorem ignores_record {inside : List (String × (Value → Value → Prop))} (name : String)
    (independent : Independent fields)
    (inner : ∀ p ∈ inside, ∀ field, find? fields p.1 = some field → field.decoder.Ignores p.2) :
    (Decoder.record name initial fields).Ignores (InRecord initial fields inside) := by
  intro v w a edited decoded
  cases edited with
  | unknown before after unknown =>
    obtain ⟨sets, makes⟩ := value_record_eq_ok.mp decoded
    exact value_record_eq_ok.mpr ⟨sets, makes.unknown unknown⟩
  | default before after known optional value default =>
    obtain ⟨sets, makes⟩ := value_record_eq_ok.mp decoded
    exact value_record_eq_ok.mpr (makes.default independent known optional value default)
  | order perm =>
    obtain ⟨sets, makes⟩ := value_record_eq_ok.mp decoded
    exact value_record_eq_ok.mpr (makes.order independent perm)
  | field before after mem edited =>
    obtain ⟨sets, makes⟩ := value_record_eq_ok.mp decoded
    exact value_record_eq_ok.mpr
      ⟨sets, makes.inside fun field known set value => inner _ mem field known edited value⟩

end Decoder.RecordField

end Json

end Overseer
