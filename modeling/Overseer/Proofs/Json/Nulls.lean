-- SUMMARY: Values with null in the place of empty lists and objects, and decoders that refuse them.
import Overseer.Json.Decoder
import Overseer.Proofs.Json.Printed.Value
import Overseer.Proofs.Json.Sorted

/-!
# Nulls for what is empty

`Nulled v w` says that `w` is `v` with `null` in the place of some of its empty lists and objects. A decoder is
strict about a value that it decodes if every such `null` makes it fail, with a complaint about a `null` where a
list or a map belongs. Lists, maps and records of strict decoders are strict.
-/

namespace Overseer

variable {α β σ : Type}

/-- What is done to the values of some pairs is done to those that stay. -/
theorem Entries.ofList_map (f : α → β) (pairs : List (String × α)) :
    ofList (pairs.map fun p => (p.1, f p.2)) = (ofList pairs).map fun p => (p.1, f p.2) := by
  have put (entries : Entries α) (key : String) (a : α) :
      insert key (f a) (entries.map fun p => (p.1, f p.2)) = (entries.insert key a).map fun p => (p.1, f p.2) := by
    induction entries with
    | nil => rfl
    | cons head rest ih =>
      rw [List.map_cons, insert, insert]
      split_ifs
      · rfl
      · rfl
      · rw [ih, List.map_cons]
  suffices ∀ entries : Entries α,
      insertAll (entries.map fun p => (p.1, f p.2)) (pairs.map fun p => (p.1, f p.2))
        = (entries.insertAll pairs).map fun p => (p.1, f p.2) from this []
  induction pairs with
  | nil => exact fun _ => rfl
  | cons p pairs ih =>
    intro entries
    rw [List.map_cons, insertAll_cons, put, ih, insertAll_cons]

namespace Json

-- ---------------------------------------------------------------------------
-- Nulled values
-- ---------------------------------------------------------------------------

/-- The second value is the first with `null` for some of its empty lists and objects. -/
inductive Nulled : Value → Value → Prop where
  | same (v : Value) : Nulled v v
  | list : Nulled (.array []) .null
  | map : Nulled (.object []) .null
  | elements {ps : List (Value × Value)} (each : ∀ p ∈ ps, Nulled p.1 p.2) :
      Nulled (.array (ps.map (·.1))) (.array (ps.map (·.2)))
  | members {ps : List (String × Value × Value)} (each : ∀ p ∈ ps, Nulled p.2.1 p.2.2) :
      Nulled (.object (ps.map fun p => (p.1, p.2.1))) (.object (ps.map fun p => (p.1, p.2.2)))

namespace Nulled

variable {v w : Value} {vs : List Value} {ms : List (String × Value)} {d n : Nat}

/-- Inside of one member. -/
theorem member (before after : List (String × Value)) (key : String) (inside : Nulled v w) :
    Nulled (.object (before ++ (key, v) :: after)) (.object (before ++ (key, w) :: after)) := by
  have kept (m : String × Value) : Nulled m.2 m.2 := .same m.2
  have all := @members (before.map (fun m => (m.1, m.2, m.2)) ++ (key, v, w) :: after.map fun m => (m.1, m.2, m.2))
  simp only [List.map_append, List.map_cons, List.map_map, Function.comp_def, List.map_id'] at all
  refine all fun p mem => ?_
  rcases List.mem_append.mp mem with front | back
  · obtain ⟨m, -, rfl⟩ := List.mem_map.mp front
    exact kept m
  rcases List.mem_cons.mp back with rfl | back
  · exact inside
  · obtain ⟨m, -, rfl⟩ := List.mem_map.mp back
    exact kept m

theorem of_array (nulled : Nulled (.array vs) w) :
    (vs = [] ∧ w = .null) ∨
      ∃ ps : List (Value × Value), vs = ps.map (·.1) ∧ w = .array (ps.map (·.2)) ∧ ∀ p ∈ ps, Nulled p.1 p.2 := by
  generalize start : Value.array vs = u at nulled
  cases nulled with
  | same =>
    cases start
    refine .inr ⟨vs.map fun v => (v, v), by simp [Function.comp_def], by simp [Function.comp_def], fun p mem => ?_⟩
    obtain ⟨v, -, rfl⟩ := List.mem_map.mp mem
    exact .same v
  | list =>
    cases start
    exact .inl ⟨rfl, rfl⟩
  | map => cases start
  | elements each =>
    cases start
    exact .inr ⟨_, rfl, rfl, each⟩
  | members each => cases start

theorem of_object (nulled : Nulled (.object ms) w) :
    (ms = [] ∧ w = .null) ∨
      ∃ ps : List (String × Value × Value), ms = ps.map (fun p => (p.1, p.2.1)) ∧
        w = .object (ps.map fun p => (p.1, p.2.2)) ∧ ∀ p ∈ ps, Nulled p.2.1 p.2.2 := by
  generalize start : Value.object ms = u at nulled
  cases nulled with
  | same =>
    cases start
    refine .inr ⟨ms.map fun m => (m.1, m.2, m.2), by simp [Function.comp_def], by simp [Function.comp_def],
      fun p mem => ?_⟩
    obtain ⟨m, -, rfl⟩ := List.mem_map.mp mem
    exact .same m.2
  | map =>
    cases start
    exact .inl ⟨rfl, rfl⟩
  | list => cases start
  | elements each => cases start
  | members each =>
    cases start
    exact .inr ⟨_, rfl, rfl, each⟩

/-- Sorting keeps the nulls where they are. -/
theorem sorted (nulled : Nulled v w) : Nulled v.sorted w.sorted := by
  induction nulled with
  | same v => exact .same v.sorted
  | list => exact .list
  | map => exact .map
  | @elements ps each ih =>
    have all := @elements (ps.map fun p => (p.1.sorted, p.2.sorted)) fun p mem => by
      obtain ⟨q, inside, rfl⟩ := List.mem_map.mp mem
      exact ih q inside
    simpa only [Value.sorted_array, List.map_map, Function.comp_def] using all
  | @members ps each ih =>
    have all := @members (Entries.ofList (ps.map fun p => (p.1, p.2.1.sorted, p.2.2.sorted))) fun p mem => by
      obtain ⟨q, inside, rfl⟩ := List.mem_map.mp (Entries.mem_of_mem_ofList mem)
      exact ih q inside
    rw [← Entries.ofList_map Prod.fst, ← Entries.ofList_map Prod.snd] at all
    simpa only [Value.sorted_object, List.map_map, Function.comp_def] using all

/-- If sorting finds no difference, nothing was replaced. -/
theorem eq_of_sorted (nulled : Nulled v w) (distinct : v.Everywhere (fun _ u => u.keys.Nodup) n)
    (same : v.sorted = w.sorted) : v = w := by
  induction nulled generalizing n with
  | same => rfl
  | list => cases same
  | map => cases same
  | @elements ps each ih =>
    rw [Value.sorted_array, Value.sorted_array, List.map_map, List.map_map, Value.array.injEq,
      List.map_inj_left] at same
    have equal : ∀ p ∈ ps, p.1 = p.2 := fun p mem =>
      ih p mem (distinct.inside (List.mem_map_of_mem mem)) (same p mem)
    rw [List.map_congr_left equal]
  | @members ps each ih =>
    have keys : ((ps.map fun p => (p.1, p.2.1.sorted, p.2.2.sorted)).map (·.1)).Nodup := by
      simpa [Value.keys, List.map_map, Function.comp_def] using distinct.here
    have first := Entries.ofList_map Prod.fst (ps.map fun p => (p.1, p.2.1.sorted, p.2.2.sorted))
    have second := Entries.ofList_map Prod.snd (ps.map fun p => (p.1, p.2.1.sorted, p.2.2.sorted))
    rw [List.map_map] at first second
    simp only [Value.sorted_object, List.map_map, Function.comp_def, Value.object.injEq] at same first second
    rw [first, second, List.map_inj_left] at same
    have equal : ∀ p ∈ ps, p.2.1 = p.2.2 := fun p mem => by
      refine ih p mem (distinct.inside (List.mem_map.mpr ⟨(p.1, p.2.1), List.mem_map.mpr ⟨p, mem, rfl⟩, rfl⟩)) ?_
      exact (Prod.mk.inj (same _ (Entries.mem_ofList keys (List.mem_map_of_mem mem)))).2
    rw [List.map_congr_left fun p mem => by rw [equal p mem]]

/-- A nulled value can be read like the value. -/
theorem readable (nulled : Nulled v w) (readable : v.Everywhere Readable d) : w.Everywhere Readable d := by
  induction nulled generalizing d with
  | same => exact readable
  | list => exact .leaf trivial rfl
  | map => exact .leaf trivial rfl
  | elements each ih =>
    refine .intro readable.here fun u mem => ?_
    obtain ⟨p, inside, rfl⟩ := List.mem_map.mp mem
    exact ih p inside (readable.inside (List.mem_map_of_mem inside))
  | members each ih =>
    refine .intro readable.here fun u mem => ?_
    obtain ⟨m, member, rfl⟩ := List.mem_map.mp mem
    obtain ⟨p, inside, rfl⟩ := List.mem_map.mp member
    exact ih p inside (readable.inside (List.mem_map.mpr ⟨(p.1, p.2.1), List.mem_map.mpr ⟨p, inside, rfl⟩, rfl⟩))

end Nulled

-- ---------------------------------------------------------------------------
-- Refusals
-- ---------------------------------------------------------------------------

/-- A `null` was met where a list or a map belongs. -/
def RefusesNull (answer : Except Mismatch α) : Prop :=
  ∃ expected, (expected = "a sequence" ∨ expected = "a map") ∧ answer = .error (.invalidType .null expected)

theorem RefusesNull.map {answer : Except Mismatch α} (refuses : RefusesNull answer) (f : α → β) :
    RefusesNull (answer.map f) := by
  obtain ⟨expected, which, rfl⟩ := refuses
  exact ⟨expected, which, rfl⟩

namespace Decoder

/-- The value is decoded, and none that has a `null` in it for something empty. -/
structure Strict (d : Decoder α) (v : Value) : Prop where
  decodes : ∃ a, d.value v = .ok a
  refuses : ∀ ⦃w⦄, Nulled v w → v = w ∨ RefusesNull (d.value w)

variable {d : Decoder α} {v : Value} {vs : List Value} {ms : List (String × Value)}

theorem Strict.map (strict : d.Strict v) (f : α → β) : (d.map f).Strict v where
  decodes := by
    obtain ⟨a, decoded⟩ := strict.decodes
    exact ⟨f a, by simp only [Decoder.map, decoded, Except.map]⟩
  refuses _ nulled := (strict.refuses nulled).imp_right fun refuses => refuses.map f

theorem strict_number {n : Number} (decodes : ∃ a, d.value (.number n) = .ok a) : d.Strict (.number n) where
  decodes := decodes
  refuses w nulled := by
    cases nulled
    exact .inl rfl

theorem strict_string {s : String} (decodes : ∃ a, d.value (.string s) = .ok a) : d.Strict (.string s) where
  decodes := decodes
  refuses w nulled := by
    cases nulled
    exact .inl rfl

/-- The first that was replaced is refused. -/
theorem mapM_nulled {f : α → Except Mismatch β} {ps : List (α × α)} (decodes : ∀ p ∈ ps, ∃ b, f p.1 = .ok b)
    (refuses : ∀ p ∈ ps, p.1 = p.2 ∨ RefusesNull (f p.2)) :
    (∀ p ∈ ps, p.1 = p.2) ∨ RefusesNull ((ps.map (·.2)).mapM f) := by
  induction ps with
  | nil => exact .inl (List.forall_mem_nil _)
  | cons p ps ih =>
    obtain ⟨⟨b, decoded⟩, decodes⟩ := List.forall_mem_cons.mp decodes
    obtain ⟨here, refuses⟩ := List.forall_mem_cons.mp refuses
    rw [List.map_cons, List.mapM_cons]
    rcases here with same | ⟨expected, which, refused⟩
    · rw [← same, decoded]
      refine (ih decodes refuses).imp (fun all => List.forall_mem_cons.mpr ⟨same, all⟩) ?_
      rintro ⟨expected, which, refused⟩
      exact ⟨expected, which, by rw [refused]; rfl⟩
    · exact .inr ⟨expected, which, by rw [refused]; rfl⟩

theorem strict_list (decodes : ∃ as, (list d).value (.array vs) = .ok as) (strict : ∀ v ∈ vs, d.Strict v) :
    (list d).Strict (.array vs) where
  decodes := decodes
  refuses w nulled := by
    rcases nulled.of_array with ⟨rfl, rfl⟩ | ⟨ps, rfl, rfl, each⟩
    · exact .inr ⟨"a sequence", .inl rfl, rfl⟩
    have inside (p) (mem : p ∈ ps) := strict p.1 (List.mem_map_of_mem mem)
    refine (mapM_nulled (fun p mem => (inside p mem).decodes)
      fun p mem => (inside p mem).refuses (each p mem)).imp_left fun same => ?_
    rw [List.map_congr_left same]

theorem strict_dictionary (decodes : ∃ as, (dictionary d).value (.object ms) = .ok as)
    (strict : ∀ m ∈ ms, d.Strict m.2) : (dictionary d).Strict (.object ms) where
  decodes := decodes
  refuses w nulled := by
    rcases nulled.of_object with ⟨rfl, rfl⟩ | ⟨ps, rfl, rfl, each⟩
    · exact .inr ⟨"a map", .inr rfl, rfl⟩
    have inside (p) (mem : p ∈ ps) := strict (p.1, p.2.1) (List.mem_map.mpr ⟨p, mem, rfl⟩)
    have entry (p : String × Value × Value) (mem : p ∈ ps) := (inside p mem).map fun a => (p.1, a)
    have all := @mapM_nulled _ _ (fun m : String × Value => (d.value m.2).map fun a => (m.1, a))
      (ps.map fun p => ((p.1, p.2.1), (p.1, p.2.2)))
    rw [List.forall_mem_map, List.forall_mem_map, List.forall_mem_map, List.map_map] at all
    refine (all (fun p mem => (entry p mem).decodes) fun p mem => ?_).imp (fun same => ?_)
      fun refuses => refuses.map _
    · exact ((entry p mem).refuses (each p mem)).imp_left fun same => congrArg (Prod.mk p.1) same
    · exact congrArg Value.object (List.map_congr_left same)

theorem strict_option (object : v = .object ms) (strict : d.Strict v.sorted) (nonempty : ms ≠ []) :
    (option d).Strict v.sorted := by
  subst object
  rw [Value.sorted_object] at strict ⊢
  refine ⟨(strict.map some).decodes, fun w nulled => ?_⟩
  have whole := (strict.map some).refuses nulled
  rcases nulled.of_object with ⟨empty, -⟩ | ⟨ps, -, rfl, -⟩
  · exact absurd (List.map_eq_nil_iff.mp (Entries.ofList_eq_nil.mp empty)) nonempty
  · exact whole

namespace RecordField

variable {fields : List (RecordField σ)} {record initial : σ} {seen : List String} {key : String}

/-- What a field is decoded from. -/
theorem strict_field {name : String} {required : Bool} {set : α → σ → σ}
    (known : find? fields key = some ⟨name, required, d.map set⟩) (strict : d.Strict v) :
    ∃ field, find? fields key = some field ∧ field.decoder.Strict v :=
  ⟨_, known, strict.map set⟩

/-- The first member that was replaced is refused. -/
theorem ofMembers_nulled {ps : List (String × Value × Value)} (fresh : ∀ p ∈ ps, p.1 ∉ seen)
    (distinct : (ps.map (·.1)).Nodup) (nulled : ∀ p ∈ ps, Nulled p.2.1 p.2.2)
    (strict : ∀ p ∈ ps, ∃ field, find? fields p.1 = some field ∧ field.decoder.Strict p.2.1) :
    (∀ p ∈ ps, p.2.1 = p.2.2) ∨ RefusesNull (ofMembers fields record seen (ps.map fun p => (p.1, p.2.2))) := by
  induction ps generalizing record seen with
  | nil => exact .inl (List.forall_mem_nil _)
  | cons p ps ih =>
    obtain ⟨new, fresh⟩ := List.forall_mem_cons.mp fresh
    obtain ⟨once, distinct⟩ := List.nodup_cons.mp distinct
    obtain ⟨here, nulled⟩ := List.forall_mem_cons.mp nulled
    obtain ⟨⟨field, known, decodes, refuses⟩, strict⟩ := List.forall_mem_cons.mp strict
    have unseen : seen.contains p.1 = false := by simpa using new
    rw [List.map_cons, ofMembers]
    simp only [known, unseen, Bool.false_eq_true, if_false]
    rcases refuses here with same | ⟨expected, which, refused⟩
    · obtain ⟨set, decoded⟩ := decodes
      rw [← same, decoded]
      refine (ih (fun q mem => ?_) distinct nulled strict).imp_left fun all => List.forall_mem_cons.mpr ⟨same, all⟩
      have different : q.1 ≠ p.1 := fun eq => once (List.mem_map.mpr ⟨q, mem, eq⟩)
      simp [different, fresh q mem]
    · exact .inr ⟨expected, which, by rw [refused]⟩

/-- A record is strict about the object that it is written as, if all members of that are fields and the decoders of
    these are strict about what stands there. -/
theorem strict_record {d : Decoder σ} {name : String} (record : d = Decoder.record name initial fields)
    (object : v = .object ms) (decodes : ∃ a, d.value v.sorted = .ok a) (nonempty : ms ≠ [])
    (strict : ∀ m ∈ ms, ∃ field, find? fields m.1 = some field ∧ field.decoder.Strict m.2.sorted) :
    d.Strict v.sorted where
  decodes := decodes
  refuses w nulled := by
    subst record object
    rw [Value.sorted_object] at nulled ⊢
    rcases nulled.of_object with ⟨empty, -⟩ | ⟨ps, members, rfl, each⟩
    · exact absurd (List.map_eq_nil_iff.mp (Entries.ofList_eq_nil.mp empty)) nonempty
    have keys : ps.map (·.1) = (Entries.ofList (ms.map fun m => (m.1, m.2.sorted))).map (·.1) := by
      rw [members, List.map_map, Function.comp_def]
    have distinct : (ps.map (·.1)).Nodup := keys ▸ (Entries.sorted_ofList _).keys_nodup
    have inside : ∀ p ∈ ps, ∃ field, find? fields p.1 = some field ∧ field.decoder.Strict p.2.1 := fun p mem => by
      have member : (p.1, p.2.1) ∈ ps.map fun p => (p.1, p.2.1) := List.mem_map.mpr ⟨p, mem, rfl⟩
      obtain ⟨m, there, same⟩ := List.mem_map.mp (Entries.mem_of_mem_ofList (members ▸ member))
      obtain ⟨key, value⟩ := Prod.mk.inj same
      rw [← key, ← value]
      exact strict m there
    have found : (∀ p ∈ ps, p.2.1 = p.2.2) ∨
        RefusesNull (ofMembers fields initial [] (ps.map fun p => (p.1, p.2.2))) :=
      ofMembers_nulled (fun _ _ => List.not_mem_nil) distinct each inside
    rcases found with same | ⟨expected, which, refused⟩
    · rw [members, List.map_congr_left fun p mem => by rw [same p mem]]
      exact .inl rfl
    · exact .inr ⟨expected, which, by simp only [Decoder.record, refused]⟩

end RecordField

end Decoder

end Json

end Overseer
