-- SUMMARY: Nothing inside the value of an event is an event.
import Overseer.Proofs.Json.Printed.Value
import Overseer.Proofs.Telemetry.Format
import Overseer.Proofs.Telemetry.Scan

/-!
# Inside events

An event is read from an object only if its member `type` names a kind. The objects inside an event are
records without such a member, and maps whose values are numbers or records of several members, which name
no kind whatever their keys are (`Event.tidy`).
-/

namespace Overseer.Telemetry

open Json (Value Readable)
open Json.Value (Everywhere)
open Json.Decoder (RecordField)

-- ---------------------------------------------------------------------------
-- Objects that are no events
-- ---------------------------------------------------------------------------

/-- Only fields that were decoded from a member are seen. -/
theorem seen_of_ofMembers {σ : Type} {fields : List (RecordField σ)} {initial found : σ}
    {before seen : List String} {members : List (String × Value)} {key : String}
    (h : RecordField.ofMembers fields initial before members = .ok (found, seen)) (mem : key ∈ seen) :
    key ∈ before ∨ ∃ v field set, (key, v) ∈ members ∧ RecordField.find? fields key = some field ∧
      field.decoder.value v = .ok set := by
  fun_induction RecordField.ofMembers fields initial before members with
  | case1 =>
    cases h
    exact .inl mem
  | case2 record before k v rest unknown ih =>
    rcases ih h with here | ⟨w, field, set, later, known, decoded⟩
    · exact .inl here
    · exact .inr ⟨w, field, set, List.mem_cons_of_mem _ later, known, decoded⟩
  | case3 => cases h
  | case4 => cases h
  | case5 record before k v rest field known new set decoded ih =>
    rcases ih h with here | ⟨w, field, set, later, known, decoded⟩
    · rcases List.mem_cons.mp here with rfl | here
      · exact .inr ⟨v, field, set, List.mem_cons_self, known, decoded⟩
      · exact .inl here
    · exact .inr ⟨w, field, set, List.mem_cons_of_mem _ later, known, decoded⟩

/-- An event is read from an object only if its `type` names a kind. -/
theorem kind_of_event {members : List (String × Value)} {e : Event}
    (h : Event.decoder.value (.object members) = .ok e) :
    ∃ v k, ("type", v) ∈ members ∧ Kind.decoder.value v = .ok k := by
  simp only [Event.decoder, Json.Decoder.record_object] at h
  split at h
  · cases h
  rename_i found seen decoded
  split at h
  · cases h
  rename_i complete
  have mem : "type" ∈ seen := by
    simp [RecordField.missing?, Event.fields] at complete
    exact complete.1
  rcases seen_of_ofMembers decoded mem with impossible | ⟨v, field, set, member, known, value⟩
  · cases impossible
  · simp [RecordField.find?, Event.fields] at known
    subst known
    cases kind : Kind.decoder.value v with
    | error why => simp [kind, Except.map] at value
    | ok k => exact ⟨v, k, member, kind⟩

/-- If it is an object, it is no event. -/
def Silent (v : Value) : Prop := v.isObject → converted v = []

theorem converted_object {members : List (String × Value)}
    (h : ∀ v k, ("type", v) ∈ members → Kind.decoder.value v ≠ .ok k) :
    converted (.object members) = [] := by
  cases decoded : Event.decoder.value (.object members) with
  | error why => simp [converted, decoded, Except.toOption]
  | ok e =>
    obtain ⟨v, k, mem, kind⟩ := kind_of_event decoded
    exact absurd kind (h v k mem)

theorem silent_sorted {members : List (String × Value)}
    (h : ∀ v k, ("type", v) ∈ members → Kind.decoder.value v.sorted ≠ .ok k) :
    Silent (Value.object members).sorted := by
  rw [Value.sorted_object]
  refine fun _ => converted_object fun v k mem => ?_
  obtain ⟨m, member, eq⟩ := List.mem_map.mp (Entries.mem_of_mem_ofList mem)
  obtain ⟨key, rfl⟩ := Prod.mk.inj eq
  exact h m.2 k (key ▸ member)

-- ---------------------------------------------------------------------------
-- What holds throughout an event
-- ---------------------------------------------------------------------------

/-- A value that can be read back, and that is no event if it stands inside another. -/
def Inner (d : Nat) (v : Value) : Prop := Readable d v ∧ (0 < d → Silent v.sorted)

/-- No key stands twice either. -/
def Tidy (d : Nat) (v : Value) : Prop := v.keys.Nodup ∧ Inner d v

variable {d : Nat}

theorem tidy_number (n : UInt64) : (number n).Everywhere Tidy d := by
  refine .leaf ⟨List.nodup_nil, ⟨n.toNat, ?_, rfl⟩, fun _ object => by cases object⟩ rfl
  exact Nat.le_of_lt_succ n.toNat_lt

theorem tidy_string (s : String) : (Value.string s).Everywhere Tidy d :=
  .leaf ⟨List.nodup_nil, trivial, fun _ object => by cases object⟩ rfl

theorem tidy_list {vs : List Value} (room : d < Json.maxDepth)
    (inside : ∀ v ∈ vs, v.Everywhere Tidy (d + 1)) : (Value.array vs).Everywhere Tidy d := by
  refine .intro ⟨List.nodup_nil, room, fun _ object => ?_⟩ inside
  rw [Value.sorted_array] at object
  cases object

theorem tidy_object {members : List (String × Value)} (distinct : (members.map (·.1)).Nodup)
    (room : d < Json.maxDepth)
    (silent : 0 < d → ∀ v k, ("type", v) ∈ members → Kind.decoder.value v.sorted ≠ .ok k)
    (inside : ∀ m ∈ members, m.2.Everywhere Tidy (d + 1)) : (Value.object members).Everywhere Tidy d := by
  refine .intro ⟨distinct, room, fun deep => silent_sorted (silent deep)⟩ fun w mem => ?_
  obtain ⟨m, member, rfl⟩ := List.mem_map.mp mem
  exact inside m member

/-- A record without a `type`. -/
theorem tidy_record {members : List (String × Value)} (distinct : (members.map (·.1)).Nodup)
    (untyped : "type" ∉ members.map (·.1)) (room : d < Json.maxDepth)
    (inside : ∀ m ∈ members, m.2.Everywhere Tidy (d + 1)) : (Value.object members).Everywhere Tidy d :=
  tidy_object distinct room (fun _ _ _ mem => absurd (List.mem_map_of_mem mem) untyped) inside

/-- A map, none of whose values names a kind. -/
theorem tidy_table {α : Type} {encode : α → Value} (entries : Dictionary α) (room : d < Json.maxDepth)
    (silent : ∀ a k, Kind.decoder.value (encode a).sorted ≠ .ok k)
    (inside : ∀ a, (encode a).Everywhere Tidy (d + 1)) : (table encode entries).Everywhere Tidy d := by
  refine tidy_object ?_ room (fun _ v k mem => ?_) fun m mem => ?_
  · rw [List.map_map]
    have distinct : entries.entries.Pairwise fun a b => a.1 ≠ b.1 := by
      refine entries.sorted.imp fun below same => ?_
      rw [same] at below
      exact String.lt_irrefl _ below
    exact List.pairwise_map.mpr distinct
  · obtain ⟨m, -, eq⟩ := List.mem_map.mp mem
    obtain ⟨-, rfl⟩ := Prod.mk.inj eq
    exact silent m.2 k
  · obtain ⟨m, -, rfl⟩ := List.mem_map.mp mem
    exact inside m.2

/-- A list of encoded things. -/
theorem tidy_encoded {α : Type} {encode : α → Value} (as : List α) (room : d < Json.maxDepth)
    (inside : ∀ a, (encode a).Everywhere Tidy (d + 1)) :
    (Value.array (as.map encode)).Everywhere Tidy d := by
  refine tidy_list room fun v mem => ?_
  obtain ⟨a, -, rfl⟩ := List.mem_map.mp mem
  exact inside a

-- ---------------------------------------------------------------------------
-- Records
-- ---------------------------------------------------------------------------

theorem CpuUsage.tidy (r : CpuUsage) (room : d + 2 ≤ Json.maxDepth) : r.encode.Everywhere Tidy d := by
  have percpu := tidy_encoded (d := d + 1) r.percpu (by omega) tidy_number
  refine tidy_record (by simp) (by simp) (by omega) ?_
  simp [tidy_number, percpu]

theorem Throttling.tidy (r : Throttling) (room : d < Json.maxDepth) : r.encode.Everywhere Tidy d := by
  refine tidy_record (by simp) (by simp) room ?_
  simp [tidy_number]

theorem Cpu.tidy (r : Cpu) (room : d + 3 ≤ Json.maxDepth) : r.encode.Everywhere Tidy d := by
  have usage := r.usage.tidy (d := d + 1) room
  have throttling := r.throttling.tidy (d := d + 1) (by omega)
  refine tidy_record (by simp) (by simp) (by omega) ?_
  simp [usage, throttling]

theorem MemoryEntry.tidy (r : MemoryEntry) (room : d < Json.maxDepth) : r.encode.Everywhere Tidy d := by
  refine tidy_record (by simp) (by simp) room ?_
  simp [tidy_number]

theorem kind_number (n : UInt64) (k : Kind) : Kind.decoder.value (number n).sorted ≠ .ok k := nofun

theorem Memory.tidy (r : Memory) (room : d + 2 ≤ Json.maxDepth) : r.encode.Everywhere Tidy d := by
  have entry (m : MemoryEntry) := m.tidy (d := d + 1) room
  have raw := tidy_table (d := d + 1) r.raw room kind_number tidy_number
  refine tidy_record (by simp) (by simp) (by omega) ?_
  simp [tidy_number, entry, raw]

theorem Pids.tidy (r : Pids) (room : d < Json.maxDepth) : r.encode.Everywhere Tidy d := by
  refine tidy_record (by simp) (by simp) room ?_
  simp [tidy_number]

theorem BlkioEntry.tidy (r : BlkioEntry) (room : d < Json.maxDepth) : r.encode.Everywhere Tidy d := by
  refine tidy_record (by simp) (by simp) room ?_
  simp [tidy_number, tidy_string]

theorem Blkio.tidy (r : Blkio) (room : d + 3 ≤ Json.maxDepth) : r.encode.Everywhere Tidy d := by
  have entries (bs : List BlkioEntry) :=
    tidy_encoded (d := d + 1) bs (by omega) fun b => b.tidy (d := d + 1 + 1) room
  refine tidy_record (by simp) (by simp) (by omega) ?_
  simp [entries]

theorem Hugetlb.tidy (r : Hugetlb) (room : d < Json.maxDepth) : r.encode.Everywhere Tidy d := by
  refine tidy_record (by simp) (by simp) room ?_
  simp [tidy_number]

theorem kind_hugetlb (r : Hugetlb) (k : Kind) : Kind.decoder.value r.encode.sorted ≠ .ok k := by
  simp [-String.lt_iff_ltb, Hugetlb.encode, Value.sorted_object, Entries.ofList, Entries.insert,
    Kind.decoder, Json.Decoder.variant]

theorem NetworkInterface.tidy (r : NetworkInterface) (room : d < Json.maxDepth) :
    r.encode.Everywhere Tidy d := by
  refine tidy_record (by simp) (by simp) room ?_
  simp [tidy_number, tidy_string]

theorem Stats.tidy (r : Stats) (room : d + 4 ≤ Json.maxDepth) : r.encode.Everywhere Tidy d := by
  have cpu := r.cpu.tidy (d := d + 1) (by omega)
  have memory := r.memory.tidy (d := d + 1) (by omega)
  have pids := r.pids.tidy (d := d + 1) (by omega)
  have blkio := r.blkio.tidy (d := d + 1) (by omega)
  have hugetlb := tidy_table (d := d + 1) r.hugetlb (by omega) kind_hugetlb
    fun h => h.tidy (d := d + 1 + 1) (by omega)
  have interfaces := tidy_encoded (d := d + 1) r.networkInterfaces (by omega)
    fun i => i.tidy (d := d + 1 + 1) (by omega)
  refine tidy_record (by simp) (by simp) (by omega) ?_
  simp [cpu, memory, pids, blkio, hugetlb, interfaces]

theorem Event.tidy (e : Event) : e.encode.Everywhere Tidy 0 := by
  obtain ⟨kind, id, data⟩ := e
  have outermost {P : Prop} : 0 < 0 → P := fun impossible => absurd impossible (Nat.lt_irrefl 0)
  cases data with
  | none =>
    refine tidy_object (by simp) (by decide) outermost ?_
    simp [tidy_string]
  | some stats =>
    have inside := stats.tidy (d := 1) (by decide)
    refine tidy_object (by simp) (by decide) outermost ?_
    simp [tidy_string, inside]

end Overseer.Telemetry
