-- SUMMARY: Telemetry records are decoded from what they were encoded to.
import Mathlib.Data.String.Basic
import Overseer.Proofs.Json.Sorted
import Overseer.Telemetry.Format

/-!
# Decoding what was encoded

The decoder of each record gives the record back that was encoded, whatever the order in which the members
of the objects stood when they were read.
-/

namespace Overseer

open Json (Value Decoder)

-- ---------------------------------------------------------------------------
-- Decoders
-- ---------------------------------------------------------------------------

namespace Json.Decoder

variable {α σ : Type}

/-- The decoder gives back what was encoded, once it was sorted. -/
def Inverts (d : Decoder α) (encode : α → Value) : Prop := ∀ a, d.value (encode a).sorted = .ok a

theorem inverts_string : string.Inverts .string := fun _ => rfl

theorem integer_value {low high n : Int} (expected : String) (within : low ≤ n ∧ n ≤ high) :
    (integer low high expected).value (.int n) = .ok n := if_pos within

theorem inverts_uint64 : uint64.Inverts Telemetry.number := by
  intro n
  have within : (0 : Int) ≤ n.toNat ∧ (n.toNat : Int) ≤ Width.unsignedMax 64 :=
    ⟨Int.natCast_nonneg _, Int.ofNat_le.mpr (Nat.le_pred_of_lt n.toNat_lt)⟩
  have value : (Telemetry.number n).sorted = .int n.toNat := rfl
  simp [uint64, unsigned, Decoder.map, value, integer_value _ within, Except.map]

theorem mapM_eq_ok {β γ : Type} {f : β → γ} {g : γ → Except Json.Mismatch β}
    (h : ∀ b, g (f b) = .ok b) (bs : List β) : (bs.map f).mapM g = .ok bs := by
  induction bs with
  | nil => rfl
  | cons b bs ih =>
    rw [List.map_cons, List.mapM_cons, h, ih]
    rfl

theorem list_value {d : Decoder α} {encode : α → Value} (h : d.Inverts encode) (as : List α) :
    (list d).value (Value.array (as.map encode)).sorted = .ok as := by
  rw [Value.sorted_array, List.map_map]
  exact mapM_eq_ok h as

theorem dictionary_value {d : Decoder α} {encode : α → Value} (h : d.Inverts encode)
    (entries : Dictionary α) :
    (dictionary d).value (Telemetry.table encode entries).sorted = .ok entries := by
  have sorted : (Telemetry.table encode entries).sorted
      = .object (entries.entries.map fun m => (m.1, (encode m.2).sorted)) := by
    rw [Telemetry.table, Value.sorted_object, List.map_map, Entries.ofList_of_sorted]
    · rfl
    · exact List.pairwise_map.mpr entries.sorted
  have members := @mapM_eq_ok (String × α) (String × Value) (fun m => (m.1, (encode m.2).sorted))
    (fun m => (d.value m.2).map fun a => (m.1, a)) (fun m => by rw [h]; rfl) entries.entries
  rw [sorted]
  change Except.map Dictionary.ofList (List.mapM _ _) = _
  rw [members]
  exact congrArg Except.ok (Dictionary.ext (Entries.ofList_of_sorted entries.sorted))

theorem option_value {d : Decoder α} {encode : α → Value} (h : d.Inverts encode) {a : α}
    (some : (encode a).sorted ≠ .null) : (option d).value (encode a).sorted = .ok (.some a) := by
  have decoded := h a
  cases eq : (encode a).sorted with
  | null => exact absurd eq some
  | bool | number | string | array | object =>
    rw [eq] at decoded
    simp [option, decoded, Except.map]

namespace RecordField

variable {fields : List (RecordField σ)} {field : RecordField σ} {record : σ} {seen : List String}
  {key : String} {v : Value} {set : σ → σ} {rest : List (String × Value)}

@[simp] theorem optional_name (d : Decoder α) (set : α → σ → σ) :
    (optional key d set).name = key := rfl

@[simp] theorem optional_required (d : Decoder α) (set : α → σ → σ) :
    (optional key d set).required = false := rfl

@[simp] theorem optional_value (d : Decoder α) (set : α → σ → σ) :
    (optional key d set).decoder.value v = (d.value v).map set := rfl

@[simp] theorem mandatory_name (d : Decoder α) (set : α → σ → σ) :
    (mandatory key d set).name = key := rfl

@[simp] theorem mandatory_required (d : Decoder α) (set : α → σ → σ) :
    (mandatory key d set).required = true := rfl

@[simp] theorem mandatory_value (d : Decoder α) (set : α → σ → σ) :
    (mandatory key d set).decoder.value v = (d.value v).map set := rfl

end RecordField

@[simp] theorem record_object {name : String} {initial : σ} {fields : List (RecordField σ)}
    {members : List (String × Value)} :
    (record name initial fields).value (.object members) =
      match RecordField.ofMembers fields initial [] members with
      | .error why => .error why
      | .ok (found, seen) =>
        match RecordField.missing? fields seen with
        | some field => .error (.missingField field)
        | none => .ok found := rfl

end Json.Decoder

-- ---------------------------------------------------------------------------
-- Records
-- ---------------------------------------------------------------------------

namespace Telemetry

open Json.Decoder (inverts_uint64 inverts_string list_value dictionary_value)
open Json.Decoder.RecordField

-- In each of these the members are put in order first, and then the fields are read one by one.

theorem CpuUsage.inverts : CpuUsage.decoder.Inverts CpuUsage.encode := by
  intro r
  simp [-String.lt_iff_ltb, CpuUsage.decoder, CpuUsage.encode, Value.sorted_object, Entries.ofList,
    Entries.insert]
  simp [ofMembers, find?, CpuUsage.fields, missing?, inverts_uint64 _, list_value inverts_uint64 _,
    Except.map]

theorem Throttling.inverts : Throttling.decoder.Inverts Throttling.encode := by
  intro r
  simp [-String.lt_iff_ltb, Throttling.decoder, Throttling.encode, Value.sorted_object, Entries.ofList,
    Entries.insert]
  simp [ofMembers, find?, Throttling.fields, missing?, inverts_uint64 _, Except.map]

theorem Cpu.inverts : Cpu.decoder.Inverts Cpu.encode := by
  intro r
  simp [-String.lt_iff_ltb, Cpu.decoder, Cpu.encode, Value.sorted_object, Entries.ofList,
    Entries.insert]
  simp [ofMembers, find?, Cpu.fields, missing?, CpuUsage.inverts _, Throttling.inverts _, Except.map]

theorem MemoryEntry.inverts : MemoryEntry.decoder.Inverts MemoryEntry.encode := by
  intro r
  simp [-String.lt_iff_ltb, MemoryEntry.decoder, MemoryEntry.encode, Value.sorted_object, Entries.ofList,
    Entries.insert]
  simp [ofMembers, find?, MemoryEntry.fields, missing?, inverts_uint64 _, Except.map]

theorem Memory.inverts : Memory.decoder.Inverts Memory.encode := by
  intro r
  simp [-String.lt_iff_ltb, Memory.decoder, Memory.encode, Value.sorted_object, Entries.ofList,
    Entries.insert]
  simp [ofMembers, find?, Memory.fields, missing?, inverts_uint64 _, MemoryEntry.inverts _,
    dictionary_value inverts_uint64 _, Except.map]

theorem Pids.inverts : Pids.decoder.Inverts Pids.encode := by
  intro r
  simp [-String.lt_iff_ltb, Pids.decoder, Pids.encode, Value.sorted_object, Entries.ofList,
    Entries.insert]
  simp [ofMembers, find?, Pids.fields, missing?, inverts_uint64 _, Except.map]

theorem BlkioEntry.inverts : BlkioEntry.decoder.Inverts BlkioEntry.encode := by
  intro r
  simp [-String.lt_iff_ltb, BlkioEntry.decoder, BlkioEntry.encode, Value.sorted_object, Entries.ofList,
    Entries.insert]
  simp [ofMembers, find?, BlkioEntry.fields, missing?, inverts_uint64 _, inverts_string _, Except.map]

theorem Blkio.inverts : Blkio.decoder.Inverts Blkio.encode := by
  intro r
  simp [-String.lt_iff_ltb, Blkio.decoder, Blkio.encode, Value.sorted_object, Entries.ofList,
    Entries.insert]
  simp [ofMembers, find?, Blkio.fields, missing?, list_value BlkioEntry.inverts _, Except.map]

theorem Hugetlb.inverts : Hugetlb.decoder.Inverts Hugetlb.encode := by
  intro r
  simp [-String.lt_iff_ltb, Hugetlb.decoder, Hugetlb.encode, Value.sorted_object, Entries.ofList,
    Entries.insert]
  simp [ofMembers, find?, Hugetlb.fields, missing?, inverts_uint64 _, Except.map]

theorem NetworkInterface.inverts : NetworkInterface.decoder.Inverts NetworkInterface.encode := by
  intro r
  simp [-String.lt_iff_ltb, NetworkInterface.decoder, NetworkInterface.encode, Value.sorted_object, Entries.ofList,
    Entries.insert]
  simp [ofMembers, find?, NetworkInterface.fields, missing?, inverts_uint64 _, inverts_string _, Except.map]

theorem Stats.inverts : Stats.decoder.Inverts Stats.encode := by
  intro r
  simp [-String.lt_iff_ltb, Stats.decoder, Stats.encode, Value.sorted_object, Entries.ofList,
    Entries.insert]
  simp [ofMembers, find?, Stats.fields, missing?, Cpu.inverts _, Memory.inverts _, Pids.inverts _,
    Blkio.inverts _, dictionary_value Hugetlb.inverts _, list_value NetworkInterface.inverts _,
    Except.map]

theorem Kind.inverts : Kind.decoder.Inverts fun k => .string k.name := by
  intro k
  cases k with
  | stats | oom | unknown => rfl

/-- Reading an event gives back what was written, in whatever order its members were written. -/
theorem Event.inverts : Event.decoder.Inverts Event.encode := by
  intro e
  obtain ⟨kind, id, data⟩ := e
  have kinds : Kind.decoder.value (Value.string kind.name).sorted = .ok kind := Kind.inverts kind
  cases data with
  | none =>
    simp [-String.lt_iff_ltb, Event.decoder, Event.encode, Value.sorted_object, Entries.ofList,
      Entries.insert]
    simp [ofMembers, find?, Event.fields, missing?, kinds, inverts_string _, Except.map]
  | some stats =>
    have objects : stats.encode.sorted ≠ .null := by
      rw [Stats.encode, Value.sorted_object]
      intro eq
      cases eq
    have datas := Json.Decoder.option_value Stats.inverts objects
    simp [-String.lt_iff_ltb, Event.decoder, Event.encode, Value.sorted_object, Entries.ofList,
      Entries.insert]
    simp [ofMembers, find?, Event.fields, missing?, kinds, inverts_string _, datas, Except.map]

end Telemetry

end Overseer
