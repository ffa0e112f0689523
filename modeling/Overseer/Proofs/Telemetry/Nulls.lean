-- SUMMARY: Telemetry with null in the place of empty lists and maps is refused.
import Overseer.Proofs.Json.Nulls
import Overseer.Proofs.Runtime.Query
import Overseer.Proofs.Telemetry.Record

/-!
# Nulls in telemetry

The decoder of each structure is strict about what it is written as: one `null` for an empty list or an empty map,
however deep, and the whole event is refused. The lists that queries answer with may be `null`.
-/

namespace Overseer.Telemetry

open Json (Value Decoder Nulled RefusesNull)
open Json.Decoder (inverts_uint64 list_value dictionary_value strict_dictionary strict_list strict_number
  strict_option strict_string)
open Json.Decoder.RecordField (strict_field strict_record)

-- ---------------------------------------------------------------------------
-- Fields
-- ---------------------------------------------------------------------------

section Fields

variable {α : Type} {d : Decoder α} {encode : α → Value}

theorem strict_counter (n : UInt64) : Decoder.uint64.Strict (number n).sorted := strict_number ⟨n, inverts_uint64 n⟩

theorem strict_encoded (inverts : d.Inverts encode) (strict : ∀ a, d.Strict (encode a).sorted) (as : List α) :
    (Decoder.list d).Strict (Value.array (as.map encode)).sorted := by
  have decodes := list_value inverts as
  rw [Value.sorted_array] at decodes ⊢
  refine strict_list ⟨as, decodes⟩ fun v mem => ?_
  rw [List.map_map] at mem
  obtain ⟨a, -, rfl⟩ := List.mem_map.mp mem
  exact strict a

theorem strict_table (inverts : d.Inverts encode) (strict : ∀ a, d.Strict (encode a).sorted)
    (entries : Dictionary α) : (Decoder.dictionary d).Strict (table encode entries).sorted := by
  have decodes := dictionary_value inverts entries
  rw [table, Value.sorted_object] at decodes ⊢
  refine strict_dictionary ⟨entries, decodes⟩ fun m mem => ?_
  have inside := Entries.mem_of_mem_ofList mem
  rw [List.map_map] at inside
  obtain ⟨p, -, rfl⟩ := List.mem_map.mp inside
  exact strict p.2

end Fields

-- ---------------------------------------------------------------------------
-- Structures
-- ---------------------------------------------------------------------------

theorem CpuUsage.strict (r : CpuUsage) : decoder.Strict r.encode.sorted := by
  refine strict_record rfl rfl ⟨r, inverts r⟩ (List.cons_ne_nil _ _) ?_
  simp only [List.forall_mem_cons]
  exact ⟨strict_field rfl (strict_counter _), strict_field rfl (strict_encoded inverts_uint64 strict_counter _),
    strict_field rfl (strict_counter _), strict_field rfl (strict_counter _), List.forall_mem_nil _⟩

theorem Throttling.strict (r : Throttling) : decoder.Strict r.encode.sorted := by
  refine strict_record rfl rfl ⟨r, inverts r⟩ (List.cons_ne_nil _ _) ?_
  simp only [List.forall_mem_cons]
  exact ⟨strict_field rfl (strict_counter _), strict_field rfl (strict_counter _),
    strict_field rfl (strict_counter _), List.forall_mem_nil _⟩

theorem Cpu.strict (r : Cpu) : decoder.Strict r.encode.sorted := by
  refine strict_record rfl rfl ⟨r, inverts r⟩ (List.cons_ne_nil _ _) ?_
  simp only [List.forall_mem_cons]
  exact ⟨strict_field rfl (r.usage.strict), strict_field rfl (r.throttling.strict), List.forall_mem_nil _⟩

theorem MemoryEntry.strict (r : MemoryEntry) : decoder.Strict r.encode.sorted := by
  refine strict_record rfl rfl ⟨r, inverts r⟩ (List.cons_ne_nil _ _) ?_
  simp only [List.forall_mem_cons]
  exact ⟨strict_field rfl (strict_counter _), strict_field rfl (strict_counter _),
    strict_field rfl (strict_counter _), strict_field rfl (strict_counter _), List.forall_mem_nil _⟩

theorem Memory.strict (r : Memory) : decoder.Strict r.encode.sorted := by
  refine strict_record rfl rfl ⟨r, inverts r⟩ (List.cons_ne_nil _ _) ?_
  simp only [List.forall_mem_cons]
  exact ⟨strict_field rfl (strict_counter _), strict_field rfl (r.usage.strict), strict_field rfl (r.swap.strict),
    strict_field rfl (r.kernel.strict), strict_field rfl (r.kernelTcp.strict),
    strict_field rfl (strict_table inverts_uint64 strict_counter _), List.forall_mem_nil _⟩

theorem Pids.strict (r : Pids) : decoder.Strict r.encode.sorted := by
  refine strict_record rfl rfl ⟨r, inverts r⟩ (List.cons_ne_nil _ _) ?_
  simp only [List.forall_mem_cons]
  exact ⟨strict_field rfl (strict_counter _), strict_field rfl (strict_counter _), List.forall_mem_nil _⟩

theorem BlkioEntry.strict (r : BlkioEntry) : decoder.Strict r.encode.sorted := by
  refine strict_record rfl rfl ⟨r, inverts r⟩ (List.cons_ne_nil _ _) ?_
  simp only [List.forall_mem_cons]
  exact ⟨strict_field rfl (strict_counter _), strict_field rfl (strict_counter _),
    strict_field rfl (strict_string ⟨_, rfl⟩), strict_field rfl (strict_counter _), List.forall_mem_nil _⟩

theorem Blkio.strict (r : Blkio) : decoder.Strict r.encode.sorted := by
  refine strict_record rfl rfl ⟨r, inverts r⟩ (List.cons_ne_nil _ _) ?_
  simp only [List.forall_mem_cons]
  have entries := strict_encoded BlkioEntry.inverts BlkioEntry.strict
  exact ⟨strict_field rfl (entries _), strict_field rfl (entries _), strict_field rfl (entries _),
    strict_field rfl (entries _), strict_field rfl (entries _), strict_field rfl (entries _),
    strict_field rfl (entries _), strict_field rfl (entries _), List.forall_mem_nil _⟩

theorem Hugetlb.strict (r : Hugetlb) : decoder.Strict r.encode.sorted := by
  refine strict_record rfl rfl ⟨r, inverts r⟩ (List.cons_ne_nil _ _) ?_
  simp only [List.forall_mem_cons]
  exact ⟨strict_field rfl (strict_counter _), strict_field rfl (strict_counter _),
    strict_field rfl (strict_counter _), List.forall_mem_nil _⟩

theorem NetworkInterface.strict (r : NetworkInterface) : decoder.Strict r.encode.sorted := by
  refine strict_record rfl rfl ⟨r, inverts r⟩ (List.cons_ne_nil _ _) ?_
  simp only [List.forall_mem_cons]
  exact ⟨strict_field rfl (strict_string ⟨_, rfl⟩), strict_field rfl (strict_counter _),
    strict_field rfl (strict_counter _), strict_field rfl (strict_counter _), strict_field rfl (strict_counter _),
    strict_field rfl (strict_counter _), strict_field rfl (strict_counter _), strict_field rfl (strict_counter _),
    strict_field rfl (strict_counter _), List.forall_mem_nil _⟩

theorem Stats.strict (r : Stats) : decoder.Strict r.encode.sorted := by
  refine strict_record rfl rfl ⟨r, inverts r⟩ (List.cons_ne_nil _ _) ?_
  simp only [List.forall_mem_cons]
  exact ⟨strict_field rfl (r.cpu.strict), strict_field rfl (r.memory.strict), strict_field rfl (r.pids.strict),
    strict_field rfl (r.blkio.strict), strict_field rfl (strict_table Hugetlb.inverts Hugetlb.strict _),
    strict_field rfl (strict_encoded NetworkInterface.inverts NetworkInterface.strict _), List.forall_mem_nil _⟩

theorem Kind.strict (k : Kind) : decoder.Strict (Value.string k.name).sorted := strict_string ⟨k, inverts k⟩

theorem Event.strict (e : Event) : decoder.Strict e.encode.sorted := by
  refine strict_record rfl rfl ⟨e, inverts e⟩ (List.cons_ne_nil _ _) ?_
  have data : ∀ stats : Stats, (Decoder.option Stats.decoder).Strict stats.encode.sorted := fun stats =>
    strict_option rfl stats.strict (List.cons_ne_nil _ _)
  rw [List.forall_mem_append, List.forall_mem_map]
  simp only [List.forall_mem_cons]
  exact ⟨⟨strict_field rfl e.kind.strict, strict_field rfl (strict_string ⟨_, rfl⟩), List.forall_mem_nil _⟩,
    fun stats _ => strict_field rfl (data stats)⟩

-- ---------------------------------------------------------------------------
-- Events
-- ---------------------------------------------------------------------------

variable {e : Event} {v w : Value}

/-- What was written for an event is still the text of an object with nulls in it. -/
theorem nulled_text (distinct : v.Distinct) (written : v.sorted = e.encode.sorted) (nulled : Nulled v w) :
    (∃ t, w.octets = 0x7B :: t) ∧ Json.Exact Json.Reader.anyValue.run w.octets w.sorted := by
  have readable := nulled.readable ((Record.inner_of_sorted distinct written).mono fun _ _ inner => inner.1)
  obtain ⟨members, rfl, nonempty⟩ := Record.object_of_sorted written
  rcases nulled.of_object with ⟨empty, -⟩ | ⟨ps, -, rfl, -⟩
  · exact absurd empty nonempty
  · exact ⟨Value.octets_object_head _, Json.exact_anyValue readable⟩

/-- What is written for an event is taken for it. With `null` for one of its empty lists and maps or for several it is
    an object that is no event, and dropped whole; the lists of containers and of processes may be `null`. -/
theorem event_nulled_refused (distinct : v.Distinct) (written : v.sorted = e.encode.sorted) (nulled : Nulled v w)
    (more : Bytes) (ended : Bool) :
    (v = w → Intake.next ⟨w.octets ++ more, ended⟩ = (.event e, ⟨more, ended⟩)) ∧
      (v ≠ w → ∃ expected, (expected = "a sequence" ∨ expected = "a map") ∧
        Intake.next ⟨w.octets ++ more, ended⟩ =
          (.malformed (.notEvent (.invalidType .null expected)), ⟨more, ended⟩)) ∧
      Query.list.decode (Bytes.ofString "null") = .ok [] ∧
      ∀ id, (Query.processes id).decode (Bytes.ofString "null") = .ok [] := by
  obtain ⟨⟨t, brace⟩, exact⟩ := nulled_text distinct written nulled
  have start : Json.skipBlanks (w.octets ++ more) = 0x7B :: (t ++ more) := by
    rw [brace]
    exact skipBlanks_brace _
  have read := exact.whole more
  rw [brace, List.cons_append] at read
  have next := Intake.next_object (i := ⟨w.octets ++ more, ended⟩) start read
  have blank : ∀ c ∈ ([] : Bytes), Json.isBlank c := List.forall_mem_nil _
  refine ⟨fun same => ?_, fun different => ?_, Query.listDocument_null "decode container list" Container.decoder blank
    blank, fun id => Query.listDocument_null ("decode processes of " ++ id) .int32 blank blank⟩
  · rw [next, ← same, written, Outcome.ofObject, Event.inverts e]
  · have strict := e.strict
    rw [← written] at strict
    obtain ⟨expected, which, refused⟩ := (strict.refuses nulled.sorted).resolve_left fun sorted =>
      different (nulled.eq_of_sorted distinct sorted)
    exact ⟨expected, which, by rw [next, Outcome.ofObject, refused]⟩

/-- The object of an event of nothing but zeros. -/
def idle (percpu hugetlb : Value) : Value := .object [
  ("type", .string "stats"),
  ("id", .string "c"),
  ("data", .object [
    ("cpu", .object [
      ("usage", .object [("total", .nat 0), ("percpu", percpu), ("kernel", .nat 0), ("user", .nat 0)]),
      ("throttling", Throttling.encode {})]),
    ("memory", Memory.encode {}),
    ("pids", Pids.encode {}),
    ("blkio", Blkio.encode {}),
    ("hugetlb", hugetlb),
    ("network_interfaces", .array [])])]

theorem idle_encodes : idle (.array []) (.object []) = Event.encode ⟨.stats, "c", some {}⟩ := rfl

theorem event_nulled_refused_percpu :
    idle (.array []) (.object []) ≠ idle .null (.object []) ∧
      ∃ expected, (expected = "a sequence" ∨ expected = "a map") ∧
        Intake.next ⟨(idle .null (.object [])).octets ++ [], true⟩ =
          (.malformed (.notEvent (.invalidType .null expected)), ⟨[], true⟩) := by
  have different : idle (.array []) (.object []) ≠ idle .null (.object []) := by simp [idle]
  have distinct : (idle (.array []) (.object [])).Distinct :=
    (Event.tidy ⟨.stats, "c", some {}⟩).mono fun _ _ tidy => tidy.1
  have nulled : Nulled (idle (.array []) (.object [])) (idle .null (.object [])) :=
    .member [_, _] [] "data" (.member [] [_, _, _, _, _] "cpu"
      (.member [] [_] "usage" (.member [_] [_, _] "percpu" .list)))
  have written := congrArg Value.sorted idle_encodes
  exact ⟨different, (event_nulled_refused distinct written nulled [] true).2.1 different⟩

/-- No huge pages, written as `null`: the sample is dropped. -/
theorem event_nulled_refused_hugetlb :
    idle (.array []) (.object []) = Event.encode ⟨.stats, "c", some {}⟩ ∧
      Nulled (idle (.array []) (.object [])) (idle (.array []) .null) ∧
      Intake.next ⟨(idle (.array []) .null).octets, false⟩ =
        (.malformed (.notEvent (.invalidType .null "a map")), {}) := by
  refine ⟨rfl, ?_, by decide +kernel⟩
  exact .member [_, _] [] "data" (.member [_, _, _, _] [_] "hugetlb" .map)

end Overseer.Telemetry
