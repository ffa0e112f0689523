-- SUMMARY: Telemetry is decoded without regard to unknown fields, missing defaults and the order of fields.
import Mathlib.Logic.Relation
import Overseer.Proofs.Json.Edits
import Overseer.Proofs.Telemetry.Format

/-!
# Edited telemetry

A newer runtime may add fields to any structure of an event, and every runtime may leave out what has its
default, in whatever order it prints the rest. For each structure there is a relation `Edit` that says what may
be done to its object and inside of it; the decoder of the structure ignores it.
-/

namespace Overseer.Telemetry

open Json (Value Decoder InElement InTable InRecord)
open Json.Decoder (RecordField)
open Json.Decoder.RecordField (Independent commutes_map find?_some ignores_optional ignores_record)

/-- An edit of what has no structure: none. -/
def Untouched (_ _ : Value) : Prop := False

theorem ignores_untouched {α : Type} (d : Decoder α) : d.Ignores Untouched := by
  rintro _ _ _ ⟨⟩

-- ---------------------------------------------------------------------------
-- Structures of numbers and strings
-- ---------------------------------------------------------------------------

namespace CpuUsage

def Edit : Value → Value → Prop := InRecord {} fields []

theorem independent : Independent fields :=
  ⟨by decide, by simp [fields, RecordField.optional, commutes_map]⟩

theorem ignores : decoder.Ignores Edit :=
  ignores_record "CpuUsage" independent (List.forall_mem_nil _)

end CpuUsage

namespace Throttling

def Edit : Value → Value → Prop := InRecord {} fields []

theorem independent : Independent fields :=
  ⟨by decide, by simp [fields, RecordField.optional, commutes_map]⟩

theorem ignores : decoder.Ignores Edit :=
  ignores_record "Throttling" independent (List.forall_mem_nil _)

end Throttling

namespace MemoryEntry

def Edit : Value → Value → Prop := InRecord {} fields []

theorem independent : Independent fields :=
  ⟨by decide, by simp [fields, RecordField.optional, commutes_map]⟩

theorem ignores : decoder.Ignores Edit :=
  ignores_record "MemoryEntry" independent (List.forall_mem_nil _)

end MemoryEntry

namespace Pids

def Edit : Value → Value → Prop := InRecord {} fields []

theorem independent : Independent fields :=
  ⟨by decide, by simp [fields, RecordField.optional, commutes_map]⟩

theorem ignores : decoder.Ignores Edit :=
  ignores_record "Pids" independent (List.forall_mem_nil _)

end Pids

namespace BlkioEntry

def Edit : Value → Value → Prop := InRecord {} fields []

theorem independent : Independent fields :=
  ⟨by decide, by simp [fields, RecordField.optional, commutes_map]⟩

theorem ignores : decoder.Ignores Edit :=
  ignores_record "BlkioEntry" independent (List.forall_mem_nil _)

end BlkioEntry

namespace Hugetlb

def Edit : Value → Value → Prop := InRecord {} fields []

theorem independent : Independent fields :=
  ⟨by decide, by simp [fields, RecordField.optional, commutes_map]⟩

theorem ignores : decoder.Ignores Edit :=
  ignores_record "Hugetlb" independent (List.forall_mem_nil _)

end Hugetlb

namespace NetworkInterface

def Edit : Value → Value → Prop := InRecord {} fields []

theorem independent : Independent fields :=
  ⟨by decide, by simp [fields, RecordField.optional, commutes_map]⟩

theorem ignores : decoder.Ignores Edit :=
  ignores_record "NetworkInterface" independent (List.forall_mem_nil _)

end NetworkInterface

-- ---------------------------------------------------------------------------
-- Structures of structures
-- ---------------------------------------------------------------------------

namespace Cpu

def Edit : Value → Value → Prop := InRecord {} fields [
  ("usage", CpuUsage.Edit),
  ("throttling", Throttling.Edit)]

theorem independent : Independent fields :=
  ⟨by decide, by simp [fields, RecordField.optional, commutes_map]⟩

theorem ignores : decoder.Ignores Edit := by
  refine ignores_record "Cpu" independent ?_
  simp only [List.forall_mem_cons]
  exact ⟨ignores_optional rfl CpuUsage.ignores, ignores_optional rfl Throttling.ignores, List.forall_mem_nil _⟩

end Cpu

namespace Memory

/-- The keys of `raw` are data, and there is no structure below them. -/
def Edit : Value → Value → Prop := InRecord {} fields [
  ("usage", MemoryEntry.Edit),
  ("swap", MemoryEntry.Edit),
  ("kernel", MemoryEntry.Edit),
  ("kernelTCP", MemoryEntry.Edit),
  ("raw", InTable Untouched)]

theorem independent : Independent fields :=
  ⟨by decide, by simp [fields, RecordField.optional, commutes_map]⟩

theorem ignores : decoder.Ignores Edit := by
  refine ignores_record "Memory" independent ?_
  have entry := MemoryEntry.ignores
  simp only [List.forall_mem_cons]
  exact ⟨ignores_optional rfl entry, ignores_optional rfl entry, ignores_optional rfl entry,
    ignores_optional rfl entry, ignores_optional rfl (ignores_untouched _).dictionary, List.forall_mem_nil _⟩

end Memory

namespace Blkio

/-- All fields are lists of the same structure. -/
def Edit : Value → Value → Prop :=
  InRecord {} fields (fields.map fun field => (field.name, InElement BlkioEntry.Edit))

theorem independent : Independent fields :=
  ⟨by decide, by simp [fields, RecordField.optional, commutes_map]⟩

theorem ignores : decoder.Ignores Edit := by
  refine ignores_record "Blkio" independent ?_
  have lists := BlkioEntry.ignores.list
  have each : ∀ field ∈ fields, field.decoder.Ignores (InElement BlkioEntry.Edit) := by
    simp only [fields, List.forall_mem_cons]
    exact ⟨lists.map _, lists.map _, lists.map _, lists.map _, lists.map _, lists.map _, lists.map _, lists.map _,
      List.forall_mem_nil _⟩
  intro p mem field known
  obtain ⟨_, -, rfl⟩ := List.mem_map.mp mem
  exact each field (find?_some known).1

end Blkio

namespace Stats

/-- The keys of `hugetlb` are data; below each is a structure. -/
def Edit : Value → Value → Prop := InRecord {} fields [
  ("cpu", Cpu.Edit),
  ("memory", Memory.Edit),
  ("pids", Pids.Edit),
  ("blkio", Blkio.Edit),
  ("hugetlb", InTable Hugetlb.Edit),
  ("network_interfaces", InElement NetworkInterface.Edit)]

theorem independent : Independent fields :=
  ⟨by decide, by simp [fields, RecordField.optional, commutes_map]⟩

theorem ignores : decoder.Ignores Edit := by
  refine ignores_record "Stats" independent ?_
  simp only [List.forall_mem_cons]
  exact ⟨ignores_optional rfl Cpu.ignores, ignores_optional rfl Memory.ignores, ignores_optional rfl Pids.ignores,
    ignores_optional rfl Blkio.ignores, ignores_optional rfl Hugetlb.ignores.dictionary,
    ignores_optional rfl NetworkInterface.ignores.list, List.forall_mem_nil _⟩

end Stats

namespace Event

/-- One edit of the object of an event. -/
def Edit : Value → Value → Prop := InRecord { kind := .unknown, id := "" } fields [("data", Stats.Edit)]

theorem independent : Independent fields :=
  ⟨by decide, by simp [fields, RecordField.mandatory, RecordField.optional, commutes_map]⟩

theorem ignores : decoder.Ignores Edit := by
  refine ignores_record "Event" independent ?_
  have data := Stats.ignores.option fun _ _ edited => edited.objects
  simp only [List.forall_mem_cons]
  exact ⟨ignores_optional rfl data, List.forall_mem_nil _⟩

/-- Edits of the data are edits of the event. -/
theorem edits_data {v w : Value} (before after : List (String × Value))
    (edits : Relation.ReflTransGen Stats.Edit v w) :
    Relation.ReflTransGen Edit (.object (before ++ ("data", v) :: after)) (.object (before ++ ("data", w) :: after)) :=
  Relation.ReflTransGen.lift (fun data => Value.object (before ++ ("data", data) :: after))
    (fun _ _ edited => InRecord.field before after (.head _) edited) _ _ edits

/-- However often unknown fields are put into the structures of an event, fields that say what holds anyway are
    taken out and fields are reordered: it is the same event. -/
theorem value_of_edits {v w : Value} {e : Event} (decoded : decoder.value v = .ok e)
    (edits : Relation.ReflTransGen Edit v w) : decoder.value w = .ok e := by
  induction edits with
  | refl => exact decoded
  | tail _ edited ih => exact ignores edited ih

/-- Data of a container that has no processes. -/
def older : Value := .object [
  ("memory", .object [("usage", .object [("limit", .nat 1)])]),
  ("pids", .object [("current", .nat 0)]),
  ("hugetlb", .object [("2MB", .object [("usage", .nat 3)])])]

/-- The same data from a runtime that counts more, with what holds anyway left out. -/
def newer : Value := .object [
  ("memory", .object [("usage", .object [("limit", .nat 1), ("peak", .array [.null])])]),
  ("hugetlb", .object [("2MB", .object [("rsvd", .bool true), ("usage", .nat 3)])])]

theorem older_edits_newer : Relation.ReflTransGen Stats.Edit older newer := by
  have peak : MemoryEntry.Edit (.object [("limit", .nat 1)])
      (.object [("limit", .nat 1), ("peak", .array [.null])]) :=
    .unknown [_] [] rfl
  have rsvd : Hugetlb.Edit (.object [("usage", .nat 3)]) (.object [("rsvd", .bool true), ("usage", .nat 3)]) :=
    .unknown [] [_] rfl
  have memory : Memory.Edit (.object [("usage", .object [("limit", .nat 1)])])
      (.object [("usage", .object [("limit", .nat 1), ("peak", .array [.null])])]) :=
    .field [] [] (.head _) peak
  have pages : InTable Hugetlb.Edit (.object [("2MB", .object [("usage", .nat 3)])])
      (.object [("2MB", .object [("rsvd", .bool true), ("usage", .nat 3)])]) := .entry [] [] rsvd
  refine .head (.field [] [_, _] (by simp) memory) ?_
  refine .head (.field [_, _] [] (by simp) pages) ?_
  exact .single (.default [_] [_] rfl rfl rfl rfl)

theorem value_of_edits_newer :
    ∃ e, decoder.value (.object [("type", .string "stats"), ("id", .string "c"), ("data", older)]) = .ok e ∧
      e.data = some { memory := { usage := { limit := 1 } }, hugetlb := .ofList [("2MB", { usage := 3 })] } ∧
      Relation.ReflTransGen Edit (.object [("type", .string "stats"), ("id", .string "c"), ("data", older)])
        (.object [("data", newer), ("id", .string "c"), ("type", .string "stats")]) ∧
      decoder.value (.object [("data", newer), ("id", .string "c"), ("type", .string "stats")]) = .ok e := by
  have edits : Relation.ReflTransGen Edit (.object [("type", .string "stats"), ("id", .string "c"), ("data", older)])
      (.object [("data", newer), ("id", .string "c"), ("type", .string "stats")]) :=
    (edits_data [_, _] [] older_edits_newer).tail (.order (List.reverse_perm [_, _, _]).symm)
  exact ⟨_, rfl, rfl, edits, value_of_edits rfl edits⟩

end Event

end Overseer.Telemetry
