-- SUMMARY: The JSON form of telemetry records.
import Overseer.Json.Decoder
import Overseer.Json.Printer
import Overseer.Telemetry.Event

/-!
# Telemetry as JSON

Every record is an object. All fields of the resource usage may be missing when it is decoded; the
kind and the container of an event may not.
-/

namespace Overseer.Telemetry

open Json (Value)
open Json.Decoder (RecordField)

/-- The value of a counter. -/
def number (n : UInt64) : Value := .nat n.toNat

/-- The object with the entries of a map. -/
def table {α : Type} (encode : α → Value) (d : Dictionary α) : Value :=
  .object (d.entries.map fun (key, a) => (key, encode a))

/-! ## CpuUsage -/

namespace CpuUsage

def fields : List (RecordField CpuUsage) := [
  .optional "total" .uint64 fun a r => { r with total := a },
  .optional "percpu" (.list .uint64) fun a r => { r with percpu := a },
  .optional "kernel" .uint64 fun a r => { r with kernel := a },
  .optional "user" .uint64 fun a r => { r with user := a }]

def decoder : Json.Decoder CpuUsage := .record "CpuUsage" {} fields

def encode (r : CpuUsage) : Value := .object [
  ("total", number r.total),
  ("percpu", .array (r.percpu.map number)),
  ("kernel", number r.kernel),
  ("user", number r.user)]

end CpuUsage

/-! ## Throttling -/

namespace Throttling

def fields : List (RecordField Throttling) := [
  .optional "periods" .uint64 fun a r => { r with periods := a },
  .optional "throttledPeriods" .uint64 fun a r => { r with throttledPeriods := a },
  .optional "throttledTime" .uint64 fun a r => { r with throttledTime := a }]

def decoder : Json.Decoder Throttling := .record "Throttling" {} fields

def encode (r : Throttling) : Value := .object [
  ("periods", number r.periods),
  ("throttledPeriods", number r.throttledPeriods),
  ("throttledTime", number r.throttledTime)]

end Throttling

/-! ## Cpu -/

namespace Cpu

def fields : List (RecordField Cpu) := [
  .optional "usage" CpuUsage.decoder fun a r => { r with usage := a },
  .optional "throttling" Throttling.decoder fun a r => { r with throttling := a }]

def decoder : Json.Decoder Cpu := .record "Cpu" {} fields

def encode (r : Cpu) : Value := .object [
  ("usage", r.usage.encode),
  ("throttling", r.throttling.encode)]

end Cpu

/-! ## MemoryEntry -/

namespace MemoryEntry

def fields : List (RecordField MemoryEntry) := [
  .optional "limit" .uint64 fun a r => { r with limit := a },
  .optional "usage" .uint64 fun a r => { r with usage := a },
  .optional "max" .uint64 fun a r => { r with max := a },
  .optional "failcnt" .uint64 fun a r => { r with failcnt := a }]

def decoder : Json.Decoder MemoryEntry := .record "MemoryEntry" {} fields

def encode (r : MemoryEntry) : Value := .object [
  ("limit", number r.limit),
  ("usage", number r.usage),
  ("max", number r.max),
  ("failcnt", number r.failcnt)]

end MemoryEntry

/-! ## Memory -/

namespace Memory

def fields : List (RecordField Memory) := [
  .optional "cache" .uint64 fun a r => { r with cache := a },
  .optional "usage" MemoryEntry.decoder fun a r => { r with usage := a },
  .optional "swap" MemoryEntry.decoder fun a r => { r with swap := a },
  .optional "kernel" MemoryEntry.decoder fun a r => { r with kernel := a },
  .optional "kernelTCP" MemoryEntry.decoder fun a r => { r with kernelTcp := a },
  .optional "raw" (.dictionary .uint64) fun a r => { r with raw := a }]

def decoder : Json.Decoder Memory := .record "Memory" {} fields

def encode (r : Memory) : Value := .object [
  ("cache", number r.cache),
  ("usage", r.usage.encode),
  ("swap", r.swap.encode),
  ("kernel", r.kernel.encode),
  ("kernelTCP", r.kernelTcp.encode),
  ("raw", table number r.raw)]

end Memory

/-! ## Pids -/

namespace Pids

def fields : List (RecordField Pids) := [
  .optional "current" .uint64 fun a r => { r with current := a },
  .optional "limit" .uint64 fun a r => { r with limit := a }]

def decoder : Json.Decoder Pids := .record "Pids" {} fields

def encode (r : Pids) : Value := .object [
  ("current", number r.current),
  ("limit", number r.limit)]

end Pids

/-! ## BlkioEntry -/

namespace BlkioEntry

def fields : List (RecordField BlkioEntry) := [
  .optional "major" .uint64 fun a r => { r with major := a },
  .optional "minor" .uint64 fun a r => { r with minor := a },
  .optional "op" .string fun a r => { r with op := a },
  .optional "value" .uint64 fun a r => { r with value := a }]

def decoder : Json.Decoder BlkioEntry := .record "BlkioEntry" {} fields

def encode (r : BlkioEntry) : Value := .object [
  ("major", number r.major),
  ("minor", number r.minor),
  ("op", .string r.op),
  ("value", number r.value)]

end BlkioEntry

/-! ## Blkio -/

namespace Blkio

def fields : List (RecordField Blkio) := [
  .optional "ioServiceBytesRecursive" (.list BlkioEntry.decoder) fun a r => { r with ioServiceBytesRecursive := a },
  .optional "ioServicedRecursive" (.list BlkioEntry.decoder) fun a r => { r with ioServicedRecursive := a },
  .optional "ioQueuedRecursive" (.list BlkioEntry.decoder) fun a r => { r with ioQueuedRecursive := a },
  .optional "ioServiceTimeRecursive" (.list BlkioEntry.decoder) fun a r => { r with ioServiceTimeRecursive := a },
  .optional "ioWaitTimeRecursive" (.list BlkioEntry.decoder) fun a r => { r with ioWaitTimeRecursive := a },
  .optional "ioMergedRecursive" (.list BlkioEntry.decoder) fun a r => { r with ioMergedRecursive := a },
  .optional "ioTimeRecursive" (.list BlkioEntry.decoder) fun a r => { r with ioTimeRecursive := a },
  .optional "sectorsRecursive" (.list BlkioEntry.decoder) fun a r => { r with sectorsRecursive := a }]

def decoder : Json.Decoder Blkio := .record "Blkio" {} fields

def encode (r : Blkio) : Value := .object [
  ("ioServiceBytesRecursive", .array (r.ioServiceBytesRecursive.map BlkioEntry.encode)),
  ("ioServicedRecursive", .array (r.ioServicedRecursive.map BlkioEntry.encode)),
  ("ioQueuedRecursive", .array (r.ioQueuedRecursive.map BlkioEntry.encode)),
  ("ioServiceTimeRecursive", .array (r.ioServiceTimeRecursive.map BlkioEntry.encode)),
  ("ioWaitTimeRecursive", .array (r.ioWaitTimeRecursive.map BlkioEntry.encode)),
  ("ioMergedRecursive", .array (r.ioMergedRecursive.map BlkioEntry.encode)),
  ("ioTimeRecursive", .array (r.ioTimeRecursive.map BlkioEntry.encode)),
  ("sectorsRecursive", .array (r.sectorsRecursive.map BlkioEntry.encode))]

end Blkio

/-! ## Hugetlb -/

namespace Hugetlb

def fields : List (RecordField Hugetlb) := [
  .optional "usage" .uint64 fun a r => { r with usage := a },
  .optional "max" .uint64 fun a r => { r with max := a },
  .optional "failcnt" .uint64 fun a r => { r with failcnt := a }]

def decoder : Json.Decoder Hugetlb := .record "Hugetlb" {} fields

def encode (r : Hugetlb) : Value := .object [
  ("usage", number r.usage),
  ("max", number r.max),
  ("failcnt", number r.failcnt)]

end Hugetlb

/-! ## NetworkInterface -/

namespace NetworkInterface

def fields : List (RecordField NetworkInterface) := [
  .optional "name" .string fun a r => { r with name := a },
  .optional "rx_bytes" .uint64 fun a r => { r with rxBytes := a },
  .optional "rx_packets" .uint64 fun a r => { r with rxPackets := a },
  .optional "rx_errors" .uint64 fun a r => { r with rxErrors := a },
  .optional "rx_dropped" .uint64 fun a r => { r with rxDropped := a },
  .optional "tx_bytes" .uint64 fun a r => { r with txBytes := a },
  .optional "tx_packets" .uint64 fun a r => { r with txPackets := a },
  .optional "tx_errors" .uint64 fun a r => { r with txErrors := a },
  .optional "tx_dropped" .uint64 fun a r => { r with txDropped := a }]

def decoder : Json.Decoder NetworkInterface := .record "NetworkInterface" {} fields

def encode (r : NetworkInterface) : Value := .object [
  ("name", .string r.name),
  ("rx_bytes", number r.rxBytes),
  ("rx_packets", number r.rxPackets),
  ("rx_errors", number r.rxErrors),
  ("rx_dropped", number r.rxDropped),
  ("tx_bytes", number r.txBytes),
  ("tx_packets", number r.txPackets),
  ("tx_errors", number r.txErrors),
  ("tx_dropped", number r.txDropped)]

end NetworkInterface

/-! ## Stats -/

namespace Stats

def fields : List (RecordField Stats) := [
  .optional "cpu" Cpu.decoder fun a r => { r with cpu := a },
  .optional "memory" Memory.decoder fun a r => { r with memory := a },
  .optional "pids" Pids.decoder fun a r => { r with pids := a },
  .optional "blkio" Blkio.decoder fun a r => { r with blkio := a },
  .optional "hugetlb" (.dictionary Hugetlb.decoder) fun a r => { r with hugetlb := a },
  .optional "network_interfaces" (.list NetworkInterface.decoder) fun a r => { r with networkInterfaces := a }]

def decoder : Json.Decoder Stats := .record "Stats" {} fields

def encode (r : Stats) : Value := .object [
  ("cpu", r.cpu.encode),
  ("memory", r.memory.encode),
  ("pids", r.pids.encode),
  ("blkio", r.blkio.encode),
  ("hugetlb", table Hugetlb.encode r.hugetlb),
  ("network_interfaces", .array (r.networkInterfaces.map NetworkInterface.encode))]

end Stats

/-! ## Events -/

namespace Kind

def name : Kind → String
  | stats => "stats"
  | oom => "oom"
  | unknown => "unknown"

def decoder : Json.Decoder Kind := .variant [("stats", stats), ("oom", oom)] (some unknown)

end Kind

namespace Event

def fields : List (RecordField Event) := [
  .mandatory "type" Kind.decoder fun a r => { r with kind := a },
  .mandatory "id" .string fun a r => { r with id := a },
  .optional "data" (.option Stats.decoder) fun a r => { r with data := a }]

def decoder : Json.Decoder Event := .record "Event" { kind := .unknown, id := "" } fields

/-- The object of an event; it has no data if there are none. -/
def encode (e : Event) : Value :=
  .object ([("type", .string e.kind.name), ("id", .string e.id)]
    ++ e.data.toList.map fun stats => ("data", stats.encode))

/-- The compact JSON text of an event. -/
def line (e : Event) : String := e.encode.text

end Event

end Overseer.Telemetry
