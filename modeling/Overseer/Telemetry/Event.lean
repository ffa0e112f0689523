-- SUMMARY: Telemetry records of a container: what they hold.
import Overseer.Dictionary

/-!
# Telemetry

What a runtime reports about a running container. Every counter is an unsigned 64-bit number; what is
not reported is zero or empty.
-/

namespace Overseer.Telemetry

/-- The processor time that a container has used, in nanoseconds. -/
structure CpuUsage where
  total : UInt64 := 0
  percpu : List UInt64 := []
  kernel : UInt64 := 0
  user : UInt64 := 0
  deriving DecidableEq

/-- How often and for how long the quota of a container was used up. -/
structure Throttling where
  periods : UInt64 := 0
  throttledPeriods : UInt64 := 0
  throttledTime : UInt64 := 0
  deriving DecidableEq

structure Cpu where
  usage : CpuUsage := {}
  throttling : Throttling := {}
  deriving DecidableEq

/-- One kind of memory against its limit. -/
structure MemoryEntry where
  limit : UInt64 := 0
  usage : UInt64 := 0
  max : UInt64 := 0
  failcnt : UInt64 := 0
  deriving DecidableEq

/-- Memory use; `raw` holds the counters of the control group as they are. -/
structure Memory where
  cache : UInt64 := 0
  usage : MemoryEntry := {}
  swap : MemoryEntry := {}
  kernel : MemoryEntry := {}
  kernelTcp : MemoryEntry := {}
  raw : Dictionary UInt64 := .empty
  deriving DecidableEq

structure Pids where
  current : UInt64 := 0
  limit : UInt64 := 0
  deriving DecidableEq

/-- A counter of one block device for one kind of operation. -/
structure BlkioEntry where
  major : UInt64 := 0
  minor : UInt64 := 0
  op : String := ""
  value : UInt64 := 0
  deriving DecidableEq

/-- Counters of the block devices. -/
structure Blkio where
  ioServiceBytesRecursive : List BlkioEntry := []
  ioServicedRecursive : List BlkioEntry := []
  ioQueuedRecursive : List BlkioEntry := []
  ioServiceTimeRecursive : List BlkioEntry := []
  ioWaitTimeRecursive : List BlkioEntry := []
  ioMergedRecursive : List BlkioEntry := []
  ioTimeRecursive : List BlkioEntry := []
  sectorsRecursive : List BlkioEntry := []
  deriving DecidableEq

/-- Huge pages of one size. -/
structure Hugetlb where
  usage : UInt64 := 0
  max : UInt64 := 0
  failcnt : UInt64 := 0
  deriving DecidableEq

structure NetworkInterface where
  name : String := ""
  rxBytes : UInt64 := 0
  rxPackets : UInt64 := 0
  rxErrors : UInt64 := 0
  rxDropped : UInt64 := 0
  txBytes : UInt64 := 0
  txPackets : UInt64 := 0
  txErrors : UInt64 := 0
  txDropped : UInt64 := 0
  deriving DecidableEq

/-- The resources that a container uses. -/
structure Stats where
  cpu : Cpu := {}
  memory : Memory := {}
  pids : Pids := {}
  blkio : Blkio := {}
  hugetlb : Dictionary Hugetlb := .empty
  networkInterfaces : List NetworkInterface := []
  deriving DecidableEq

/-- What a record is about. Kinds that newer runtimes may add are `unknown`. -/
inductive Kind where
  | stats
  | oom
  | unknown
  deriving DecidableEq, Repr

/-- One telemetry record of the container `id`. -/
structure Event where
  kind : Kind
  id : String
  data : Option Stats := none
  deriving DecidableEq

end Overseer.Telemetry
