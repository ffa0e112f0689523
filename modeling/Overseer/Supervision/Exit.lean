-- SUMMARY: Wait statuses and the exit records made of them.
import Overseer.Supervision.Signal

/-!
# Exits

How a process ended, as the operating system encodes it in a wait status of 32 bits and as it is
reported: a code, or 128 plus the number of the signal that killed it. A status that says neither, and
a failed wait, are reported as 255. The time at which the end was seen, which a report holds besides and
nothing looks at, is left out.
-/

namespace Overseer

/-- The status of a process whose end is not known. -/
def unknownStatus : Int := 255

/-- What is added to the number of a signal that killed a process. -/
def signalBase : Int := 128

/-- A wait status as the operating system encodes it. -/
structure WaitStatus where
  bits : UInt32
  deriving DecidableEq, Repr

namespace WaitStatus

/-- The wait status of a process that ended with a code. -/
def exited (code : UInt8) : WaitStatus := ⟨code.toUInt32 <<< 8⟩

/-- The wait status of a process that the signal with this number killed. -/
def signalled (number : Nat) : WaitStatus := ⟨(UInt32.ofNat number) &&& 0x7F⟩

def low (w : WaitStatus) : Nat := (w.bits &&& 0x7F).toNat

/-- The code of a process that ended by itself. -/
def code? (w : WaitStatus) : Option Nat :=
  if w.low = 0 then some ((w.bits >>> 8) &&& 0xFF).toNat else none

/-- The number of the signal that killed the process. The low seven bits are all set in a process that
    is only stopped. -/
def signal? (w : WaitStatus) : Option Nat :=
  if w.low = 0 ∨ w.low = 0x7F then none else some w.low

end WaitStatus

/-- A status and, if a named signal caused it, that signal. -/
structure ExitStatus where
  status : Int
  signal : Option Signal := none
  deriving DecidableEq, Repr

namespace ExitStatus

/-- What a wait status says about the end of a process. -/
def ofWait (w : WaitStatus) : ExitStatus :=
  match w.code?, w.signal? with
  | some code, _ => ⟨code, none⟩
  | none, some number => ⟨signalBase + number, Signal.ofNumber? number⟩
  | none, none => ⟨unknownStatus, none⟩

/-- What is known after waiting; nothing if the wait failed. -/
def ofOutcome : Option WaitStatus → ExitStatus
  | some w => ofWait w
  | none => ⟨unknownStatus, none⟩

/-- Whether the process ended by itself with code 0. -/
def success (e : ExitStatus) : Bool := e.status = 0 && e.signal.isNone

def text (e : ExitStatus) : String :=
  "exit status " ++ toString e.status
    ++ match e.signal with
      | some s => " (" ++ s.name ++ ")"
      | none => ""

end ExitStatus

/-- The record of the end of the process `pid`. -/
structure Exit where
  pid : UInt32
  exit : ExitStatus
  deriving DecidableEq, Repr

/-- The record made of the outcome of waiting for a process. -/
def Exit.ofOutcome (pid : UInt32) (outcome : Option WaitStatus) : Exit :=
  ⟨pid, .ofOutcome outcome⟩

end Overseer
