-- SUMMARY: Receiving the terminal of a container over a socket.
import Overseer.Failure
import Overseer.Text.Utf8

/-!
# Console

The runtime hands the terminal of a container over as a descriptor attached to a message. The first
descriptor of the first message is taken. There is room for one; the operating system rounds that up
to two, and a message with more of them cannot be read.
-/

namespace Overseer.Console

/-- The file name of the socket in its private directory. -/
def socketName : String := "console.sock"

/-- The most descriptors that one message may bring. -/
def room : Nat := 2

/-- A message: its octets, and what the descriptors attached to it refer to. -/
structure Message (α : Type) where
  octets : Bytes
  attached : List α
  deriving DecidableEq, Repr

/-- What the first message on a connection brings. A connection that closes without a message brings
    nothing, and descriptors do not travel without octets. -/
def receive {α : Type} (message : Option (Message α)) : Except Failure α :=
  let attached :=
    match message with
    | some m => if m.octets.isEmpty then [] else m.attached
    | none => []
  if room < attached.length then
    .error (.io "read console socket control message" .noBufferSpace)
  else
    match attached with
    | first :: _ => .ok first
    | [] => .error (.internal "console socket connection carried no PTY master")

end Overseer.Console
