-- SUMMARY: The programs of a host and whether they can be started.
import Overseer.Runtime.Launcher

/-!
# Hosts

Which programs there are to be started. A program that is found may still be refused; a command with a
word that holds a zero octet never gets so far.
-/

namespace Overseer

structure Host where
  /-- The directory that relative paths are resolved against. -/
  cwd : String
  /-- Programs that start. -/
  programs : List String
  /-- Files that are no programs, and directories. -/
  refused : List String
  deriving DecidableEq, Repr

namespace Host

/-- Why a command cannot be started; nothing if it can. -/
def obstacle? (h : Host) (c : Command) : Option SystemError :=
  if !c.isPassable then some .zeroOctet
  else if h.programs.contains c.program then none
  else if h.refused.contains c.program then some .permissionDenied
  else some .notFound

end Host

end Overseer
