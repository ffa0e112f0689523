-- SUMMARY: Operations that change containers, and the arguments they become.
import Overseer.Runtime.Flags

/-!
# Operations

Every operation that changes the state of a container is one supervised invocation of the runtime.
-/

namespace Overseer

inductive Operation where
  | create (id bundle : String) (flags : CreateFlags)
  | run (id bundle : String) (flags : CreateFlags)
  /-- Runs one more process, which is described in a file. -/
  | exec (id processFile : String) (flags : ExecFlags)
  | start (id : String)
  | pause (id : String)
  | resume (id : String)
  | delete (id : String) (flags : DeleteFlags)
  | kill (id : String) (signal : Int) (flags : KillFlags)
  deriving DecidableEq, Repr

namespace Operation

/-- A subcommand for a container in a bundle. -/
def bundleArgs (cwd name id bundle : String) (flags : CreateFlags) : Except Failure (List String) :=
  match flags.args cwd with
  | .error why => .error why
  | .ok args => .ok ([name, "--bundle", bundle] ++ args ++ [id])

/-- The arguments behind the global flags, relative paths being resolved against `cwd`. -/
def args (cwd : String) : Operation → Except Failure (List String)
  | create id bundle flags => bundleArgs cwd "create" id bundle flags
  | run id bundle flags => bundleArgs cwd "run" id bundle flags
  | exec id processFile flags =>
    match flags.args cwd with
    | .error why => .error why
    | .ok args => .ok (["exec", "--process", processFile] ++ args ++ [id])
  | start id => .ok ["start", id]
  | pause id => .ok ["pause", id]
  | resume id => .ok ["resume", id]
  | delete id flags => .ok (["delete"] ++ flags.args ++ [id])
  | kill id signal flags => .ok (["kill"] ++ flags.args ++ [id, flags.signalArg signal])

end Operation

end Overseer
