-- SUMMARY: The code that the program exits with: the decoded status of its runtime, or 1 for any other failure.
import Overseer.CommandLine.Run
import Overseer.Proofs.CommandLine.Starts
import Overseer.Proofs.Runtime.Request

/-!
# Exit codes

A command that makes one request of the runtime mirrors its end: the code is 0 if the runtime ended with
code 0 and what it printed can be read, the decoded status of any other end, and 1 for a failure that is
not the runtime's.
-/

namespace Overseer

variable {α : Type} {status : WaitStatus} {program text : String}

namespace CommandLine

-- ---------------------------------------------------------------------------
-- Codes
-- ---------------------------------------------------------------------------

namespace Problem

theorem code_pos (p : Problem) : 0 < p.code := by
  cases p with
  | summary text => exact Nat.one_pos
  | failure f =>
    simp only [code]
    split_ifs with range
    · simp only [Bool.and_eq_true, decide_eq_true_eq] at range
      omega
    · exact Nat.one_pos

theorem code_of_other {f : Failure} (other : f.isCommandExit = false) : (failure f).code = 1 := by
  simp [code, other]

/-- A failed command is answered with its decoded status. -/
theorem code_of_command (badly : status.code? ≠ some 0) :
    ((failure (.command program (.ofWait status) text)).code : Int)
      = (ExitStatus.ofWait status).status := by
  have range := ExitStatus.status_range status
  have nonzero : (ExitStatus.ofWait status).status ≠ 0 :=
    fun zero => badly ((ExitStatus.status_eq_zero_iff status).mp zero)
  have inside : 1 ≤ (ExitStatus.ofWait status).status ∧ (ExitStatus.ofWait status).status ≤ 255 := by
    omega
  have mirrored : (failure (.command program (.ofWait status) text)).code
      = (ExitStatus.ofWait status).status.toNat := by
    simp [code, Failure.isCommandExit, Failure.exitStatus, inside]
  rw [mirrored, Int.toNat_of_nonneg range.1]

end Problem

namespace Ending

/-- The code that the program exits with behind an ending. -/
def code (e : Ending) : Nat := (Outcome.ofEnding e).code

@[simp] theorem after_empty (e : Ending) : e.after "" = e := rfl

@[simp] theorem code_after (before : String) (e : Ending) : (e.after before).code = e.code := by
  unfold code Outcome.ofEnding after
  cases e.problem <;> rfl

theorem code_eq_zero_iff (e : Ending) : e.code = 0 ↔ e.problem = none := by
  unfold code Outcome.ofEnding
  cases e.problem with
  | none => simp
  | some p => simpa using Nat.ne_of_gt p.code_pos

end Ending

/-- The code of a program whose only request has the given result. -/
def resultCode : Except Failure α → Nat
  | .ok _ => 0
  | .error f => (Problem.failure f).code

@[simp] theorem code_ofResult (print : α → String) (result : Except Failure α) :
    (Ending.ofResult print result).code = resultCode result := by
  cases result <;> rfl

theorem resultCode_error (f : Failure) : resultCode (.error f : Except Failure α) ≠ 0 :=
  Nat.ne_of_gt (Problem.code_pos (.failure f))

/-- The code of a program that mirrors a runtime which ended with `status`; `reads` says that what the
    runtime printed can be read. -/
structure Mirrors (status : WaitStatus) (reads : Prop) (code : Nat) : Prop where
  zero : code = 0 ↔ status.code? = some 0 ∧ reads
  unread : status.code? = some 0 → ¬ reads → code = 1
  byCode : ∀ n, status.code? = some n → n ≠ 0 → code = n
  bySignal : ∀ n, status.signal? = some n → code = 128 + n
  unknown : status.code? = none → status.signal? = none → code = 255
  range : status.code? ≠ some 0 → 1 ≤ code ∧ code ≤ 255

theorem mirrors_read {reads : Prop} {code : Nat} (zero : status.code? = some 0)
    (read : reads → code = 0) (unread : ¬ reads → code = 1) : Mirrors status reads code where
  zero := by
    refine ⟨fun success => ⟨zero, ?_⟩, fun well => read well.2⟩
    by_contra illegible
    rw [unread illegible] at success
    cases success
  unread _ := unread
  byCode n byItself other := by
    rw [zero] at byItself
    cases byItself
    exact absurd rfl other
  bySignal n killed := by
    rw [WaitStatus.code?_of_signal? killed] at zero
    cases zero
  unknown none := by
    rw [none] at zero
    cases zero
  range badly := absurd zero badly

theorem mirrors_status {reads : Prop} {code : Nat} (badly : status.code? ≠ some 0)
    (decoded : (code : Int) = (ExitStatus.ofWait status).status) : Mirrors status reads code := by
  have range := ExitStatus.status_range status
  have nonzero : (ExitStatus.ofWait status).status ≠ 0 :=
    fun zero => badly ((ExitStatus.status_eq_zero_iff status).mp zero)
  refine ⟨⟨fun zero => absurd decoded.symm (by omega), fun well => absurd well.1 badly⟩,
    fun zero => absurd zero badly, fun n byItself _ => ?_, fun n killed => ?_, fun none silent => ?_,
    fun _ => by omega⟩
  · simp only [ExitStatus.ofWait, byItself] at decoded
    omega
  · simp only [ExitStatus.ofWait, WaitStatus.code?_of_signal? killed, killed, signalBase] at decoded
    omega
  · simp only [ExitStatus.ofWait, none, silent, unknownStatus] at decoded
    omega

theorem mirrors_of_judged {good : Except Failure α → Prop} {result : Except Failure α} {reads : Prop}
    (judged : Judged program status good result) (read : good result → reads → resultCode result = 0)
    (unread : good result → ¬ reads → resultCode result = 1) :
    Mirrors status reads (resultCode result) := by
  cases judged with
  | well zero held => exact mirrors_read zero (read held) (unread held)
  | badly text other => exact mirrors_status other (Problem.code_of_command other)

-- ---------------------------------------------------------------------------
-- One request
-- ---------------------------------------------------------------------------

/-- The command, if nothing stands in the way of its start. -/
def Command.free? (host : Host) (c : Command) : Option Command :=
  if host.obstacle? c = none then some c else none

/-- What a program comes to that starts `request` and nothing else. -/
def Answered (w w' : World) (request : Option Command) (reads : Prop) (code : Nat) : Prop :=
  match request with
  | none => code = 1 ∧ w' = w
  | some c => w'.starts = w.starts ++ [c.args] ∧ Mirrors w.behaviour.naturalEnd reads code

variable {w : World} {client : Client}

theorem askAndPrint_eq (q : Query α) (print : α → String) (calm : w.Calm) :
    askAndPrint w client q print
      = ((q.ask? w.host client.launcher w.behaviour .never).map (Ending.ofResult print),
          w.afterStart (client.launcher.command q.args)) := by
  rw [← calm.cancelTime]
  rfl

theorem askAndPrint_answered (client : Client) (q : Query α) (print : α → String)
    (plain : ∀ s, Plain (q.decode s)) (calm : w.Calm) (ends : w.behaviour.waiting = none) :
    ∃ e w', askAndPrint w client q print = (some e, w') ∧
      Answered w w' (Command.free? w.host (client.launcher.command q.args))
        (∃ a, q.decode (Write.on .stdout (w.behaviour.output [])) = .ok a) e.code := by
  rw [askAndPrint_eq q print calm]
  cases obstacle : w.host.obstacle? (client.launcher.command q.args) with
  | some why =>
    rw [Query.ask?_refused obstacle, World.afterStart_blocked (obstacle ▸ rfl)]
    refine ⟨_, _, rfl, ?_⟩
    simp only [Answered, Command.free?, obstacle, reduceCtorEq, if_false]
    exact ⟨rfl, trivial⟩
  | none =>
    obtain ⟨result, answer, judged⟩ := Query.ask?_judged obstacle ends
    rw [answer]
    refine ⟨_, _, rfl, ?_⟩
    simp only [Answered, Command.free?, obstacle, if_true, code_ofResult]
    refine ⟨(World.afterStart_free calm obstacle).2, mirrors_of_judged judged ?_ ?_⟩
    · rintro rfl ⟨a, read⟩
      rw [read]
      rfl
    · rintro rfl illegible
      cases decoded : q.decode (Write.on .stdout (w.behaviour.output [])) with
      | ok a => exact absurd ⟨a, decoded⟩ illegible
      | error f => exact Problem.code_of_other (plain _ f decoded)

/-- The circumstances of an operation of the program that nobody interrupts. -/
def World.setting (w : World) (wiring : Wiring) : Client.Setting where
  host := w.host
  behaviour := w.behaviour
  wiring := wiring

theorem perform_eq (client : Client) (wiring : Wiring) (op : Operation) (calm : w.Calm) :
    w.perform client wiring op = (client.perform? (w.setting wiring) op,
      match op.args w.host.cwd with
      | .error _ => w
      | .ok args => w.afterStart (client.launcher.command args)) := by
  have setting : w.setting wiring
      = { host := w.host, behaviour := w.behaviour, cancel := w.cancelTime, wiring } := by
    rw [calm.cancelTime]
    rfl
  rw [setting, World.perform]
  cases op.args w.host.cwd <;> rfl

/-- Nothing comes of an operation if its start goes on for ever. -/
theorem perform_eq_none {wiring : Wiring} {op : Operation} {args : List String} (calm : w.Calm)
    (spoken : op.args w.host.cwd = .ok args) :
    (w.perform client wiring op).1 = none ↔ w.idles (client.launcher.command args) := by
  have said : (w.setting wiring).host = w.host ∧ (w.setting wiring).behaviour = w.behaviour := ⟨rfl, rfl⟩
  rw [perform_eq client wiring op calm, Client.perform?_eq_none (w.setting wiring) rfl, said.1, said.2,
    calm.idles]
  simp [spoken]

/-- The code of an operation is that of its result. -/
@[simp] theorem code_performanceEnding (wiring : Wiring) (p : Client.Performance) :
    (performanceEnding wiring p).code = resultCode p.result := by
  unfold performanceEnding
  cases p.result <;> rfl

theorem performAndPrint_answered (client : Client) (wiring : Wiring) (op : Operation) (calm : w.Calm)
    (ends : w.behaviour.waiting = none) :
    ∃ e w', performAndPrint w client wiring op = (some e, w') ∧
      Answered w w'
        ((op.args w.host.cwd).toOption.bind fun args =>
          Command.free? w.host (client.launcher.command args))
        True e.code := by
  rw [performAndPrint, perform_eq client wiring op calm]
  cases spoken : op.args w.host.cwd with
  | error why =>
    rw [Client.perform?_unspoken (w.setting wiring) spoken]
    refine ⟨_, _, rfl, ?_, rfl⟩
    rw [code_performanceEnding]
    exact Problem.code_of_other (Operation.args_plain _ _ why spoken)
  | ok args =>
    simp only [Except.toOption, Option.bind_some]
    cases obstacle : w.host.obstacle? (client.launcher.command args) with
    | some why =>
      obtain ⟨p, comes, refused⟩ := Client.perform?_refused (w.setting wiring) spoken obstacle
      rw [comes, World.afterStart_blocked (obstacle ▸ rfl)]
      refine ⟨_, _, rfl, ?_⟩
      simp only [Answered, Command.free?, obstacle, reduceCtorEq, if_false, code_performanceEnding,
        refused]
      exact ⟨rfl, trivial⟩
    | none =>
      obtain ⟨p, comes, judged⟩ := Client.perform?_judged (w.setting wiring) spoken obstacle rfl ends
      rw [comes]
      refine ⟨_, _, rfl, ?_⟩
      simp only [Answered, Command.free?, obstacle, if_true, code_performanceEnding]
      refine ⟨(World.afterStart_free calm obstacle).2, mirrors_of_judged judged ?_ ?_⟩
      · rintro ⟨exit, succeeded⟩ -
        rw [succeeded]
        rfl
      · exact fun _ impossible => absurd trivial impossible

-- ---------------------------------------------------------------------------
-- One command
-- ---------------------------------------------------------------------------

namespace Action

/-- What a command passes that starts the runtime once and waits for it, or why it does not come to that;
    nothing for the other commands. -/
def request? (cwd : String) : Action → Option (Except Failure (List String))
  | .state id => some (.ok (Query.state id).args)
  | .list _ _ => some (.ok Query.list.args)
  | .processes id _ => some (.ok (Query.processes id).args)
  | .version => some (.ok Query.version.args)
  | .kill id signal all => some ((killOperation id signal all).args cwd)
  | .run id bundle flags => some ((Operation.run id bundle flags).args cwd)
  | .events _ _ | .stats _ | .delete _ _ | .lifecycle _ _ => none

/-- Whether a command can read what the runtime prints. -/
def Reads (stdout : Bytes) : Action → Prop
  | .state id => ∃ c, (Query.state id).decode stdout = .ok c
  | .list _ _ => ∃ cs, Query.list.decode stdout = .ok cs
  | .processes id _ => ∃ pids, (Query.processes id).decode stdout = .ok pids
  | _ => True

end Action

theorem runWith_answered {x : Context} {action : Action} {request : Except Failure (List String)}
    (single : action.request? w.host.cwd = some request) (calm : w.Calm)
    (ends : w.behaviour.waiting = none) :
    ∃ e w', runWith x w client action = (some e, w') ∧
      Answered w w'
        (request.toOption.bind fun args => Command.free? w.host (client.launcher.command args))
        (action.Reads (Write.on .stdout (w.behaviour.output []))) e.code := by
  cases action with
  | state id =>
    cases single
    exact askAndPrint_answered _ _ _ (fun s => Query.document_plain _ _ s) calm ends
  | list format quiet =>
    cases single
    exact askAndPrint_answered _ _ _ (fun s => Query.listDocument_plain _ _ s) calm ends
  | processes id json =>
    cases single
    exact askAndPrint_answered _ _ _ (fun s => Query.listDocument_plain _ _ s) calm ends
  | version =>
    cases single
    have every : (∃ v, Query.version.decode (Write.on .stdout (w.behaviour.output [])) = .ok v)
        = True := eq_true ⟨_, rfl⟩
    have answered := askAndPrint_answered client Query.version (versionText client.settings.command)
      (fun s => plain_ok _) calm ends
    rw [every] at answered
    exact answered
  | kill | run =>
    cases single
    exact performAndPrint_answered client _ _ calm ends
  | events | stats | delete | lifecycle => cases single

-- ---------------------------------------------------------------------------
-- A whole call
-- ---------------------------------------------------------------------------

namespace Invocation

/-- The client of an invocation. -/
def made (file : String → Except SystemError Bytes) (i : Invocation) : Except Failure Client :=
  match i.flags.settings file with
  | .error f => .error f
  | .ok settings => Client.ofSettings settings

theorem made_plain (file : String → Except SystemError Bytes) (i : Invocation) :
    Plain (i.made file) := by
  have settings : Plain (i.flags.settings file) := by
    unfold GlobalFlags.settings
    split
    · exact plain_ok _
    · split
      · rename_i failed
        exact (Settings.ofFile_plain _ _).pass failed
      · exact plain_ok _
  unfold made
  split
  · rename_i failed
    exact settings.pass failed
  · exact Client.ofSettings_plain _

/-- The client of a command line without global flags. -/
def usualClient : Client where
  settings := {}
  launcher := ⟨"runc", [], false, none⟩
  escalation := {}

theorem made_usual (file : String → Except SystemError Bytes) (action : Action) :
    made file ⟨{}, action⟩ = .ok usualClient := by
  have client : Client.ofSettings (({} : GlobalFlags).over {}) = .ok usualClient := by
    decide +kernel
  exact client

theorem run_eq (x : Context) (w : World) (i : Invocation) :
    i.run x w =
      match i.made x.file with
      | .error f => (some ((Ending.failing f).after (preface i.action)), w)
      | .ok client =>
        ((runWith x w client i.action).1.map (Ending.after (preface i.action)),
          (runWith x w client i.action).2) := rfl

/-- The command that an invocation starts which makes one request; nothing if it does not come to that. -/
def launch? (file : String → Except SystemError Bytes) (host : Host) (i : Invocation) :
    Option Command :=
  match i.made file, i.action.request? host.cwd with
  | .ok client, some request =>
    request.toOption.bind fun args => Command.free? host (client.launcher.command args)
  | _, _ => none

end Invocation

variable {env : String → Option String} {file : String → Except SystemError Bytes}
  {args : List String} {i : Invocation}

/-- A call whose client cannot be made ends with that. -/
theorem call_unmade {f : Failure} (time : String) (accepted : Invocation.ofArgs env args = .ok i)
    (unmade : i.made file = .error f) :
    ∃ o, call env file time w args = (some o, w) ∧ o.code = 1 := by
  simp only [call, accepted, Invocation.run_eq, unmade]
  exact ⟨_, rfl, Problem.code_of_other (i.made_plain file f unmade)⟩

/-- A call whose client can be made comes to what its command comes to. -/
theorem call_made (time : String) (accepted : Invocation.ofArgs env args = .ok i)
    (made : i.made file = .ok client) :
    ∃ x, call env file time w args
      = ((runWith x w client i.action).1.map fun e => .ofEnding (e.after (preface i.action)),
          (runWith x w client i.action).2) := by
  simp only [call, accepted, Invocation.run_eq, made, Option.map_map]
  exact ⟨_, rfl⟩

/-- The exit code of an accepted command line that makes one request of the runtime, in a call that nobody
    interrupts and whose runtime, if it comes to that, ends by itself. If nothing can be started, be it for
    the configuration, the arguments or the host, the code is 1. Otherwise there is one start, and the code
    mirrors how that ended. -/
theorem exit_code (time : String) (accepted : Invocation.ofArgs env args = .ok i)
    (single : (i.action.request? w.host.cwd).isSome) (calm : w.Calm)
    (ends : w.behaviour.waiting = none) :
    ∃ o w', call env file time w args = (some o, w') ∧
      (i.launch? file w.host = none → o.code = 1 ∧ w' = w) ∧
      ∀ c, i.launch? file w.host = some c →
        w'.starts = w.starts ++ [c.args] ∧
        Mirrors w.behaviour.naturalEnd
          (i.action.Reads (Write.on .stdout (w.behaviour.output []))) o.code := by
  obtain ⟨request, asks⟩ := Option.isSome_iff_exists.mp single
  cases made : i.made file with
  | error f =>
    obtain ⟨o, ending, one⟩ := call_unmade time accepted made
    refine ⟨o, w, ending, fun _ => ⟨one, rfl⟩, fun c launch => ?_⟩
    simp [Invocation.launch?, made] at launch
  | ok client =>
    obtain ⟨x, ending⟩ := call_made time accepted made
    obtain ⟨e, w', ran, answered⟩ := runWith_answered asks calm ends
    rw [ran] at ending
    have launch : i.launch? file w.host = request.toOption.bind fun args =>
        Command.free? w.host (client.launcher.command args) := by
      simp only [Invocation.launch?, made, asks]
    have code : (Outcome.ofEnding (e.after (preface i.action))).code = e.code := Ending.code_after _ e
    rw [← launch, ← code] at answered
    refine ⟨_, w', ending, fun unstarted => ?_, fun c started => ?_⟩
    · rw [unstarted] at answered
      exact answered
    · rw [started] at answered
      exact answered

/-- A runtime that dies of signal 11 and leaves a core dump. -/
theorem exit_code_core_dump :
    ∃ o w', call (fun _ => none) (fun _ => .error .notFound) ""
        { host := ⟨"/", ["runc"], []⟩, behaviours := [{ otherEnd := some ⟨0x8B⟩ }] }
        ["kill", "c1", "HUP"] = (some o, w') ∧
      w'.starts = [["kill", "c1", "HUP"]] ∧ o.code = 139 := by
  have accepted : Invocation.ofArgs (fun _ => none) ["kill", "c1", "HUP"]
      = .ok ⟨{}, .kill "c1" "HUP" false⟩ := by
    decide +kernel
  have request : Action.request? "/" (.kill "c1" "HUP" false) = some (.ok ["kill", "c1", "HUP"]) := by
    decide +kernel
  have free : Command.free? ⟨"/", ["runc"], []⟩ ⟨"runc", ["kill", "c1", "HUP"]⟩
      = some ⟨"runc", ["kill", "c1", "HUP"]⟩ := by
    simp [Command.free?, Host.obstacle?, Command.isPassable]
  have launch : Invocation.launch? (fun _ => .error .notFound) ⟨"/", ["runc"], []⟩
      ⟨{}, .kill "c1" "HUP" false⟩ = some ⟨"runc", ["kill", "c1", "HUP"]⟩ := by
    simp only [Invocation.launch?, Invocation.made_usual, request]
    exact free
  obtain ⟨o, w', ending, -, started⟩ := exit_code ""
    (w := { host := ⟨"/", ["runc"], []⟩, behaviours := [{ otherEnd := some ⟨0x8B⟩ }] })
    accepted rfl ⟨rfl, rfl⟩ rfl
  obtain ⟨starts, mirrors⟩ := started _ launch
  exact ⟨o, w', ending, starts, mirrors.bySignal 11 (by decide)⟩

end CommandLine

end Overseer
