-- SUMMARY: One request to a runtime that ends by itself: both ways of waiting come to one judgement.
import Overseer.Proofs.Runtime.Query.Completion
import Overseer.Runtime.Client

/-!
# Requests

A query waits for its runtime itself, an operation leaves that to a supervisor. If nobody cancels and the
runtime ends by itself, both judge its end alike: with code 0 a query reads its answer and an operation has
succeeded, and any other end is a failed command with the decoded status.
-/

namespace Overseer

variable {α : Type} {program : String} {status : WaitStatus} {good : Except Failure α → Prop}
  {host : Host} {b : Behaviour}

/-- How a request ends whose runtime ended with `status`; `good` says what becomes of it if that is well. -/
inductive Judged (program : String) (status : WaitStatus) (good : Except Failure α → Prop) :
    Except Failure α → Prop where
  | well {result : Except Failure α} (zero : status.code? = some 0) (held : good result) :
      Judged program status good result
  | badly (text : String) (other : status.code? ≠ some 0) :
      Judged program status good (.error (.command program (.ofWait status) text))

theorem Judged.failed {result : Except Failure α} (judged : Judged program status good result)
    (other : status.code? ≠ some 0) :
    ∃ text, result = .error (.command program (.ofWait status) text) := by
  cases judged with
  | well zero => exact absurd zero other
  | badly text => exact ⟨text, rfl⟩

theorem Judged.succeeded {result : Except Failure α} (judged : Judged program status good result)
    (zero : status.code? = some 0) : good result := by
  cases judged with
  | well _ held => exact held
  | badly _ other => exact absurd zero other

-- ---------------------------------------------------------------------------
-- Failures that are no command's
-- ---------------------------------------------------------------------------

/-- The result is no failure of a command. -/
def Plain (result : Except Failure α) : Prop := ∀ f, result = .error f → f.isCommandExit = false

theorem plain_ok (a : α) : Plain (.ok a) := nofun

theorem plain_error {f : Failure} (other : f.isCommandExit = false) :
    Plain (.error f : Except Failure α) := by
  rintro _ ⟨⟩
  exact other

/-- A failure that is passed on. -/
theorem Plain.pass {β : Type} {result : Except Failure β} {f : Failure} (plain : Plain result)
    (failed : result = .error f) : Plain (.error f : Except Failure α) :=
  plain_error (plain f failed)

theorem Signal.parseArgument_plain (text : String) : Plain (Signal.parseArgument text) := by
  unfold Signal.parseArgument
  split
  · exact plain_ok _
  · exact plain_error rfl

theorem Signal.parseOption_plain (text : Option String) : Plain (Signal.parseOption text) := by
  unfold Signal.parseOption
  split
  · exact plain_ok _
  · split
    · exact plain_ok _
    · rename_i failed
      exact (Signal.parseArgument_plain _).pass failed

theorem Client.ofSettings_plain (s : Settings) : Plain (Client.ofSettings s) := by
  have escalation : Plain (Escalation.ofSettings s.monitor) := by
    unfold Escalation.ofSettings
    split
    · exact plain_ok _
    · rename_i failed
      exact (Signal.parseOption_plain _).pass failed
  have launcher : Plain (Launcher.ofSettings s) := by
    unfold Launcher.ofSettings
    split
    · rename_i failed
      exact (Signal.parseOption_plain _).pass failed
    · exact plain_ok _
  unfold Client.ofSettings
  split
  · rename_i failed
    exact escalation.pass failed
  · split
    · rename_i failed
      exact launcher.pass failed
    · exact plain_ok _

theorem Settings.ofFile_plain (path : String) (content : Except SystemError Bytes) :
    Plain (Settings.ofFile path content) := by
  unfold Settings.ofFile
  split
  · exact plain_error rfl
  · split_ifs
    · exact plain_error rfl
    · split
      · exact plain_ok _
      · exact plain_error rfl

theorem pidFileArgs_plain (cwd : String) (path : Option String) : Plain (pidFileArgs cwd path) := by
  unfold pidFileArgs
  split
  · exact plain_ok _
  · split
    · exact plain_ok _
    · exact plain_error rfl

theorem CreateFlags.args_plain (cwd : String) (flags : CreateFlags) : Plain (flags.args cwd) := by
  unfold CreateFlags.args
  split
  · rename_i failed
    exact (pidFileArgs_plain cwd _).pass failed
  · exact plain_ok _

theorem ExecFlags.args_plain (cwd : String) (flags : ExecFlags) : Plain (flags.args cwd) := by
  unfold ExecFlags.args
  split
  · rename_i failed
    exact (pidFileArgs_plain cwd _).pass failed
  · exact plain_ok _

theorem Operation.args_plain (cwd : String) (op : Operation) : Plain (op.args cwd) := by
  have bundle : ∀ name id bundle flags, Plain (Operation.bundleArgs cwd name id bundle flags) := by
    intro name id bundle flags
    unfold Operation.bundleArgs
    split
    · rename_i failed
      exact (CreateFlags.args_plain cwd flags).pass failed
    · exact plain_ok _
  cases op with
  | create | run => exact bundle _ _ _ _
  | exec id processFile flags =>
    simp only [Operation.args]
    split
    · rename_i failed
      exact (ExecFlags.args_plain cwd flags).pass failed
    · exact plain_ok _
  | start | pause | resume | delete | kill => exact plain_ok _

namespace Query

variable (context : String) (d : Json.Decoder α) (s : Bytes)

theorem document_plain : Plain (document context d s) := by
  unfold document
  split
  · exact plain_ok _
  · exact plain_error rfl

theorem listDocument_plain : Plain (listDocument context d s) := by
  unfold listDocument
  split
  · exact plain_ok _
  · rename_i failed
    exact (document_plain context _ s).pass failed

end Query

-- ---------------------------------------------------------------------------
-- Queries
-- ---------------------------------------------------------------------------

namespace Query

variable {q : Query α} {launcher : Launcher}

theorem ask?_refused {why : SystemError} (obstacle : host.obstacle? (launcher.command q.args) = some why) :
    q.ask? host launcher b .never = some (.error (.start launcher.program why)) := by
  simp only [ask?_eq, settled?, start, obstacle]

theorem ask?_judged (started : host.obstacle? (launcher.command q.args) = none)
    (ends : b.waiting = none) :
    ∃ result, q.ask? host launcher b .never = some result ∧
      Judged launcher.program b.naturalEnd
        (· = q.decode (Write.on .stdout (b.output []))) result := by
  have ending : b.process [] = some b.naturalEnd := by simp only [Behaviour.process, ends]
  simp only [ask?_eq, settled?, start, started, ending, Option.map_some]
  split_ifs with zero
  · exact ⟨_, rfl, .well zero rfl⟩
  · exact ⟨_, rfl, .badly _ zero⟩

end Query

-- ---------------------------------------------------------------------------
-- Operations
-- ---------------------------------------------------------------------------

namespace Client

variable {client : Client} {op : Operation} {args : List String} (setting : Setting)

/-- A supervised runtime that ends by itself is reported to have done so. -/
theorem supervision_sent (escalation : Escalation) (ends : b.waiting = none) :
    (supervision escalation b .never).sent = [Exit.ofOutcome runtimePid (some b.naturalEnd)] := by
  have process : processOf b .never = fun _ => some b.naturalEnd := by
    funext got
    simp only [processOf, reduceCtorEq, if_false, Behaviour.process, ends]
  simp only [supervision, process]
  rfl

/-- A supervised runtime that waits is reported to have done nothing yet. -/
theorem supervision_unsent (escalation : Escalation) (waits : b.waiting ≠ none) :
    (supervision escalation b .never).sent = [] := by
  obtain ⟨w, waiting⟩ := Option.ne_none_iff_exists'.mp waits
  have process : processOf b .never = fun got => got.findSome? (Behaviour.answer? w) := by
    funext got
    simp only [processOf, reduceCtorEq, if_false, Behaviour.process, waiting]
  simp only [supervision, process]
  rfl

theorem perform?_unspoken {why : Failure} (bad : op.args setting.host.cwd = .error why) :
    client.perform? setting op = some { result := .error why } := by
  simp only [perform?, bad]

/-- An operation that comes to something behind its arguments has that from the report. -/
theorem perform?_spoken (spoken : op.args setting.host.cwd = .ok args) :
    client.perform? setting op
      = (report? setting.host client.escalation setting.behaviour setting.cancel
          (client.launcher.command args)).map fun report =>
        performWith (fun _ => report) client.launcher setting.host.cwd op setting.wiring
          setting.notice
          (written client.escalation setting.behaviour setting.cancel
            (setting.wiring.input setting.input []))
          setting.behaviour.leavesHolder := by
  simp only [perform?, spoken]

theorem perform?_refused {why : SystemError} (spoken : op.args setting.host.cwd = .ok args)
    (obstacle : setting.host.obstacle? (client.launcher.command args) = some why) :
    ∃ p, client.perform? setting op = some p ∧
      p.result = .error (.start (Command.shown client.launcher.program) why) := by
  have report : report? setting.host client.escalation setting.behaviour setting.cancel
      (client.launcher.command args)
        = some (.refused (.start (Command.shown client.launcher.program) why)) := by
    simp only [report?, obstacle]
    rfl
  rw [perform?_spoken setting spoken, report]
  refine ⟨_, rfl, ?_⟩
  simp only [performWith, spoken, Monitored.run]

theorem perform?_judged (spoken : op.args setting.host.cwd = .ok args)
    (started : setting.host.obstacle? (client.launcher.command args) = none)
    (never : setting.cancel = .never) (ends : setting.behaviour.waiting = none) :
    ∃ p, client.perform? setting op = some p ∧
      Judged client.launcher.program setting.behaviour.naturalEnd (∃ exit, · = .ok exit) p.result := by
  have report : report? setting.host client.escalation setting.behaviour setting.cancel
      (client.launcher.command args)
        = some (.ended runtimePid (Exit.ofOutcome runtimePid (some setting.behaviour.naturalEnd))) := by
    simp only [report?, started, never, supervision_sent client.escalation ends]
    rfl
  have exit : (Exit.ofOutcome runtimePid (some setting.behaviour.naturalEnd)).exit
      = .ofWait setting.behaviour.naturalEnd := rfl
  rw [perform?_spoken setting spoken, report]
  refine ⟨_, rfl, ?_⟩
  simp only [performWith, spoken, Monitored.run, Monitored.attend, Verdict.ofExit, exit]
  by_cases zero : setting.behaviour.naturalEnd.code? = some 0
  · rw [Verdict.ofStatus_good ((ExitStatus.success_iff_code _).mpr zero)]
    exact .well zero ⟨_, rfl⟩
  · rw [Verdict.ofStatus_bad (ExitStatus.failure_of_code zero)]
    exact .badly _ zero

/-- Nothing comes of an operation if its runtime is started and waits for a signal that nobody sends. -/
theorem perform?_eq_none (never : setting.cancel = .never) :
    client.perform? setting op = none ↔ ∃ args, op.args setting.host.cwd = .ok args ∧
      setting.host.obstacle? (client.launcher.command args) = none ∧
      setting.behaviour.waiting ≠ none := by
  constructor
  · intro endless
    cases spoken : op.args setting.host.cwd with
    | error why =>
      rw [perform?_unspoken setting spoken] at endless
      cases endless
    | ok args =>
      cases obstacle : setting.host.obstacle? (client.launcher.command args) with
      | some why =>
        obtain ⟨p, comes, -⟩ := perform?_refused setting spoken obstacle
        rw [endless] at comes
        cases comes
      | none =>
        refine ⟨args, rfl, obstacle, fun ends => ?_⟩
        obtain ⟨p, comes, -⟩ := perform?_judged setting spoken obstacle never ends
        rw [endless] at comes
        cases comes
  · rintro ⟨args, spoken, started, waits⟩
    rw [perform?_spoken setting spoken]
    simp only [report?, started, never, supervision_unsent client.escalation waits]
    rfl

end Client

end Overseer
