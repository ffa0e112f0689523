-- SUMMARY: A command for several targets makes one invocation for each of them and accounts for every result.
import Overseer.Proofs.CommandLine.ExitCode

/-!
# Several targets

Whatever became of the targets before it, each target gets one invocation, in the order given. The output
follows from the list of the targets with their results alone (`Accounted`): the successes on standard
output, a complaint for each failure on standard error, and a closing word if there was a failure. Only an
invocation that never ends keeps the ones behind it from being made, and the command from ending.
-/

namespace Overseer

-- ---------------------------------------------------------------------------
-- One invocation
-- ---------------------------------------------------------------------------

namespace Client

/-- The commands that were handed to a monitor. -/
def Performance.commands (p : Performance) : List Command :=
  p.steps.filterMap fun
    | .start c => some c
    | .notify _ | .await _ => none

/-- An operation that has arguments is one command, whatever comes of it. -/
theorem perform?_commands {client : Client} {op : Operation} {args : List String} {p : Performance}
    (setting : Setting) (spoken : op.args setting.host.cwd = .ok args)
    (comes : client.perform? setting op = some p) : p.commands = [client.launcher.command args] := by
  rw [perform?_spoken setting spoken] at comes
  obtain ⟨report, -, rfl⟩ := Option.map_eq_some_iff.mp comes
  simp only [performWith, spoken, Monitored.run, Performance.commands]
  cases report with
  | refused why => rfl
  | dropped pid | ended pid exit =>
    simp only [Monitored.attend]
    split <;> rfl

end Client

namespace CommandLine

-- ---------------------------------------------------------------------------
-- One invocation after the other
-- ---------------------------------------------------------------------------

/-- The operations are performed one after the other, each in the world that the one before it has left,
    whatever its result. -/
inductive InTurn (client : Client) :
    World → List Operation → List Client.Performance → World → Prop where
  | done (w : World) : InTurn client w [] [] w
  | next {u v w : World} {op : Operation} {ops : List Operation} {p : Client.Performance}
      {ps : List Client.Performance} (first : u.perform client {} op = (some p, v))
      (others : InTurn client v ops ps w) :
      InTurn client u (op :: ops) (p :: ps) w

variable {u v w : World} {client : Client} {op : Operation} {p : Client.Performance}
  {ps : List Client.Performance}

theorem perform_host (wiring : Wiring) : (w.perform client wiring op).2.host = w.host := by
  unfold World.perform
  cases op.args w.host.cwd with
  | error why => rfl
  | ok args =>
    simp only [World.afterStart]
    split <;> rfl

theorem perform_world {wiring : Wiring} {args : List String} (spoken : op.args w.host.cwd = .ok args) :
    (w.perform client wiring op).2 = w.afterStart (client.launcher.command args) := by
  simp only [World.perform, spoken]

theorem commands_of_perform {wiring : Wiring} {args : List String}
    (spoken : op.args w.host.cwd = .ok args) (comes : (w.perform client wiring op).1 = some p) :
    p.commands = [client.launcher.command args] := by
  simp only [World.perform, spoken] at comes
  exact Client.perform?_commands { host := w.host, behaviour := w.behaviour, cancel := w.cancelTime, wiring }
    spoken comes

theorem InTurn.host {ops : List Operation} (turns : InTurn client u ops ps w) : w.host = u.host := by
  induction turns with
  | done => rfl
  | @next u v w op ops p ps first others ih =>
    have kept : (u.perform client {} op).2.host = u.host := perform_host {}
    rw [first] at kept
    exact ih.trans kept

variable {α : Type} {what : α → Operation} {said : α → List String} {as : List α}

/-- Each of the operations is one command. -/
theorem InTurn.commands (turns : InTurn client u (as.map what) ps w)
    (spoken : ∀ a, (what a).args u.host.cwd = .ok (said a)) :
    ps.map (·.commands) = as.map fun a => [client.launcher.command (said a)] := by
  induction as generalizing u ps with
  | nil =>
    cases turns
    rfl
  | cons a as ih =>
    cases turns with
    | @next _ v _ _ _ p ps first others =>
      have host : v.host = u.host := by
        have kept : (u.perform client {} (what a)).2.host = u.host := perform_host {}
        rwa [first] at kept
      have rest := ih others fun b => by rw [host]; exact spoken b
      have performed : (u.perform client {} (what a)).1 = some p := by rw [first]
      rw [List.map_cons, List.map_cons, rest, commands_of_perform (spoken a) performed]

/-- Where nobody interrupts the program, nobody has behind the operations. -/
theorem InTurn.calm (turns : InTurn client u (as.map what) ps w) (calm : u.Calm) : w.Calm := by
  induction as generalizing u ps with
  | nil =>
    cases turns
    exact calm
  | cons a as ih =>
    cases turns with
    | @next _ v _ _ _ p ps first others =>
      refine ih others ?_
      rw [perform_eq client {} (what a) calm] at first
      obtain ⟨-, rfl⟩ := Prod.mk.inj first
      split
      · exact calm
      · rename_i args _
        cases free : u.host.obstacle? (client.launcher.command args) with
        | some why =>
          rw [World.afterStart_blocked (free ▸ rfl)]
          exact calm
        | none => exact (World.afterStart_free calm free).1.calm

/-- Where moreover nothing stands in the way, the first operation is a start, and the others are performed
    behind it. -/
theorem InTurn.start {a : α} (turns : InTurn client u ((a :: as).map what) ps w) (calm : u.Calm)
    (spoken : (what a).args u.host.cwd = .ok (said a))
    (free : u.host.obstacle? (client.launcher.command (said a)) = none) :
    ∃ p v qs, client.perform? (u.setting {}) (what a) = some p ∧ ps = p :: qs ∧
      InTurn client v (as.map what) qs w ∧ World.After u v 1 ∧
      v.starts = u.starts ++ [(client.launcher.command (said a)).args] := by
  cases turns with
  | @next _ v _ _ _ p qs first others =>
    rw [perform_eq client {} (what a) calm, spoken] at first
    obtain ⟨comes, rfl⟩ := Prod.mk.inj first
    obtain ⟨after, starts⟩ := World.afterStart_free calm free
    exact ⟨p, _, qs, comes, rfl, others, after, starts⟩

/-- There each operation is one start. -/
theorem InTurn.started (turns : InTurn client u (as.map what) ps w) (calm : u.Calm)
    (spoken : ∀ a, (what a).args u.host.cwd = .ok (said a))
    (free : ∀ a ∈ as, u.host.obstacle? (client.launcher.command (said a)) = none) :
    World.After u w as.length ∧
      w.starts = u.starts ++ as.map fun a => (client.launcher.command (said a)).args := by
  induction as generalizing u ps with
  | nil =>
    cases turns
    exact ⟨.refl calm, (List.append_nil _).symm⟩
  | cons a as ih =>
    obtain ⟨-, v, qs, -, -, others, after, starts⟩ :=
      turns.start calm (spoken a) (free a List.mem_cons_self)
    obtain ⟨rest, later⟩ := ih others after.calm (fun b => by rw [after.host]; exact spoken b)
      fun b mem => by rw [after.host]; exact free b (List.mem_cons_of_mem a mem)
    refine ⟨?_, ?_⟩
    · rw [List.length_cons, Nat.add_comm]
      exact after.trans rest
    · rw [later, starts, List.append_assoc]
      rfl

/-- There the result of an operation is how its start ended, if that came to an end by itself. -/
theorem InTurn.judged (turns : InTurn client u (as.map what) ps w) (calm : u.Calm)
    (spoken : ∀ a, (what a).args u.host.cwd = .ok (said a))
    (free : ∀ a ∈ as, u.host.obstacle? (client.launcher.command (said a)) = none) {n : Nat}
    (some : ps[n]? = some p) (ends : (u.behaviourAt n).waiting = none) :
    Judged client.launcher.program (u.behaviourAt n).naturalEnd (∃ exit, · = .ok exit) p.result := by
  induction as generalizing u ps n with
  | nil =>
    cases turns
    simp at some
  | cons a as ih =>
    have unobstructed := free a List.mem_cons_self
    obtain ⟨q, v, qs, comes, rfl, others, after, -⟩ := turns.start calm (spoken a) unobstructed
    cases n with
    | zero =>
      rw [World.behaviourAt_zero] at ends ⊢
      obtain rfl := Option.some.inj some
      obtain ⟨_, given, judged⟩ :=
        Client.perform?_judged (u.setting {}) (spoken a) unobstructed rfl ends
      obtain rfl := Option.some.inj (comes.symm.trans given)
      exact judged
    | succ n =>
      have later : v.behaviourAt n = u.behaviourAt (n + 1) := by rw [after.behaviours, Nat.add_comm]
      rw [← later] at ends ⊢
      exact ih others after.calm (fun b => by rw [after.host]; exact spoken b)
        (fun b mem => by rw [after.host]; exact free b (List.mem_cons_of_mem a mem)) some ends

-- ---------------------------------------------------------------------------
-- Results
-- ---------------------------------------------------------------------------

variable (results : List (String × Except Failure Exit))

/-- The targets that a command worked for, in order. -/
def succeeded : List String :=
  results.filterMap fun (target, result) =>
    match result with
    | .ok _ => some target
    | .error _ => none

/-- The targets that it did not work for, in order, with the reasons. -/
def failed : List (String × Failure) :=
  results.filterMap fun (target, result) =>
    match result with
    | .ok _ => none
    | .error f => some (target, f)

/-- It has either worked for a target or failed. -/
theorem length_failed_add : (failed results).length + (succeeded results).length = results.length := by
  induction results with
  | nil => rfl
  | cons r results ih =>
    obtain ⟨target, result⟩ := r
    cases result with
    | ok exit =>
      change (failed results).length + ((succeeded results).length + 1) = results.length + 1
      omega
    | error f =>
      change (failed results).length + 1 + (succeeded results).length = results.length + 1
      omega

/-- The results as attempts. -/
def attempts : List Attempt := results.map fun (target, result) => ⟨target, result.map fun _ => ()⟩

theorem successes_attempts : (attempts results).filterMap Attempt.success? = succeeded results := by
  rw [attempts, List.filterMap_map]
  apply List.filterMap_congr
  rintro ⟨target, result⟩ -
  cases result <;> rfl

theorem failures_attempts : (attempts results).filterMap Attempt.failure? = failed results := by
  rw [attempts, List.filterMap_map]
  apply List.filterMap_congr
  rintro ⟨target, result⟩ -
  cases result <;> rfl

/-- The operation is performed on some of the targets, and behind them on one on which it never ends. -/
structure HeldUp (client : Client) (w : World) (what : String → Operation) (before : List String)
    (target : String) (ps : List Client.Performance) (v w' : World) : Prop where
  turns : InTurn client w (before.map what) ps v
  endless : v.perform client {} (what target) = (none, w')

/-- Attempting an operation on every target is performing it on each of them in turn, up to the first on
    which it never ends. -/
theorem all_inTurn (w : World) (client : Client) (what : String → Operation) (targets : List String) :
    (∃ ps w', InTurn client w (targets.map what) ps w' ∧
      Attempt.all w client what targets = (some (attempts (targets.zip (ps.map (·.result)))), w')) ∨
    ∃ before target after ps v w', targets = before ++ target :: after ∧
      HeldUp client w what before target ps v w' ∧ Attempt.all w client what targets = (none, w') := by
  induction targets generalizing w with
  | nil => exact .inl ⟨[], w, .done w, rfl⟩
  | cons target rest ih =>
    cases performed : w.perform client {} (what target) with
    | mk p v =>
      cases p with
      | none =>
        exact .inr ⟨[], target, rest, [], w, v, rfl, ⟨.done w, performed⟩,
          Attempt.all_cons_endless performed⟩
      | some p =>
        rw [Attempt.all_cons performed]
        rcases ih v with ⟨ps, w', others, all⟩ |
          ⟨before, other, after, ps, u, w', rfl, ⟨others, endless⟩, all⟩
        · exact .inl ⟨p :: ps, w', .next performed others, by rw [all]; rfl⟩
        · exact .inr ⟨target :: before, other, after, p :: ps, u, w', rfl,
            ⟨.next performed others, endless⟩, by rw [all]; rfl⟩

section

variable {what : String → Operation} {said : String → List String} {targets before : List String}
  {target : String} {after : List String} {w' : World}

/-- What holds up the attempts is a start that goes on for ever. -/
theorem HeldUp.idles (held : HeldUp client w what before target ps v w') (calm : w.Calm)
    (spoken : ∀ target, (what target).args w.host.cwd = .ok (said target)) :
    v.idles (client.launcher.command (said target)) := by
  have spoken' : (what target).args v.host.cwd = .ok (said target) := by
    rw [held.turns.host]
    exact spoken target
  exact (perform_eq_none (held.turns.calm calm) spoken').mp (congrArg Prod.fst held.endless)

/-- Where nothing stands in the way, it is the start behind those of the targets before. -/
theorem HeldUp.started (held : HeldUp client w what before target ps v w') (calm : w.Calm)
    (spoken : ∀ target, (what target).args w.host.cwd = .ok (said target))
    (free : ∀ a ∈ before ++ target :: after,
      w.host.obstacle? (client.launcher.command (said a)) = none) :
    w'.starts = w.starts
        ++ (before ++ [target]).map (fun a => (client.launcher.command (said a)).args) ∧
      (w.behaviourAt before.length).waiting ≠ none := by
  obtain ⟨after, starts⟩ := held.turns.started calm spoken fun a mem =>
    free a (List.mem_append_left _ mem)
  have idles := held.idles calm spoken
  have behaviour : v.behaviour = w.behaviourAt before.length := by
    rw [← World.behaviourAt_zero, after.behaviours, Nat.add_zero]
  have world : w' = v.afterStart (client.launcher.command (said target)) := by
    rw [← perform_world (by rw [after.host]; exact spoken target), held.endless]
  have unobstructed : v.host.obstacle? (client.launcher.command (said target)) = none := by
    rw [after.host]
    exact free target (List.mem_append_right _ List.mem_cons_self)
  refine ⟨?_, ?_⟩
  · rw [world, (World.afterStart_free after.calm unobstructed).2, starts, List.map_append,
      List.append_assoc]
    rfl
  · exact behaviour ▸ (after.calm.idles.mp idles).2

/-- Where the runtime ends by itself for each of the targets, nothing holds them up. -/
theorem all_ends (calm : w.Calm) (spoken : ∀ target, (what target).args w.host.cwd = .ok (said target))
    (free : ∀ a ∈ targets, w.host.obstacle? (client.launcher.command (said a)) = none)
    (ends : ∀ n < targets.length, (w.behaviourAt n).waiting = none) :
    ∃ ps w', InTurn client w (targets.map what) ps w' ∧
      Attempt.all w client what targets
        = (some (attempts (targets.zip (ps.map (·.result)))), w') := by
  rcases all_inTurn w client what targets with all | ⟨before, target, after, ps, v, w', rfl, held, -⟩
  · exact all
  · exact absurd (ends before.length (by simp)) (held.started calm spoken free).2

end

-- ---------------------------------------------------------------------------
-- What is said
-- ---------------------------------------------------------------------------

/-- A command for several targets. -/
inductive Sweep where
  | delete (force : Bool)
  | lifecycle (which : Lifecycle)

namespace Sweep

def action (targets : List String) : Sweep → Action
  | delete force => .delete targets force
  | lifecycle which => .lifecycle which targets

/-- What it does to a target. -/
def operation : Sweep → String → Operation
  | delete force => fun id => .delete id { force }
  | lifecycle which => which.operation

/-- What it passes to the runtime for a target. -/
def passed (target : String) : Sweep → List String
  | delete true => ["delete", "--force", target]
  | delete false => ["delete", target]
  | lifecycle which => [which.verb, target]

/-- What it says about a target that failed. -/
def complaint (target : String) (f : Failure) : Sweep → String
  | delete _ => "Error deleting container '" ++ target ++ "': " ++ f.message
  | lifecycle which =>
    "Error: failed to " ++ which.verb ++ " container '" ++ target ++ "': " ++ f.message

/-- How many of the targets failed; `all` of them if none has succeeded. -/
def heading (which : Lifecycle) (results : List (String × Except Failure Exit)) : String :=
  if succeeded results = [] then
    "Failed to " ++ which.verb ++ " all " ++ toString (failed results).length ++ " container(s)"
  else
    "Failed to " ++ which.verb ++ " " ++ toString (failed results).length ++ " of "
      ++ toString results.length ++ " container(s)"

/-- What it says in the end, if there was a failure. -/
def closing (results : List (String × Except Failure Exit)) : Sweep → String
  | delete _ => "Error: Some containers could not be deleted"
  | lifecycle which =>
    "Error: " ++ heading which results ++ "\nErrors:\n  "
      ++ "\n  ".intercalate ((failed results).map fun (target, f) => target ++ ": " ++ f.message)

theorem args_operation (sweep : Sweep) (cwd target : String) :
    (sweep.operation target).args cwd = .ok (sweep.passed target) := by
  cases sweep with
  | delete force => cases force <;> rfl
  | lifecycle which => cases which <;> rfl

end Sweep

/-- What a call for several targets comes to, given what became of each of them. -/
structure Accounted (sweep : Sweep) (results : List (String × Except Failure Exit)) (o : Outcome) :
    Prop where
  stdout : o.stdout = Bytes.ofString (lines (succeeded results))
  stderr : o.stderr
    = Bytes.ofString (lines ((failed results).map fun (target, f) => sweep.complaint target f))
      ++ if failed results = [] then [] else Bytes.ofString (sweep.closing results ++ "\n")
  code : o.code = if failed results = [] then 0 else 1

/-- The ending of a sweep. -/
def Sweep.ending (attempts : List Attempt) : Sweep → Ending
  | .delete _ => deleteEnding attempts
  | .lifecycle which => which.ending attempts

/-- The summary of a command that knows its verb. -/
theorem summary_attempts (which : Lifecycle) (results : List (String × Except Failure Exit)) :
    "Error: " ++ Attempt.summary which.verb (attempts results)
      = (Sweep.lifecycle which).closing results := by
  have counted : results.length = (failed results).length + (succeeded results).length :=
    (length_failed_add results).symm
  have some : 0 < (succeeded results).length ↔ (succeeded results) ≠ [] := List.length_pos_iff
  simp only [Attempt.summary, successes_attempts, failures_attempts, some, ite_not,
    ← counted, Sweep.closing, Sweep.heading, String.append_assoc]

theorem accounted_ending (sweep : Sweep) (results : List (String × Except Failure Exit)) :
    Accounted sweep results (.ofEnding (sweep.ending (attempts results))) := by
  have ending : ∃ complain summary, sweep.ending (attempts results)
        = Attempt.ending complain summary (attempts results) ∧
      (∀ target f, complain target f = sweep.complaint target f) ∧
      "Error: " ++ summary (attempts results) = sweep.closing results := by
    cases sweep with
    | delete force => exact ⟨_, fun _ => "Some containers could not be deleted", rfl, fun _ _ => rfl, rfl⟩
    | lifecycle which => exact ⟨_, _, rfl, fun _ _ => rfl, summary_attempts which results⟩
  obtain ⟨complain, summary, ending, complaints, closing⟩ := ending
  rw [ending]
  have stdout : Attempt.successText (attempts results) = lines (succeeded results) := by
    rw [Attempt.successText, successes_attempts]
    rfl
  have stderr : Attempt.failureText complain (attempts results)
      = lines ((failed results).map fun (target, f) => sweep.complaint target f) := by
    rw [Attempt.failureText, failures_attempts, lines, List.map_map]
    simp only [complaints]
    rfl
  have problem : (Attempt.ending complain summary (attempts results)).problem
      = if failed results = [] then none else some (.summary (summary (attempts results))) := by
    simp only [Attempt.ending, failures_attempts, List.isEmpty_iff]
  refine ⟨?_, ?_, ?_⟩
  · rw [← stdout]
    unfold Outcome.ofEnding
    split <;> rfl
  · rw [← stderr, ← closing]
    unfold Outcome.ofEnding
    rw [problem]
    split_ifs
    · exact (List.append_nil _).symm
    · rfl
  · unfold Outcome.ofEnding
    rw [problem]
    split_ifs <;> rfl

theorem runWith_sweep (x : Context) (w : World) (client : Client) (sweep : Sweep) (targets : List String) :
    runWith x w client (sweep.action targets)
      = ((Attempt.all w client sweep.operation targets).1.map fun attempts => sweep.ending attempts,
          (Attempt.all w client sweep.operation targets).2) := by
  cases sweep <;> rfl

-- ---------------------------------------------------------------------------
-- Whole calls
-- ---------------------------------------------------------------------------

/-- A call for several targets whose client could be made, in any world. One invocation is made for each
    target, in the order given, whatever became of those before; if nobody interrupts the program and
    nothing stands in the way, each of them is a start of the runtime, whose end is the result. The outcome
    accounts for every result, and each target has either failed or succeeded. There is no outcome only if
    one of the invocations never ends: then none is made for the targets behind, and if nobody interrupts
    the program, the runtime was started and waits for ever. -/
theorem targets_accounted_for {env : String → Option String}
    {file : String → Except SystemError Bytes} {args : List String} {flags : GlobalFlags} {sweep : Sweep}
    {targets : List String} (time : String)
    (accepted : Invocation.ofArgs env args = .ok ⟨flags, sweep.action targets⟩)
    (made : Invocation.made file ⟨flags, sweep.action targets⟩ = .ok client) :
    (∃ ps w' o, call env file time w args = (some o, w') ∧
      InTurn client w (targets.map sweep.operation) ps w' ∧
      ps.map (·.commands) = targets.map (fun target => [client.launcher.command (sweep.passed target)]) ∧
      (w.Calm → (∀ target ∈ targets,
          w.host.obstacle? (client.launcher.command (sweep.passed target)) = none) →
        w'.starts = w.starts
          ++ targets.map (fun target => (client.launcher.command (sweep.passed target)).args) ∧
        ∀ n p, ps[n]? = some p → (w.behaviourAt n).waiting = none →
          Judged client.launcher.program (w.behaviourAt n).naturalEnd (∃ exit, · = .ok exit) p.result) ∧
      Accounted sweep (targets.zip (ps.map (·.result))) o ∧
      (failed (targets.zip (ps.map (·.result)))).length
        + (succeeded (targets.zip (ps.map (·.result)))).length = targets.length) ∨
    ∃ before target after ps v w', call env file time w args = (none, w') ∧
      targets = before ++ target :: after ∧
      HeldUp client w sweep.operation before target ps v w' ∧
      (w.Calm → v.idles (client.launcher.command (sweep.passed target))) ∧
      (w.Calm → (∀ target ∈ targets,
          w.host.obstacle? (client.launcher.command (sweep.passed target)) = none) →
        w'.starts = w.starts ++ (before ++ [target]).map
          (fun target => (client.launcher.command (sweep.passed target)).args) ∧
        (w.behaviourAt before.length).waiting ≠ none) := by
  obtain ⟨x, called⟩ := call_made (w := w) time accepted made
  have spoken : ∀ target, (sweep.operation target).args w.host.cwd = .ok (sweep.passed target) :=
    sweep.args_operation w.host.cwd
  have silent : preface (sweep.action targets) = "" := by cases sweep <;> rfl
  rw [runWith_sweep, silent] at called
  rcases all_inTurn w client sweep.operation targets with ⟨ps, w', turns, all⟩ |
    ⟨before, target, after, ps, v, w', rfl, held, all⟩
  · left
    have commands := turns.commands spoken
    have same : ps.length = targets.length := by
      simpa only [List.length_map] using congrArg List.length commands
    rw [all] at called
    simp only [Option.map_some, Ending.after_empty] at called
    refine ⟨ps, w', _, called, turns, commands, fun calm free => ?_, accounted_ending sweep _, ?_⟩
    · exact ⟨(turns.started calm spoken free).2,
        fun n p some ends => turns.judged calm spoken free some ends⟩
    · rw [length_failed_add, List.length_zip, List.length_map, same, Nat.min_self]
  · right
    rw [all] at called
    have idles (calm : w.Calm) := held.idles calm spoken
    exact ⟨before, target, after, ps, v, w', called, rfl, held, idles,
      fun calm free => held.started calm spoken free⟩

/-- A host with a runtime that succeeds, fails and is killed. -/
def uneven : World where
  host := ⟨"/", ["runc"], []⟩
  behaviours := [{}, { code := 3 }, { otherEnd := some ⟨9⟩ }]

theorem uneven_ends (n : Nat) : (uneven.behaviourAt n).waiting = none := by
  match n with
  | 0 | 1 | 2 | _ + 3 => rfl

/-- One container is paused, then the runtime fails over another, which was named twice. -/
theorem targets_accounted_for_twice :
    ∃ o w', call (fun _ => none) (fun _ => .error .notFound) "" uneven ["pause", "c1", "c2", "c2"]
        = (some o, w') ∧
      w'.starts = [["pause", "c1"], ["pause", "c2"], ["pause", "c2"]] ∧
      o.stdout = Bytes.ofString "c1\n" ∧ o.code = 1 := by
  have accepted : Invocation.ofArgs (fun _ => none) ["pause", "c1", "c2", "c2"]
      = .ok ⟨{}, (Sweep.lifecycle .pause).action ["c1", "c2", "c2"]⟩ := by
    decide +kernel
  have free : ∀ target ∈ ["c1", "c2", "c2"], uneven.host.obstacle?
      (Invocation.usualClient.launcher.command ((Sweep.lifecycle .pause).passed target)) = none := by
    simp [uneven, Host.obstacle?, Command.isPassable, Launcher.command, Invocation.usualClient,
      Sweep.passed, Lifecycle.verb]
  obtain ⟨ps, w', o, called, -, commands, started, accounted, -⟩ |
      ⟨before, _, _, _, _, _, -, -, -, -, waits⟩ :=
    targets_accounted_for (w := uneven) "" accepted (Invocation.made_usual _ _)
  case inr => exact absurd (uneven_ends before.length) (waits ⟨rfl, rfl⟩ free).2
  obtain ⟨starts, judged⟩ := started ⟨rfl, rfl⟩ free
  obtain ⟨p, q, r, rfl⟩ : ∃ p q r, ps = [p, q, r] :=
    List.length_eq_three.mp (by simpa using congrArg List.length commands)
  obtain ⟨exit, first⟩ := (judged 0 p rfl rfl).succeeded (by decide)
  obtain ⟨_, second⟩ := (judged 1 q rfl rfl).failed (by decide)
  obtain ⟨_, third⟩ := (judged 2 r rfl rfl).failed (by decide)
  refine ⟨o, w', called, starts, ?_, ?_⟩
  · rw [accounted.stdout]
    simp [succeeded, first, second, third, lines]
  · rw [accounted.code]
    simp [failed, first, second, third]

end CommandLine

end Overseer
