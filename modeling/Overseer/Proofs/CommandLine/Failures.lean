-- SUMMARY: A runtime that comes to a bad end makes the program fail, but for usage that was answered before and for event streams.
import Overseer.Proofs.CommandLine.Targets
import Overseer.Proofs.Runtime.Usage

/-!
# Failures surface

How a runtime that came to a bad end shows in the outcome of the call that started it, for every command.
Queries and operations, of which there may be one for each of several targets, make the program fail. A
question about usage does so only if standard output holds no event: otherwise the first event is its answer,
and how the runtime ends behind it is not looked at. A stream of events always ends well.
-/

namespace Overseer.CommandLine

open Telemetry (Event Intake)
open World (Calm Exposes)

variable {w w' : World} {client : Client} {n : Nat}

-- ---------------------------------------------------------------------------
-- Queries and operations
-- ---------------------------------------------------------------------------

theorem askAndPrint_exposes {α : Type} {q : Query α} {print : α → String} {e : Ending} (calm : w.Calm)
    (asked : askAndPrint w client q print = (some e, w')) : w.Exposes w' fun _ => e.code ≠ 0 := by
  rw [askAndPrint_eq q print calm] at asked
  obtain ⟨answer, rfl⟩ := Prod.mk.inj asked
  apply Exposes.attempt calm
  intro free bad
  obtain ⟨result, given, judged⟩ := Query.ask?_judged free bad.byItself
  rw [given] at answer
  cases answer
  obtain ⟨text, rfl⟩ := judged.failed bad.badly
  rw [code_ofResult]
  exact resultCode_error _

theorem perform_exposes {wiring : Wiring} {op : Operation} {p : Client.Performance} (calm : w.Calm)
    (performed : w.perform client wiring op = (some p, w')) :
    w.Exposes w' fun _ => ∃ f, p.result = .error f := by
  rw [perform_eq client wiring op calm] at performed
  obtain ⟨comes, world⟩ := Prod.mk.inj performed
  cases spoken : op.args w.host.cwd with
  | error why =>
    rw [spoken] at world
    exact world ▸ Exposes.none calm
  | ok args =>
    rw [spoken] at world
    subst world
    apply Exposes.attempt calm
    intro free bad
    obtain ⟨q, given, judged⟩ :=
      Client.perform?_judged (w.setting wiring) spoken free rfl bad.byItself
    rw [given] at comes
    cases comes
    obtain ⟨text, failed⟩ := judged.failed bad.badly
    exact ⟨_, failed⟩

theorem performAndPrint_exposes {wiring : Wiring} {op : Operation} {e : Ending} (calm : w.Calm)
    (ran : performAndPrint w client wiring op = (some e, w')) : w.Exposes w' fun _ => e.code ≠ 0 := by
  obtain ⟨ending, rfl⟩ := Prod.mk.inj ran
  obtain ⟨p, performed, rfl⟩ := Option.map_eq_some_iff.mp ending
  apply (perform_exposes calm (Prod.ext performed rfl)).mono
  rintro _ ⟨f, failed⟩
  rw [code_performanceEnding, failed]
  exact resultCode_error f

-- ---------------------------------------------------------------------------
-- Several targets
-- ---------------------------------------------------------------------------

/-- Whatever start of a command for several targets came to a bad end, one of the attempts has failed. -/
theorem attempts_expose {op : String → Operation} {targets : List String} {attempts : List Attempt}
    (calm : w.Calm) (all : Attempt.all w client op targets = (some attempts, w')) :
    w.Exposes w' fun _ => ∃ a ∈ attempts, ∃ f, a.result = .error f := by
  induction targets generalizing w attempts with
  | nil =>
    cases all
    exact Exposes.none calm
  | cons target rest ih =>
    cases performed : w.perform client {} (op target) with
    | mk p v =>
      cases p with
      | none =>
        rw [Attempt.all_cons_endless performed] at all
        cases all
      | some p =>
        rw [Attempt.all_cons performed] at all
        obtain ⟨found, rfl⟩ := Prod.mk.inj all
        obtain ⟨others, behind, rfl⟩ := Option.map_eq_some_iff.mp found
        have first := perform_exposes calm performed
        apply Exposes.trans (v := v)
        · apply first.mono
          rintro _ ⟨f, failed⟩
          exact ⟨_, List.mem_cons_self, f, congrArg (Except.map fun _ => ()) failed⟩
        · apply (ih first.calm (Prod.ext behind rfl)).mono
          rintro _ ⟨a, mem, failed⟩
          exact ⟨a, List.mem_cons_of_mem _ mem, failed⟩

theorem code_attempts {complain : String → Failure → String} {summary : List Attempt → String}
    {attempts : List Attempt} {a : Attempt} {f : Failure} (mem : a ∈ attempts)
    (failed : a.result = .error f) : (Attempt.ending complain summary attempts).code ≠ 0 := by
  have failure : a.failure? = some (a.target, f) := by simp only [Attempt.failure?, failed]
  have some : attempts.filterMap Attempt.failure? ≠ [] :=
    List.ne_nil_of_mem (List.mem_filterMap.mpr ⟨a, mem, failure⟩)
  intro zero
  have none := (Ending.code_eq_zero_iff _).mp zero
  simp [Attempt.ending, some] at none

/-- The ending of a command for several targets, whatever it says about them. -/
theorem sweep_exposes {op : String → Operation} {targets : List String} {e : Ending}
    {complain : String → Failure → String} {summary : List Attempt → String} (calm : w.Calm)
    (ending : (Attempt.all w client op targets).1.map (Attempt.ending complain summary) = some e) :
    w.Exposes (Attempt.all w client op targets).2 fun _ => e.code ≠ 0 := by
  obtain ⟨attempts, all, rfl⟩ := Option.map_eq_some_iff.mp ending
  apply (attempts_expose calm (Prod.ext all rfl)).mono
  rintro _ ⟨a, mem, f, failed⟩
  exact code_attempts mem failed

-- ---------------------------------------------------------------------------
-- Usage
-- ---------------------------------------------------------------------------

/-- What the program says of usage whose runtime with behaviour `b` came to a bad end: the first event on
    standard output, or, where there is none, a failure. -/
def Reported (b : Behaviour) (o : Outcome) : Prop :=
  ∃ chunks, chunks.flatten = Write.on .stdout (b.output []) ∧
    ((∃ e rest, Intake.events (Intake.session chunks).1 = e :: rest ∧ o.code = 0 ∧
        o.stdout = .ofString (lines [(e.data.getD {}).encode.prettyText])) ∨
      Intake.events (Intake.session chunks).1 = [] ∧ o.code ≠ 0)

/-- The outcome of a command that prints a text or fails, whatever it has logged. -/
theorem outcome_printing (text : String) (stderr : Bytes) :
    (Outcome.ofEnding { Ending.printing text with stderr }).code = 0 ∧
      (Outcome.ofEnding { Ending.printing text with stderr }).stdout = .ofString text :=
  ⟨rfl, rfl⟩

theorem outcome_failing (f : Failure) (stderr : Bytes) :
    (Outcome.ofEnding { Ending.failing f with stderr }).code ≠ 0 :=
  Nat.ne_of_gt (Problem.code_pos (.failure f))

theorem usage_exposes {x : Context} {id : String} {e : Ending} (calm : w.Calm)
    (ran : runWith x w client (.stats id) = (some e, w')) :
    w.Exposes w' fun b => Reported b (.ofEnding e) := by
  obtain ⟨answer, rfl⟩ := Prod.mk.inj ran
  obtain ⟨result, given, rfl⟩ := Option.map_eq_some_iff.mp answer
  apply Exposes.attempt calm
  intro free bad
  have asked : (Usage.ask? id w.host client.launcher w.behaviour w.cancelTime).1 = some result := given
  rw [calm.cancelTime] at asked
  obtain ⟨chunks, whole, answered⟩ := Usage.ask?_answer free asked
  have ending : (Usage.start client.launcher.program id w.behaviour).ending = some w.behaviour.naturalEnd := by
    simp only [Usage.start, Behaviour.process, bad.byItself]
  refine ⟨chunks, whole, ?_⟩
  rcases Usage.answer?_badly ending bad.badly answered with ⟨e, rest, found, rfl⟩ | ⟨none, rfl⟩
  · exact .inl ⟨e, rest, found, outcome_printing _ _⟩
  · exact .inr ⟨none, outcome_failing _ _⟩

-- ---------------------------------------------------------------------------
-- Streams of events
-- ---------------------------------------------------------------------------

/-- A stream of events that can be started ends well, however its runtime ends. -/
theorem events_end_well (x : Context) (client : Client) (id : String) {interval : Interval} {seconds : Nat}
    (whole : interval.seconds = .ok seconds)
    (free : w.host.obstacle? (client.launcher.command (EventStream.args id seconds)) = none)
    (ends : w.behaviour.waiting = none) :
    ∃ e, watchAndPrint x w client id interval
        = (some e, w.afterStart (client.launcher.command (EventStream.args id seconds))) ∧
      e.code = 0 := by
  simp only [watchAndPrint, World.watch, EventStream.watch?, EventStream.endless, whole, free, ends]
  exact ⟨_, rfl, rfl⟩

theorem watchAndPrint_exposes {x : Context} {id : String} {interval : Interval} {e : Ending}
    (calm : w.Calm) (ran : watchAndPrint x w client id interval = (some e, w')) :
    w.Exposes w' fun _ => e.code = 0 := by
  cases whole : interval.seconds with
  | error why =>
    simp only [watchAndPrint, World.watch, whole] at ran
    obtain ⟨-, rfl⟩ := Prod.mk.inj ran
    exact Exposes.none calm
  | ok seconds =>
    have world : (watchAndPrint x w client id interval).2
        = w.afterStart (client.launcher.command (EventStream.args id seconds)) := by
      simp only [watchAndPrint, World.watch, whole]
    rw [ran] at world
    subst world
    apply Exposes.attempt calm
    intro free bad
    obtain ⟨e', well, zero⟩ := events_end_well x client id whole free bad.byItself
    cases ran.symm.trans well
    exact zero

-- ---------------------------------------------------------------------------
-- Whole calls
-- ---------------------------------------------------------------------------

/-- How the bad end of a runtime with behaviour `b` shows in the outcome of a command. -/
def Shows (b : Behaviour) (o : Outcome) : Action → Prop
  -- The end is logged at most.
  | .events _ _ => o.code = 0
  | .stats _ => Reported b o
  | _ => o.code ≠ 0

theorem runWith_exposes {x : Context} {action : Action} {e : Ending} (calm : w.Calm)
    (ran : runWith x w client action = (some e, w')) :
    w.Exposes w' fun b => Shows b (.ofEnding (e.after (preface action))) action := by
  have code : (Outcome.ofEnding (e.after (preface action))).code = e.code :=
    Ending.code_after (preface action) e
  cases action with
  | state | list | processes | version =>
    apply (askAndPrint_exposes calm ran).mono
    exact fun _ failed zero => failed (code.symm.trans zero)
  | events id interval =>
    apply (watchAndPrint_exposes calm ran).mono
    exact fun _ zero => code.trans zero
  | stats id => exact usage_exposes calm ran
  | kill | run =>
    apply (performAndPrint_exposes calm ran).mono
    exact fun _ failed zero => failed (code.symm.trans zero)
  | delete | lifecycle =>
    obtain ⟨ending, rfl⟩ := Prod.mk.inj ran
    apply (sweep_exposes calm ending).mono
    exact fun _ failed zero => failed (code.symm.trans zero)

/-- A call that nobody interrupts and in which one of the starts, the one with the number `n`, ended by
    itself with a code other than 0 or by a signal. The program does not exit with 0, with two exceptions:
    a question about usage is answered with the first event on standard output, if there is one, and a
    stream of events ends well. -/
theorem failures_surface {env : String → Option String} {file : String → Except SystemError Bytes}
    {time : String} {args : List String} {o : Outcome} (calm : w.Calm)
    (called : call env file time w args = (some o, w'))
    (started : w.starts.length + n < w'.starts.length) (bad : (w.behaviourAt n).EndsBadly) :
    ∃ i, Invocation.ofArgs env args = .ok i ∧ Shows (w.behaviourAt n) o i.action := by
  cases accepted : Invocation.ofArgs env args with
  | error stop =>
    -- A line that is no good starts nothing.
    simp only [call, accepted] at called
    obtain ⟨-, rfl⟩ := Prod.mk.inj called
    omega
  | ok i =>
    refine ⟨i, rfl, ?_⟩
    cases made : i.made file with
    | error f =>
      obtain ⟨o', ending, -⟩ := call_unmade time accepted made
      obtain ⟨-, rfl⟩ := Prod.mk.inj (called.symm.trans ending)
      omega
    | ok client =>
      obtain ⟨x, ending⟩ := call_made time accepted made
      obtain ⟨answer, world⟩ := Prod.mk.inj (ending.symm.trans called)
      obtain ⟨e, given, rfl⟩ := Option.map_eq_some_iff.mp answer
      exact (runWith_exposes calm (Prod.ext given world)).report started bad

/-- A host with a runtime, on which the start after the next one is killed. -/
def beforeKill : World where
  host := ⟨"/", ["runc"], []⟩
  behaviours := [{}, { otherEnd := some ⟨9⟩ }]

theorem beforeKill_ends (n : Nat) : (beforeKill.behaviourAt n).waiting = none := by
  match n with
  | 0 | 1 | _ + 2 => rfl

/-- Three containers are paused, and the runtime is killed over the second. -/
theorem failures_surface_second_target :
    ∃ o w', call (fun _ => none) (fun _ => .error .notFound) "" beforeKill ["pause", "c1", "c2", "c3"]
        = (some o, w') ∧
      w'.starts = [["pause", "c1"], ["pause", "c2"], ["pause", "c3"]] ∧ o.code ≠ 0 := by
  have accepted : Invocation.ofArgs (fun _ => none) ["pause", "c1", "c2", "c3"]
      = .ok ⟨{}, .lifecycle .pause ["c1", "c2", "c3"]⟩ := by
    decide +kernel
  have calm : beforeKill.Calm := ⟨rfl, rfl⟩
  have free : ∀ target ∈ ["c1", "c2", "c3"], beforeKill.host.obstacle?
      (Invocation.usualClient.launcher.command ((Sweep.lifecycle .pause).passed target)) = none := by
    simp [beforeKill, Host.obstacle?, Command.isPassable, Launcher.command, Invocation.usualClient,
      Sweep.passed, Lifecycle.verb]
  have spoken := (Sweep.lifecycle .pause).args_operation beforeKill.host.cwd
  obtain ⟨ps, w', turns, all⟩ := all_ends calm spoken free fun n _ => beforeKill_ends n
  have starts : w'.starts = [["pause", "c1"], ["pause", "c2"], ["pause", "c3"]] :=
    (turns.started calm spoken free).2
  obtain ⟨x, ending⟩ := call_made (w := beforeKill) "" accepted (Invocation.made_usual _ _)
  have ran := runWith_sweep x beforeKill Invocation.usualClient (.lifecycle .pause) ["c1", "c2", "c3"]
  rw [all] at ran
  rw [Sweep.action] at ran
  rw [ran] at ending
  obtain ⟨i, read, shows⟩ := failures_surface (n := 1) calm ending (by rw [starts]; decide) ⟨rfl, by decide⟩
  cases accepted.symm.trans read
  exact ⟨_, _, ending, starts, shows⟩

-- ---------------------------------------------------------------------------
-- Bad ends that nobody sees
-- ---------------------------------------------------------------------------

/-- A question about usage that has found an event is answered. -/
theorem stats_answered (x : Context) (client : Client) (id : String) {stats : Telemetry.Stats}
    (calm : w.Calm) (free : w.host.obstacle? (client.launcher.command (Usage.args id)) = none)
    (found : (Usage.run client.launcher.program id w.behaviour .never).result? = some (.ok stats)) :
    ∃ e, runWith x w client (.stats id)
        = (some e, w.afterStart (client.launcher.command (Usage.args id))) ∧ e.code = 0 := by
  simp only [runWith, World.usage, Usage.ask?, calm.cancelTime, free, found]
  exact ⟨_, rfl, rfl⟩

/-- A host with a runtime, on which the next start prints an event and ends with code 1. -/
def afterEvent : World where
  host := ⟨"/", ["runc"], []⟩
  behaviours := [{
    writes := [⟨.stdout, Bytes.ofString "\x7b\"type\":\"oom\",\"id\":\"c1\"\x7d"⟩]
    code := 1 }]

/-- The first event answers a question about usage although the runtime fails behind it, and a stream of
    events ends well although its runtime does not. -/
theorem bad_end_unseen :
    (afterEvent.behaviourAt 0).EndsBadly ∧
    (∃ o w', call (fun _ => none) (fun _ => .error .notFound) "" afterEvent ["stats", "c1"]
        = (some o, w') ∧ w'.starts = [["events", "--stats", "c1"]] ∧ o.code = 0) ∧
    ∃ o w', call (fun _ => none) (fun _ => .error .notFound) "" afterEvent ["events", "c1"]
        = (some o, w') ∧ w'.starts = [["events", "--interval=5s", "c1"]] ∧ o.code = 0 := by
  have calm : afterEvent.Calm := ⟨rfl, rfl⟩
  refine ⟨⟨rfl, by decide⟩, ?_, ?_⟩
  · have accepted : Invocation.ofArgs (fun _ => none) ["stats", "c1"] = .ok ⟨{}, .stats "c1"⟩ := by
      decide +kernel
    have free : afterEvent.host.obstacle? ⟨"runc", ["events", "--stats", "c1"]⟩ = none := by
      simp [afterEvent, Host.obstacle?, Command.isPassable]
    have found : (Usage.run "runc" "c1" afterEvent.behaviour .never).result? = some (.ok {}) := by
      decide +kernel
    obtain ⟨x, ending⟩ := call_made (w := afterEvent) "" accepted (Invocation.made_usual _ _)
    obtain ⟨e, ran, zero⟩ := stats_answered x Invocation.usualClient "c1" calm free found
    rw [ran] at ending
    exact ⟨_, _, ending, (World.afterStart_free calm free).2, (Ending.code_after _ e).trans zero⟩
  · have accepted : Invocation.ofArgs (fun _ => none) ["events", "c1"] = .ok ⟨{}, .events "c1" 5⟩ := by
      decide +kernel
    have free : afterEvent.host.obstacle? ⟨"runc", ["events", "--interval=5s", "c1"]⟩ = none := by
      simp [afterEvent, Host.obstacle?, Command.isPassable]
    have whole : (Interval.ofSeconds 5).seconds = .ok 5 :=
      Interval.seconds_ofSeconds.mpr ⟨Nat.succ_pos 4, rfl⟩
    obtain ⟨x, ending⟩ := call_made (w := afterEvent) "" accepted (Invocation.made_usual _ _)
    have ends : afterEvent.behaviour.waiting = none := rfl
    obtain ⟨e, watched, zero⟩ := events_end_well x Invocation.usualClient "c1" whole free ends
    have ran : runWith x afterEvent Invocation.usualClient (.events "c1" 5) = _ := watched
    rw [ran] at ending
    exact ⟨_, _, ending, (World.afterStart_free calm free).2, (Ending.code_after _ e).trans zero⟩

end Overseer.CommandLine
