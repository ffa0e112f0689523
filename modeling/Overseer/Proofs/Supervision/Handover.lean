-- SUMMARY: An invocation follows its monitor: one start, the pid before the wait, the reported end unchanged.
import Overseer.Proofs.Supervision.Verdict
import Overseer.Proofs.Transition
import Overseer.Supervision.Handover

/-!
# Handovers

What the caller does is laid down by what the monitor does with the command (`State.course`), and so is
what it returns (`State.outcome`), whenever the monitor reports and whether anybody listens for the pid.
Every step keeps what has been done a beginning of the first (`Kept`), and the second is read off the
last one. A handover has at most eight steps, so it comes to its end as soon as the monitor lets it.
-/

namespace Overseer.Handover

open Monitored (Notice Step)
open Transition (replay? replay?_cons replay?_preserves)

-- ---------------------------------------------------------------------------
-- Circumstances
-- ---------------------------------------------------------------------------

/-- What does not lie with the caller. -/
structure Circumstances where
  /-- Why the streams cannot be connected. -/
  obstacle : Option Failure
  report : Report
  /-- What comes out of the capture. -/
  octets : Bytes

variable {b s t : State} {a : Action} {actions : List Action} {c : Circumstances} {pid : UInt32}

/-- What a monitor answers to the request for a start. -/
def answer : Report → Except Failure UInt32
  | .refused why => .error why
  | .dropped pid | .ended pid _ => .ok pid

/-- The command is started as process `pid`. -/
structure Circumstances.Starts (c : Circumstances) (pid : UInt32) : Prop where
  connected : c.obstacle = none
  started : answer c.report = .ok pid

/-- An action that is as the circumstances have it. -/
def Action.agrees (c : Circumstances) : Action → Prop
  | .connect obstacle => obstacle = c.obstacle
  | .start answered => answered = answer c.report
  | .collect octets => octets = c.octets
  | .report exit => ∃ pid, c.report = .ended pid exit
  | .vanish => ∃ pid, c.report = .dropped pid
  | .tell | .await | .hear | .leave => True

def Action.leaves : Action → Bool
  | .leave => true
  | _ => false

def isStart : Step → Bool
  | .start _ => true
  | _ => false

/-- What the caller does about the pid of the process. -/
def State.news (b : State) (pid : UInt32) : List Step := if b.sender then [.notify pid] else []

/-- All that the caller of an invocation does that begins in `b`. -/
def State.course (b : State) (c : Circumstances) : List Step :=
  match c.obstacle, answer c.report with
  | some _, _ => []
  | none, .error _ => [.start b.command]
  | none, .ok pid => .start b.command :: (b.news pid ++ [.await pid])

/-- What it returns. -/
def State.outcome (b : State) (c : Circumstances) : Except Failure Exit :=
  match c.obstacle, c.report with
  | some why, _ => .error why
  | none, .refused why => .error why
  | none, .dropped pid => .error (Monitored.droppedBy pid)
  | none, .ended _ exit =>
    if exit.exit.status = 0 ∧ exit.exit.signal = none then .ok exit
    else .error (.command b.program exit.exit
      (Bytes.lossyText (if b.wiring.captures then c.octets else [])))

theorem course_of_starts (starts : c.Starts pid) :
    b.course c = .start b.command :: (b.news pid ++ [.await pid]) := by
  simp only [State.course, starts.connected, starts.started]

theorem notify_mem_course (mem : .notify pid ∈ b.course c) : b.sender ∧ c.Starts pid := by
  unfold State.course at mem
  split at mem
  · cases mem
  · simp at mem
  · rename_i connected started
    unfold State.news at mem
    split at mem
    · rename_i asked
      have same := by simpa using mem
      exact ⟨asked, connected, started.trans (congrArg _ same.symm)⟩
    · simp at mem

theorem countP_course (b : State) (c : Circumstances) : (b.course c).countP isStart ≤ 1 := by
  unfold State.course
  split
  · exact Nat.zero_le 1
  · exact Nat.le_refl 1
  · unfold State.news
    split
    · exact Nat.le_refl 1
    · exact Nat.le_refl 1

theorem verdict_eq (s : State) (exit : Exit) (octets : Bytes) :
    s.verdict exit octets =
      if exit.exit.status = 0 ∧ exit.exit.signal = none then .ok exit
      else .error (.command s.program exit.exit
        (Bytes.lossyText (if s.wiring.captures then octets else []))) := by
  have good : exit.exit.success ↔ exit.exit.status = 0 ∧ exit.exit.signal = none := by
    simp [ExitStatus.success]
  cases outcome : exit.exit.success with
  | true => rw [State.verdict, Verdict.ofExit, Verdict.ofStatus_good outcome, if_pos (good.mp outcome)]
  | false =>
    have bad : ¬ (exit.exit.status = 0 ∧ exit.exit.signal = none) :=
      fun well => Bool.eq_false_iff.mp outcome (good.mpr well)
    rw [State.verdict, Verdict.ofExit, Verdict.ofStatus_bad outcome, if_neg bad]

-- ---------------------------------------------------------------------------
-- Steps
-- ---------------------------------------------------------------------------

/-- All that a step can do. -/
inductive Move (s : State) : Action → State → Prop where
  -- The caller.
  | connected (stage : s.stage = .connecting) : Move s (.connect none) { s with stage := .starting }
  | unconnected {why : Failure} (stage : s.stage = .connecting) :
      Move s (.connect (some why)) (s.finish (.error why))
  | started {pid : UInt32} (stage : s.stage = .starting) :
      Move s (.start (.ok pid))
        { s.note (.start s.command) with stage := .telling pid, slot := .pending }
  | refused {why : Failure} (stage : s.stage = .starting) :
      Move s (.start (.error why)) ((s.note (.start s.command)).finish (.error why))
  | told {pid : UInt32} (stage : s.stage = .telling pid) (asked : s.sender) :
      Move s .tell { s.note (.notify pid) with
        stage := .calling pid, sender := false, notified := if s.listening then some pid else none }
  | untold {pid : UInt32} (stage : s.stage = .telling pid) (unasked : s.sender = false) :
      Move s .tell { s with stage := .calling pid }
  | called {pid : UInt32} (stage : s.stage = .calling pid) :
      Move s .await { s.note (.await pid) with stage := .waiting pid }
  | heard {pid : UInt32} {exit : Exit} (stage : s.stage = .waiting pid) (slot : s.slot = .reported exit) :
      Move s .hear { s with stage := .collecting exit }
  | lost {pid : UInt32} (stage : s.stage = .waiting pid) (slot : s.slot = .dropped) :
      Move s .hear (s.finish (.error (Monitored.droppedBy pid)))
  | judged {exit : Exit} {octets : Bytes} (stage : s.stage = .collecting exit) :
      Move s (.collect octets) (s.finish (s.verdict exit octets))
  -- The monitor.
  | reported {exit : Exit} (slot : s.slot = .pending) :
      Move s (.report exit) { s with slot := .reported exit }
  | vanished (slot : s.slot = .pending) : Move s .vanish { s with slot := .dropped }
  -- Whoever wants the pid.
  | left (listening : s.listening) : Move s .leave { s with listening := false }

theorem step?_move (h : step? s a = some t) : Move s a t := by
  cases a with
  | connect =>
    simp only [step?] at h
    split at h
    · rename_i stage
      cases h
      exact .connected stage
    · rename_i stage
      cases h
      exact .unconnected stage
    · cases h
  | start =>
    simp only [step?] at h
    split at h
    · rename_i stage
      cases h
      exact .started stage
    · rename_i stage
      cases h
      exact .refused stage
    · cases h
  | tell =>
    simp only [step?] at h
    split at h
    · rename_i stage
      cases h
      unfold State.tell
      split
      · rename_i asked
        exact .told stage asked
      · rename_i unasked
        exact .untold stage (Bool.eq_false_iff.mpr unasked)
    · cases h
  | await =>
    simp only [step?] at h
    split at h
    · rename_i stage
      cases h
      exact .called stage
    · cases h
  | hear =>
    simp only [step?] at h
    split at h
    · rename_i stage slot
      cases h
      exact .heard stage slot
    · rename_i stage slot
      cases h
      exact .lost stage slot
    · cases h
  | collect =>
    simp only [step?] at h
    split at h
    · rename_i stage
      cases h
      exact .judged stage
    · cases h
  | report =>
    obtain ⟨slot, ⟨⟩⟩ := Option.ite_none_right_eq_some.mp h
    exact .reported slot
  | vanish =>
    obtain ⟨slot, ⟨⟩⟩ := Option.ite_none_right_eq_some.mp h
    exact .vanished slot
  | leave =>
    obtain ⟨listening, ⟨⟩⟩ := Option.ite_none_right_eq_some.mp h
    exact .left listening

-- ---------------------------------------------------------------------------
-- What every step keeps
-- ---------------------------------------------------------------------------

/-- The states in which an invocation begins. -/
def Initial (b : State) : Prop :=
  ∃ program command wiring sender listening, b = { program, command, wiring, sender, listening }

/-- Whether a process has been started whose end the caller does not know yet. -/
def Stage.isUnderway : Stage → Bool
  | .telling _ | .calling _ | .waiting _ => true
  | _ => false

/-- How far the caller has come, by its stage. -/
def State.Place (b : State) (c : Circumstances) (s : State) : Prop :=
  match s.stage with
  | .connecting => s.steps = [] ∧ s.sender = b.sender
  | .starting => c.obstacle = none ∧ s.steps = [] ∧ s.sender = b.sender
  | .telling pid => c.Starts pid ∧ s.steps = [.start b.command] ∧ s.sender = b.sender
  | .calling pid => c.Starts pid ∧ s.steps = .start b.command :: b.news pid ∧ s.sender = false
  | .waiting pid => c.Starts pid ∧ s.steps = b.course c ∧ s.sender = false
  | .collecting exit =>
    c.obstacle = none ∧ (∃ pid, c.report = .ended pid exit) ∧ s.steps = b.course c ∧ s.sender = false
  | .finished result => result = b.outcome c ∧ s.steps = b.course c ∧ s.sender = false

/-- What holds of an invocation that began in `b`. -/
structure Kept (b : State) (c : Circumstances) (s : State) : Prop where
  program : s.program = b.program
  command : s.command = b.command
  wiring : s.wiring = b.wiring
  place : b.Place c s
  made : s.stage.isUnderway → s.slot ≠ .unmade
  reported : ∀ exit, s.slot = .reported exit → ∃ pid, c.report = .ended pid exit
  dropped : s.slot = .dropped → ∃ pid, c.report = .dropped pid
  listening : s.listening → b.listening
  /-- A pid has arrived only if it was passed on to somebody who listened. -/
  arrived : ∀ pid, s.notified = some pid → .notify pid ∈ s.steps ∧ b.listening
  /-- Whoever still listens was listening when it was passed on. -/
  passed : ∀ pid, .notify pid ∈ s.steps → s.listening → s.notified = some pid

theorem kept_initial (h : Initial b) (c : Circumstances) : Kept b c b := by
  obtain ⟨program, command, wiring, sender, listening, rfl⟩ := h
  exact ⟨rfl, rfl, rfl, ⟨rfl, rfl⟩, nofun, nofun, nofun, id, nofun, nofun⟩

theorem Kept.place_step (inv : Kept b c s) (agrees : a.agrees c) (move : Move s a t) :
    b.Place c t := by
  have place := inv.place
  cases move with
  | connected stage =>
    simp only [State.Place, stage] at place
    exact ⟨agrees.symm, place⟩
  | unconnected stage =>
    simp only [State.Place, stage] at place
    have obstacle := agrees.symm
    refine ⟨?_, ?_, rfl⟩
    · simp only [State.outcome, obstacle]
    · simp only [State.course, obstacle]
      exact place.1
  | started stage =>
    simp only [State.Place, stage] at place
    obtain ⟨connected, none, sender⟩ := place
    refine ⟨⟨connected, agrees.symm⟩, ?_, sender⟩
    change s.steps ++ [.start s.command] = _
    rw [none, inv.command]
    rfl
  | refused stage =>
    simp only [State.Place, stage] at place
    obtain ⟨connected, none, -⟩ := place
    have refused := agrees.symm
    refine ⟨?_, ?_, rfl⟩
    · unfold answer at refused
      split at refused
      · rename_i report
        cases refused
        simp only [State.outcome, connected, report]
      · cases refused
      · cases refused
    · change s.steps ++ [.start s.command] = _
      simp only [State.course, connected, refused, none, inv.command, List.nil_append]
  | told stage asked =>
    simp only [State.Place, stage] at place
    obtain ⟨starts, begun, sender⟩ := place
    refine ⟨starts, ?_, rfl⟩
    change s.steps ++ [.notify _] = _
    rw [begun, State.news, if_pos (sender ▸ asked)]
    rfl
  | untold stage unasked =>
    simp only [State.Place, stage] at place
    obtain ⟨starts, begun, sender⟩ := place
    refine ⟨starts, ?_, unasked⟩
    change s.steps = _
    rw [begun, State.news, if_neg (sender ▸ Bool.eq_false_iff.mp unasked)]
  | called stage =>
    simp only [State.Place, stage] at place
    obtain ⟨starts, told, silent⟩ := place
    refine ⟨starts, ?_, silent⟩
    change s.steps ++ [.await _] = _
    rw [told, course_of_starts starts]
    rfl
  | heard stage slot =>
    simp only [State.Place, stage] at place
    exact ⟨place.1.connected, inv.reported _ slot, place.2⟩
  | lost stage slot =>
    simp only [State.Place, stage] at place
    obtain ⟨starts, course, -⟩ := place
    obtain ⟨other, report⟩ := inv.dropped slot
    have same := starts.started
    rw [report] at same
    cases same
    refine ⟨?_, course, rfl⟩
    simp only [State.outcome, starts.connected, report]
  | judged stage =>
    simp only [State.Place, stage] at place
    obtain ⟨connected, ⟨pid, report⟩, course, -⟩ := place
    cases (agrees : _ = c.octets)
    refine ⟨?_, course, rfl⟩
    rw [verdict_eq, inv.program, inv.wiring]
    simp only [State.outcome, connected, report]
  | reported | vanished | left => exact place

theorem Kept.slot_step (inv : Kept b c s) (agrees : a.agrees c) (move : Move s a t) :
    (t.stage.isUnderway → t.slot ≠ .unmade) ∧
    (∀ exit, t.slot = .reported exit → ∃ pid, c.report = .ended pid exit) ∧
    (t.slot = .dropped → ∃ pid, c.report = .dropped pid) := by
  cases move with
  | connected | unconnected | refused | heard | lost | judged => exact ⟨nofun, inv.reported, inv.dropped⟩
  | started => exact ⟨fun _ => nofun, nofun, nofun⟩
  | told stage | untold stage | called stage =>
    have underway : s.stage.isUnderway := by
      rw [stage]
      rfl
    exact ⟨fun _ => inv.made underway, inv.reported, inv.dropped⟩
  | reported =>
    refine ⟨fun _ => nofun, ?_, nofun⟩
    rintro exit ⟨⟩
    exact agrees
  | vanished => exact ⟨fun _ => nofun, nofun, fun _ => agrees⟩
  | left => exact ⟨inv.made, inv.reported, inv.dropped⟩

theorem Kept.news_step (inv : Kept b c s) (move : Move s a t) :
    (t.listening → b.listening) ∧
    (∀ pid, t.notified = some pid → .notify pid ∈ t.steps ∧ b.listening) ∧
    (∀ pid, .notify pid ∈ t.steps → t.listening → t.notified = some pid) := by
  cases move with
  | connected | unconnected | untold | heard | lost | judged | reported | vanished =>
    exact ⟨inv.listening, inv.arrived, inv.passed⟩
  | started | refused | called =>
    refine ⟨inv.listening, fun pid told => ?_, fun pid told => ?_⟩
    · exact ⟨List.mem_append_left _ (inv.arrived pid told).1, (inv.arrived pid told).2⟩
    · refine inv.passed pid ?_
      rcases List.mem_append.mp told with before | now
      · exact before
      · cases List.mem_singleton.mp now
  | told stage =>
    have place := inv.place
    simp only [State.Place, stage] at place
    refine ⟨inv.listening, fun pid told => ?_, fun pid told listening => ?_⟩
    · obtain ⟨listening, ⟨⟩⟩ := Option.ite_none_right_eq_some.mp told
      exact ⟨List.mem_append_right _ (List.mem_singleton_self _), inv.listening listening⟩
    · refine (if_pos listening).trans ?_
      rcases List.mem_append.mp told with before | now
      · rw [place.2.1] at before
        cases List.mem_singleton.mp before
      · cases List.mem_singleton.mp now
        rfl
  | left => exact ⟨nofun, inv.arrived, nofun⟩

theorem Kept.step (inv : Kept b c s) (agrees : a.agrees c) (h : step? s a = some t) : Kept b c t := by
  have move := step?_move h
  obtain ⟨made, reported, dropped⟩ := inv.slot_step agrees move
  obtain ⟨listening, arrived, passed⟩ := inv.news_step move
  have place := inv.place_step agrees move
  have same : t.program = s.program ∧ t.command = s.command ∧ t.wiring = s.wiring := by
    cases move <;> exact ⟨rfl, rfl, rfl⟩
  exact ⟨same.1.trans inv.program, same.2.1.trans inv.command, same.2.2.trans inv.wiring, place, made,
    reported, dropped, listening, arrived, passed⟩

theorem Kept.of_replay (init : Initial b) (agrees : ∀ a ∈ actions, a.agrees c)
    (run : replay? step? b actions = some t) : Kept b c t :=
  replay?_preserves run (kept_initial init c) fun mem inv taken => inv.step (agrees _ mem) taken

theorem Kept.steps_prefix (inv : Kept b c s) : s.steps <+: b.course c := by
  have place := inv.place
  unfold State.Place at place
  split at place
  · rw [place.1]
    exact List.nil_prefix
  · rw [place.2.1]
    exact List.nil_prefix
  · rw [place.2.1, course_of_starts place.1]
    exact ⟨_, rfl⟩
  · rw [place.2.1, course_of_starts place.1]
    exact ⟨_, rfl⟩
  · exact place.2.1 ▸ List.prefix_rfl
  · exact place.2.2.1 ▸ List.prefix_rfl
  · exact place.2.1 ▸ List.prefix_rfl

/-- A pid that has arrived is the one that the monitor answered, and it was asked for. -/
theorem Kept.starts_of_notified (inv : Kept b c s) (notified : s.notified = some pid) :
    b.sender ∧ c.Starts pid :=
  notify_mem_course (inv.steps_prefix.mem (inv.arrived pid notified).1)

theorem Kept.finished (inv : Kept b c s) {result : Except Failure Exit}
    (stage : s.stage = .finished result) :
    result = b.outcome c ∧ s.steps = b.course c ∧ s.sender = false := by
  have place := inv.place
  simp only [State.Place, stage] at place
  exact place

-- ---------------------------------------------------------------------------
-- The whole course
-- ---------------------------------------------------------------------------

/-- Whether the pid was asked for and has arrived, as it turns out. -/
def State.notice (b s : State) : Notice :=
  if b.sender then if s.notified.isSome then .awaited else .abandoned else .unwanted

theorem Kept.attend_eq (inv : Kept b c s) (starts : c.Starts pid) {result : Except Failure Exit}
    (steps : s.steps = b.course c) :
    Monitored.attend pid (b.notice s) (.start b.command) result = ⟨s.steps, s.notified, result⟩ := by
  rw [steps, course_of_starts starts]
  unfold Monitored.attend State.notice State.news
  cases notified : s.notified with
  | none => cases b.sender <;> rfl
  | some other =>
    obtain ⟨asked, same⟩ := inv.starts_of_notified notified
    cases starts.started.symm.trans same.started
    rw [asked]
    rfl

/-- A handover whose streams were connected is the invocation as a whole. -/
theorem Kept.run_eq (inv : Kept b c s) {result : Except Failure Exit}
    (stage : s.stage = .finished result) (connected : c.obstacle = none) {monitor : Monitor}
    (reports : monitor b.command = c.report) :
    Monitored.run monitor b.program b.command b.wiring (b.notice s) c.octets =
      ⟨s.steps, s.notified, result⟩ := by
  obtain ⟨rfl, steps, -⟩ := inv.finished stage
  unfold Monitored.run
  cases report : c.report with
  | refused why =>
    have refused : answer c.report = .error why := congrArg answer report
    have silent : s.notified = none := by
      cases notified : s.notified with
      | none => rfl
      | some pid => cases refused.symm.trans (inv.starts_of_notified notified).2.started
    simp only [reports, report, steps, silent, State.course, State.outcome, connected, answer]
  | dropped pid =>
    have starts : c.Starts pid := ⟨connected, congrArg answer report⟩
    simp only [reports, report, inv.attend_eq starts steps, State.outcome, connected]
  | ended pid exit =>
    have starts : c.Starts pid := ⟨connected, congrArg answer report⟩
    simp only [reports, report, inv.attend_eq starts steps, State.outcome, connected]
    exact congrArg _ (verdict_eq b exit c.octets)

-- ---------------------------------------------------------------------------
-- Listeners
-- ---------------------------------------------------------------------------

/-- The invocation with a listener that stays. -/
def State.attended (s : State) (notified : Option UInt32) : State :=
  { s with listening := true, notified }

@[simp] theorem attended_stage (s : State) (notified : Option UInt32) :
    (s.attended notified).stage = s.stage := rfl

@[simp] theorem attended_slot (s : State) (notified : Option UInt32) :
    (s.attended notified).slot = s.slot := rfl

/-- What is possible while somebody may leave is possible with a listener that stays. -/
theorem attended_step (stays : a.leaves = false) (h : step? s a = some t) (notified : Option UInt32) :
    ∃ arrived, step? (s.attended notified) a = some (t.attended arrived) := by
  cases step?_move h with
  | @told pid stage asked =>
    have told : (s.attended notified).tell pid = _ := if_pos asked
    refine ⟨some pid, ?_⟩
    simp only [step?, attended_stage, stage, told]
    rfl
  | @untold pid stage unasked =>
    have untold : (s.attended notified).tell pid = _ := if_neg (Bool.eq_false_iff.mp unasked)
    refine ⟨notified, ?_⟩
    simp only [step?, attended_stage, stage, untold]
    rfl
  | heard stage slot | lost stage slot =>
    refine ⟨notified, ?_⟩
    unfold step?
    rewrite [attended_stage, stage, attended_slot, slot]
    rfl
  | connected stage | unconnected stage | started stage | refused stage | called stage | judged stage =>
    refine ⟨notified, ?_⟩
    unfold step?
    rewrite [attended_stage, stage]
    rfl
  | reported slot | vanished slot => exact ⟨notified, if_pos slot⟩
  | left => cases stays

theorem attended_replay (run : replay? step? s actions = some t) (notified : Option UInt32) :
    ∃ arrived, replay? step? (s.attended notified) (actions.filter (!·.leaves)) =
      some (t.attended arrived) := by
  induction actions generalizing s notified with
  | nil =>
    cases run
    exact ⟨notified, rfl⟩
  | cons a actions ih =>
    obtain ⟨m, first, later⟩ := replay?_cons.mp run
    cases leaves : a.leaves with
    | true =>
      rw [List.filter_cons_of_neg (by simp [leaves])]
      cases step?_move first with
      | left => exact ih later notified
      | _ => cases leaves
    | false =>
      rw [List.filter_cons_of_pos (by simp [leaves])]
      obtain ⟨between, taken⟩ := attended_step leaves first notified
      obtain ⟨arrived, rest⟩ := ih later between
      exact ⟨arrived, replay?_cons.mpr ⟨_, taken, rest⟩⟩

theorem listening_step (stays : a.leaves = false) (h : step? s a = some t) :
    t.listening = s.listening := by
  cases step?_move h with
  | left => cases stays
  | _ => rfl

-- ---------------------------------------------------------------------------
-- The end
-- ---------------------------------------------------------------------------

/-- How many steps the caller has still to take at most, and the monitor on account of a start to come. -/
def Stage.debt : Stage → Nat
  | .connecting => 7
  | .starting => 6
  | .telling _ => 4
  | .calling _ => 3
  | .waiting _ => 2
  | .collecting _ => 1
  | .finished _ => 0

/-- How many steps are still to be taken, at most. -/
def State.debt (s : State) : Nat :=
  s.stage.debt + (if s.slot = .pending then 1 else 0) + s.listening.toNat

theorem debt_lt_of_stage (less : t.stage.debt < s.stage.debt) (slot : t.slot = s.slot)
    (listening : t.listening = s.listening) : t.debt < s.debt := by
  unfold State.debt
  rw [slot, listening]
  omega

theorem debt_step (h : step? s a = some t) : t.debt < s.debt := by
  cases step?_move h with
  | connected stage | unconnected stage | refused stage | told stage | untold stage | called stage
  | heard stage | lost stage | judged stage =>
    exact debt_lt_of_stage (by simp [stage, Stage.debt, State.finish]) rfl rfl
  | started stage =>
    change 4 + 1 + s.listening.toNat < s.debt
    simp only [State.debt, stage, Stage.debt]
    omega
  | reported slot | vanished slot => simp [State.debt, slot]
  | left listening => simp [State.debt, listening]

theorem length_add_debt_le (run : replay? step? s actions = some t) :
    actions.length + t.debt ≤ s.debt := by
  induction actions generalizing s with
  | nil =>
    cases run
    exact Nat.le_of_eq (Nat.zero_add _)
  | cons a actions ih =>
    obtain ⟨m, first, later⟩ := replay?_cons.mp run
    have less := debt_step first
    have rest := ih later
    rw [List.length_cons]
    omega

/-- As long as the caller has not returned, somebody can act. -/
theorem Kept.gets_on (inv : Kept b c s) :
    (∃ result, s.stage = .finished result) ∨
      ∃ a t, a.agrees c ∧ a.leaves = false ∧ step? s a = some t := by
  have place := inv.place
  cases stage : s.stage with
  | connecting =>
    cases obstacle : c.obstacle with
    | none => exact .inr ⟨.connect none, _, obstacle.symm, rfl, by simp only [step?, stage]; rfl⟩
    | some why => exact .inr ⟨.connect (some why), _, obstacle.symm, rfl, by simp only [step?, stage]; rfl⟩
  | starting =>
    cases answered : answer c.report with
    | error why => exact .inr ⟨.start (.error why), _, answered.symm, rfl, by simp only [step?, stage]; rfl⟩
    | ok pid => exact .inr ⟨.start (.ok pid), _, answered.symm, rfl, by simp only [step?, stage]; rfl⟩
  | telling => exact .inr ⟨.tell, _, trivial, rfl, by simp only [step?, stage]; rfl⟩
  | calling => exact .inr ⟨.await, _, trivial, rfl, by simp only [step?, stage]; rfl⟩
  | waiting =>
    simp only [State.Place, stage] at place
    cases slot : s.slot with
    | unmade =>
      have underway : s.stage.isUnderway := by
        rw [stage]
        rfl
      exact absurd slot (inv.made underway)
    | pending =>
      have started := place.1.started
      cases report : c.report with
      | refused =>
        rw [report] at started
        cases started
      | dropped pid => exact .inr ⟨.vanish, _, ⟨pid, report⟩, rfl, if_pos slot⟩
      | ended pid exit => exact .inr ⟨.report exit, _, ⟨pid, report⟩, rfl, if_pos slot⟩
    | reported => exact .inr ⟨.hear, _, trivial, rfl, by simp only [step?, stage, slot]; rfl⟩
    | dropped => exact .inr ⟨.hear, _, trivial, rfl, by simp only [step?, stage, slot]; rfl⟩
  | collecting => exact .inr ⟨.collect c.octets, _, rfl, rfl, by simp only [step?, stage]; rfl⟩
  | finished result => exact .inl ⟨result, rfl⟩

/-- Without anybody's leaving, the caller comes to return. -/
theorem Kept.completes {s : State} (inv : Kept b c s) :
    ∃ later t result, (∀ a ∈ later, a.agrees c ∧ a.leaves = false) ∧
      replay? step? s later = some t ∧ t.stage = .finished result := by
  rcases inv.gets_on with ⟨result, stage⟩ | ⟨a, m, agrees, stays, taken⟩
  · exact ⟨[], s, result, nofun, rfl, stage⟩
  · have less := debt_step taken
    obtain ⟨later, t, result, all, run, stage⟩ := (inv.step agrees taken).completes
    exact ⟨a :: later, t, result, List.forall_mem_cons.mpr ⟨⟨agrees, stays⟩, all⟩,
      replay?_cons.mpr ⟨m, taken, run⟩, stage⟩
termination_by s.debt

theorem listening_replay (stays : ∀ a ∈ actions, a.leaves = false)
    (run : replay? step? s actions = some t) : t.listening = s.listening :=
  replay?_preserves (P := fun u => u.listening = s.listening) run rfl
    fun mem same taken => (listening_step (stays _ mem) taken).trans same

theorem Kept.notice_eq (inv : Kept b c s) (starts : c.Starts pid) (steps : s.steps = b.course c)
    (asked : b.sender) (stays : s.listening = b.listening) :
    b.notice s = if b.listening then .awaited else .abandoned := by
  unfold State.notice
  rw [if_pos asked]
  cases listening : b.listening with
  | true =>
    have told : .notify pid ∈ s.steps := by
      rw [steps, course_of_starts starts, State.news, if_pos asked]
      exact List.mem_cons_of_mem _ List.mem_cons_self
    rw [inv.passed pid told (stays.trans listening)]
    rfl
  | false =>
    cases notified : s.notified with
    | none => rfl
    | some other => exact absurd (listening.symm.trans (inv.arrived other notified).2) nofun

/-- Every invocation is a handover that has come to its end. -/
theorem exists_handover (monitor : Monitor) (program : String) (command : Command) (wiring : Wiring)
    (notice : Notice) (octets : Bytes) :
    ∃ b actions t result, Initial b ∧ replay? step? b actions = some t ∧ t.stage = .finished result ∧
      Monitored.run monitor program command wiring notice octets = ⟨t.steps, t.notified, result⟩ := by
  let b : State := { program, command, wiring, sender := notice ≠ .unwanted, listening := notice = .awaited }
  let c : Circumstances := ⟨none, monitor command, octets⟩
  have init : Initial b := ⟨_, _, _, _, _, rfl⟩
  obtain ⟨actions, t, result, all, run, stage⟩ := (kept_initial init c).completes
  have inv := Kept.of_replay init (fun a mem => (all a mem).1) run
  have stays := listening_replay (fun a mem => (all a mem).2) run
  have same {pid : UInt32} (started : answer (monitor command) = .ok pid) : b.notice t = notice := by
    cases notice with
    | unwanted => rfl
    | awaited | abandoned =>
      exact inv.notice_eq ⟨rfl, started⟩ (inv.finished stage).2.1 rfl stays
  refine ⟨b, actions, t, result, init, run, stage, ?_⟩
  rw [← inv.run_eq stage rfl rfl]
  unfold Monitored.run
  cases report : monitor command with
  | refused why => rfl
  | dropped pid | ended pid exit => rw [same (congrArg answer report)]

/-- A handover in given circumstances has at most one start, and what the caller does is a beginning of
    what they lay down: nothing if the streams cannot be connected, a start that is refused, or a start,
    the pid to whoever asked for it, and then the wait. The pid arrives only where somebody listens, and
    there it does. In the end the caller returns what its circumstances lay down and has given up the means
    to pass a pid on; that is `Monitored.run`. That somebody stopped listening changes nothing but what has
    arrived. It is over after eight steps, and up to then it goes on. -/
theorem follows_monitor (init : Initial b) (agrees : ∀ a ∈ actions, a.agrees c)
    (run : replay? step? b actions = some t) :
    t.steps <+: b.course c ∧ t.steps.countP isStart ≤ 1 ∧
    (∀ pid, t.notified = some pid →
      .notify pid ∈ t.steps ∧ b.sender ∧ b.listening ∧ answer c.report = .ok pid) ∧
    (b.listening → (∀ a ∈ actions, a.leaves = false) →
      ∀ pid, .notify pid ∈ t.steps → t.notified = some pid) ∧
    (∀ result, t.stage = .finished result →
      result = b.outcome c ∧ t.steps = b.course c ∧ t.sender = false ∧
      (c.obstacle = none → ∀ monitor : Monitor, monitor b.command = c.report →
        Monitored.run monitor b.program b.command b.wiring (b.notice t) c.octets =
          ⟨t.steps, t.notified, result⟩)) ∧
    (∃ arrived, replay? step? (b.attended none) (actions.filter (!·.leaves)) =
      some (t.attended arrived)) ∧
    actions.length ≤ 8 ∧
    (∃ later u result, (∀ a ∈ later, a.agrees c ∧ a.leaves = false) ∧
      replay? step? t later = some u ∧ u.stage = .finished result) := by
  have inv := Kept.of_replay init agrees run
  have few : b.debt ≤ 8 := by
    obtain ⟨program, command, wiring, sender, listening, rfl⟩ := init
    cases listening with
    | false => exact Nat.le_succ 7
    | true => exact Nat.le_refl 8
  refine ⟨inv.steps_prefix, ?_, ?_, ?_, ?_, attended_replay run none, ?_, inv.completes⟩
  · exact Nat.le_trans inv.steps_prefix.sublist.countP_le (countP_course b c)
  · intro pid notified
    obtain ⟨told, listening⟩ := inv.arrived pid notified
    obtain ⟨asked, starts⟩ := inv.starts_of_notified notified
    exact ⟨told, asked, listening, starts.started⟩
  · intro listening stay pid told
    exact inv.passed pid told ((listening_replay stay run).trans listening)
  · intro result stage
    obtain ⟨outcome, steps, given⟩ := inv.finished stage
    exact ⟨outcome, steps, given, fun connected monitor reports => inv.run_eq stage connected reports⟩
  · have all := length_add_debt_le run
    omega

/-- The monitor reports a killed process before its pid is passed on to somebody who has just left. -/
theorem follows_monitor_early_report :
    ∃ t, replay? step?
        { program := "crun", command := ⟨"crun", ["start", "c"]⟩, wiring := {}, sender := true,
          listening := true }
        [.connect none, .start (.ok 7), .report ⟨8, ⟨137, some .kill⟩⟩, .leave, .tell, .await, .hear,
          .collect [0x78]] = some t ∧
      t.steps = [.start ⟨"crun", ["start", "c"]⟩, .notify 7, .await 7] ∧ t.notified = none ∧
      ∀ result, t.stage = .finished result →
        result = .error (.command "crun" ⟨137, some .kill⟩ (Bytes.lossyText [0x78])) := by
  let b : State := { program := "crun", command := ⟨"crun", ["start", "c"]⟩, wiring := {}, sender := true,
                     listening := true }
  have run : replay? step? b
      [.connect none, .start (.ok 7), .report ⟨8, ⟨137, some .kill⟩⟩, .leave, .tell, .await, .hear,
        .collect [0x78]] = some _ := rfl
  let c : Circumstances := ⟨none, .ended 7 ⟨8, ⟨137, some .kill⟩⟩, [0x78]⟩
  have agrees : ∀ a ∈ [Action.connect none, .start (.ok 7), .report ⟨8, ⟨137, some .kill⟩⟩, .leave, .tell,
      .await, .hear, .collect [0x78]], a.agrees c := by
    simp [Action.agrees, c, answer]
  have ends := (follows_monitor ⟨_, _, _, _, _, rfl⟩ agrees run).2.2.2.2.1
  exact ⟨_, run, rfl, rfl, fun result stage => (ends result stage).1⟩

end Overseer.Handover
