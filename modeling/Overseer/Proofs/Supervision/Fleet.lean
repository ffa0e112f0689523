-- SUMMARY: Many supervisions side by side, some of which share a cancellation token.
import Overseer.Proofs.Supervision.Report

/-!
# Fleets

A monitor may be asked to supervise any number of processes. The supervisions have the clock in common,
and those that were started with the same token are cancelled together; everything else is their own.
So each of them goes through states that it could reach alone (`Tracked`), and what holds of one
supervision holds of all of them.
-/

namespace Overseer.Supervision

/-- A supervision with what its caller knows about it. -/
structure Member where
  /-- The pid that the caller got when the supervision was started. -/
  pid : UInt32
  token : Nat
  state : State

structure Fleet where
  members : List Member := []
  /-- The tokens that are cancelled. -/
  cancelled : List Nat := []

/-- Whether a step of one supervision leaves the others alone. -/
def Action.isOwn : Action → Bool
  | .cancel | .tick _ => false
  | _ => true

namespace Fleet

inductive Action where
  | start (pid : UInt32) (token : Nat) (escalation : Escalation)
  | cancel (token : Nat)
  | tick (milliseconds : Nat)
  /-- A step of one supervision. -/
  | act (index : Nat) (action : Supervision.Action)

/-- The supervision that a start adds. Its token may be cancelled already. -/
def newMember (f : Fleet) (pid : UInt32) (token : Nat) (escalation : Escalation) : Member :=
  { pid, token, state := { Supervision.start pid escalation with cancelled := f.cancelled.contains token } }

def cancelMember (token : Nat) (m : Member) : Member :=
  if m.token = token then { m with state := { m.state with cancelled := true } } else m

def tickMember (milliseconds : Nat) (m : Member) : Member :=
  { m with state := { m.state with clock := m.state.clock + milliseconds } }

def act? (f : Fleet) (index : Nat) (action : Supervision.Action) : Option Fleet :=
  match f.members[index]? with
  | none => none
  | some m =>
    match Supervision.step? m.state action with
    | none => none
    | some state => some { f with members := f.members.set index { m with state } }

def step? (f : Fleet) : Action → Option Fleet
  | .start pid token escalation =>
    some { f with members := f.members ++ [f.newMember pid token escalation] }
  | .cancel token =>
    some { members := f.members.map (cancelMember token), cancelled := token :: f.cancelled }
  | .tick milliseconds => some { f with members := f.members.map (tickMember milliseconds) }
  | .act index action => if action.isOwn then f.act? index action else none

/-- The fleets that a monitor gets to by starting, cancelling and letting things happen. -/
abbrev Reachable (f : Fleet) : Prop := Transition.Reachable step? (· = {}) f

end Fleet

/-! ## Every supervision on its own -/

/-- A supervision has got where it is by steps of its own, from a start with the pid that was
    returned. -/
def Member.Tracked (m : Member) : Prop :=
  Transition.Reachable step? (fun s => ∃ escalation, s = start m.pid escalation) m.state

namespace Fleet

variable {f g : Fleet} {m : Member}

theorem newMember_tracked (f : Fleet) (pid : UInt32) (token : Nat) (escalation : Escalation) :
    (f.newMember pid token escalation).Tracked := by
  have begun : Transition.Reachable Supervision.step?
      (fun s => ∃ escalation, s = start pid escalation) (start pid escalation) :=
    .start ⟨escalation, rfl⟩
  change Transition.Reachable _ _
    { start pid escalation with cancelled := f.cancelled.contains token }
  cases f.cancelled.contains token with
  | false => exact begun
  | true => exact .step (a := .cancel) begun rfl

theorem cancelMember_tracked (token : Nat) (h : m.Tracked) : (cancelMember token m).Tracked := by
  unfold cancelMember
  split
  · exact Transition.Reachable.step (a := .cancel) h rfl
  · exact h

theorem tickMember_tracked (milliseconds : Nat) (h : m.Tracked) :
    (tickMember milliseconds m).Tracked :=
  Transition.Reachable.step (a := .tick milliseconds) h rfl

theorem act?_tracked {index : Nat} {action : Supervision.Action}
    (all : ∀ m ∈ f.members, m.Tracked) (h : f.act? index action = some g) :
    ∀ m ∈ g.members, m.Tracked := by
  unfold act? at h
  split at h
  · cases h
  next m found =>
    split at h
    · cases h
    next state taken =>
      cases h
      intro n mem
      rcases List.mem_or_eq_of_mem_set mem with old | rfl
      · exact all n old
      · exact Transition.Reachable.step (all m (List.mem_of_getElem? found)) taken

theorem step?_tracked {a : Action} (all : ∀ m ∈ f.members, m.Tracked) (h : f.step? a = some g) :
    ∀ m ∈ g.members, m.Tracked := by
  cases a with
  | start pid token escalation =>
    cases h
    intro m mem
    rcases List.mem_append.mp mem with old | new
    · exact all m old
    · rw [List.mem_singleton.mp new]
      exact newMember_tracked f pid token escalation
  | cancel token =>
    cases h
    intro m mem
    obtain ⟨n, old, rfl⟩ := List.mem_map.mp mem
    exact cancelMember_tracked token (all n old)
  | tick milliseconds =>
    cases h
    intro m mem
    obtain ⟨n, old, rfl⟩ := List.mem_map.mp mem
    exact tickMember_tracked milliseconds (all n old)
  | act index action =>
    simp only [step?] at h
    split at h
    · exact act?_tracked all h
    · cases h

theorem Reachable.tracked (h : Reachable f) : ∀ m ∈ f.members, m.Tracked := by
  induction h with
  | start empty =>
    rw [empty]
    exact fun m mem => absurd mem List.not_mem_nil
  | step _ taken ih => exact step?_tracked ih taken

end Fleet

variable {f : Fleet} {m : Member}

theorem Member.Tracked.reported (h : m.Tracked) : Reported m.state := by
  refine Transition.Reachable.invariant h (fun s init => ?_) fun inv taken => inv.step taken
  obtain ⟨escalation, rfl⟩ := init
  exact reported_initial ⟨m.pid, escalation, rfl⟩

theorem Member.Tracked.pid_eq (h : m.Tracked) : m.state.pid = m.pid := by
  refine Transition.Reachable.invariant (P := fun s => s.pid = m.pid) h (fun s init => ?_) ?_
  · obtain ⟨escalation, rfl⟩ := init
    rfl
  · intro s t a same taken
    rw [pid_step taken]
    exact same

/-- Each supervision reports once: after it has waited for its process, before it announces that the
    process is done, with the pid that was returned and the outcome of its own wait. -/
theorem fleet_reports_once (h : f.Reachable) (mem : m ∈ f.members) :
    m.state.sent.length ≤ 1 ∧
      (m.state.sent ≠ [] → m.state.child.isReaped) ∧
      (m.state.done → m.state.sent ≠ []) ∧
      (m.state.reaper = .finished → m.state.sent.length = 1) ∧
      ∀ exit ∈ m.state.sent, ∃ outcome, m.state.child = .reaped outcome ∧ exit.pid = m.pid ∧
        exit.exit = match outcome with
          | some w => ExitStatus.ofWait w
          | none => ⟨255, none⟩ := by
  have tracked := h.tracked m mem
  rcases tracked.reported.sent_cases with ⟨none, quiet, going⟩ | ⟨outcome, reaped, sent⟩
  · rw [none, quiet]
    refine ⟨Nat.zero_le _, absurd rfl, nofun, fun finished => absurd finished going, ?_⟩
    exact fun exit mem => absurd mem List.not_mem_nil
  · rw [sent, reaped]
    refine ⟨Nat.le_refl _, fun _ => rfl, fun _ => nofun, fun _ => rfl, fun exit mem => ?_⟩
    rw [List.mem_singleton.mp mem]
    refine ⟨outcome, rfl, tracked.pid_eq, ?_⟩
    cases outcome with
    | none => rfl
    | some w => rfl

/-- Two processes with one token, which is cancelled between their starts. The first one is killed
    from outside, and nobody waits for its report. -/
theorem fleet_reports_once_killed :
    ∃ (f : Fleet) (m : Member), f.Reachable ∧ m ∈ f.members ∧ f.members.length = 2 ∧
      m.state.receiverDropped ∧ m.state.reaper = .finished ∧ m.state.sent.length = 1 := by
  have run : Transition.replay? Fleet.step? {}
      [.start 7 0 {}, .cancel 0, .start 8 0 {}, .act 0 .escalate, .act 0 .escalate, .act 0 .dropReceiver,
        .act 0 (.finish (some (.signalled 9))), .act 0 .reap, .act 0 .reap, .act 0 .reap, .act 0 .reap]
      = some _ := rfl
  have begun : Fleet.Reachable {} := .start rfl
  have reached := Transition.Reachable.replay begun run
  have reports := fleet_reports_once reached List.mem_cons_self
  exact ⟨_, _, reached, List.mem_cons_self, rfl, rfl, rfl, reports.2.2.2.1 rfl⟩

end Overseer.Supervision
