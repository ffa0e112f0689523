-- SUMMARY: What each step of a supervision does, party by party.
import Overseer.Proofs.Transition
import Overseer.Supervision.Supervisor

/-!
# Moves

One rule for every way in which a supervision can go on. Invariants are proved by cases on the rules
and need not look into the step functions.
-/

namespace Overseer.Supervision

/-- Whether the canceller's next step is a look for the announcement. -/
def Canceller.looks : Canceller → Bool
  | .watching | .timing _ => true
  | _ => false

/-- Whether the canceller has yet to ask for a kill after asking for `s`. -/
def State.continues (s : State) : Prop :=
  s.asked.isEmpty ∧ s.escalation.graceful.isSome ∧ 0 < s.escalation.killTimeout

instance (s : State) : Decidable s.continues := inferInstanceAs (Decidable (_ ∧ _ ∧ _))

/-- The canceller's stage behind a request. -/
def State.afterAsking (s : State) : Canceller := if s.continues then .arming else .stopped

inductive Move (s : State) : Action → State → Prop where
  -- The reaper.
  | waited {outcome : Option WaitStatus} (stage : s.reaper = .waiting)
      (ended : s.child = .ended outcome) :
      Move s .reap { s with
        child := .reaped outcome, reaper := .reporting (Exit.ofOutcome s.pid outcome) }
  | listened (stage : s.reaper = .waiting) (unended : ∀ outcome, s.child ≠ .ended outcome) :
      Move s .reap { s with reaper := .listening }
  | delivered {signal : Signal} {rest : List Signal} (stage : s.reaper = .listening)
      (queued : s.queue = signal :: rest) :
      Move s .reap { s with
        queue := rest, delivered := s.delivered ++ [(signal, s.child)], reaper := .waiting }
  | relooked (stage : s.reaper = .listening) : Move s .reap { s with reaper := .waiting }
  | woken (stage : s.reaper = .listening) : Move s .wakeReaper { s with reaper := .waiting }
  | reported {exit : Exit} (stage : s.reaper = .reporting exit) :
      Move s .reap { s with sent := s.sent ++ [exit], reaper := .announcing }
  | announced (stage : s.reaper = .announcing) :
      Move s .reap { s with done := true, reaper := .closing }
  | closed (stage : s.reaper = .closing) : Move s .reap { s with queue := [], reaper := .finished }
  -- The canceller.
  | sawDone (stage : s.canceller.looks) (done : s.done) :
      Move s .escalate { s with canceller := .stopped }
  | attended (stage : s.canceller = .watching) (quiet : s.done = false) :
      Move s .escalate { s with canceller := .attending }
  | obeyed (stage : s.canceller = .attending) (cancelled : s.cancelled) :
      Move s .escalate { s with canceller := .asking (s.escalation.graceful.getD .kill) }
  | asked {signal : Signal} (stage : s.canceller = .asking signal) (gone : s.reaper = .finished) :
      Move s .escalate { s with
        asked := s.asked ++ [(signal, s.clock)], canceller := s.afterAsking }
  | queued {signal : Signal} (stage : s.canceller = .asking signal)
      (room : s.queue.length < queueDepth) :
      Move s .escalate { s with
        asked := s.asked ++ [(signal, s.clock)], queue := s.queue ++ [signal],
        canceller := s.afterAsking }
  | armed (stage : s.canceller = .arming) :
      Move s .escalate { s with canceller := .timing (s.clock + s.escalation.killTimeout) }
  | expected {deadline : Nat} (stage : s.canceller = .timing deadline) (quiet : s.done = false) :
      Move s .escalate { s with canceller := .expecting deadline }
  | expired {deadline : Nat} (stage : s.canceller = .expecting deadline)
      (passed : deadline ≤ s.clock) : Move s .escalate { s with canceller := .asking .kill }
  | rewatched (stage : s.canceller = .attending) :
      Move s .wakeCanceller { s with canceller := .watching }
  | retimed {deadline : Nat} (stage : s.canceller = .expecting deadline) :
      Move s .wakeCanceller { s with canceller := .timing deadline }
  -- The others.
  | cancelled : Move s .cancel { s with cancelled := true }
  | dropped : Move s .dropReceiver { s with receiverDropped := true }
  | ended {outcome : Option WaitStatus} (running : s.child = .running) :
      Move s (.finish outcome) { s with child := .ended outcome }
  | ticked {milliseconds : Nat} :
      Move s (.tick milliseconds) { s with clock := s.clock + milliseconds }

variable {s t : State} {a : Action}

theorem reap?_move (h : reap? s = some t) : Move s .reap t := by
  unfold reap? at h
  split at h
  next stage =>
    split at h
    next ended => cases h; exact .waited stage ended
    next unended => cases h; exact .listened stage unended
  next stage =>
    split at h
    next queued => cases h; exact .delivered stage queued
    next =>
      split at h
      · cases h
      · cases h; exact .relooked stage
  next stage => cases h; exact .reported stage
  next stage => cases h; exact .announced stage
  next stage => cases h; exact .closed stage
  next => cases h

/-- A request is made unless there is no room for it. -/
theorem escalate?_asking {signal : Signal} (stage : s.canceller = .asking signal) :
    escalate? s =
      if s.reaper = .finished then
        some { s with asked := s.asked ++ [(signal, s.clock)], canceller := s.afterAsking }
      else if s.queue.length < queueDepth then
        some { s with
          asked := s.asked ++ [(signal, s.clock)], queue := s.queue ++ [signal],
          canceller := s.afterAsking }
      else none := by
  simp only [escalate?, stage]
  rfl

theorem escalate?_move (h : escalate? s = some t) : Move s .escalate t := by
  cases stage : s.canceller with
  | watching =>
    simp only [escalate?, stage] at h
    cases h
    split
    next done => exact .sawDone (by rw [stage]; rfl) done
    next quiet => exact .attended stage (Bool.eq_false_iff.mpr quiet)
  | attending =>
    simp only [escalate?, stage] at h
    split at h
    next cancelled => cases h; exact .obeyed stage cancelled
    next => cases h
  | asking signal =>
    rw [escalate?_asking stage] at h
    split at h
    next gone => cases h; exact .asked stage gone
    next =>
      split at h
      next room => cases h; exact .queued stage room
      next => cases h
  | arming =>
    simp only [escalate?, stage] at h
    cases h
    exact .armed stage
  | timing deadline =>
    simp only [escalate?, stage] at h
    cases h
    split
    next done => exact .sawDone (by rw [stage]; rfl) done
    next quiet => exact .expected stage (Bool.eq_false_iff.mpr quiet)
  | expecting deadline =>
    simp only [escalate?, stage] at h
    split at h
    next passed => cases h; exact .expired stage passed
    next => cases h
  | stopped =>
    simp only [escalate?, stage] at h
    cases h

theorem step?_move (h : step? s a = some t) : Move s a t := by
  cases a with
  | reap => exact reap?_move h
  | escalate => exact escalate?_move h
  | wakeReaper =>
    change wakeReaper? s = some t at h
    unfold wakeReaper? at h
    split at h
    next stage => cases h; exact .woken stage
    next => cases h
  | wakeCanceller =>
    change wakeCanceller? s = some t at h
    unfold wakeCanceller? at h
    split at h
    next stage => cases h; exact .rewatched stage
    next stage => cases h; exact .retimed stage
    next => cases h
  | cancel => cases h; exact .cancelled
  | dropReceiver => cases h; exact .dropped
  | finish outcome =>
    simp only [step?] at h
    split at h
    next running => cases h; exact .ended running
    next => cases h
  | tick milliseconds => cases h; exact .ticked

end Overseer.Supervision
