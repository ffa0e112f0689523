-- SUMMARY: A supervision reports the end of its process once, and only when it has waited for it.
import Overseer.Proofs.Supervision.Moves

/-!
# Reports

How far the reaper has come determines what was reported: nothing before the process is reaped, one
record of its outcome afterwards, and the announcement last.
-/

namespace Overseer.Supervision

variable {s t : State} {a : Action}

/-- The states in which a supervision begins. -/
def Initial (s : State) : Prop := ∃ pid escalation, s = start pid escalation

/-- What has been reported agrees with the reaper's stage. -/
def Reported (s : State) : Prop :=
  match s.reaper with
  | .waiting | .listening => s.child.isReaped = false ∧ s.sent = [] ∧ s.done = false
  | .reporting exit => ∃ outcome, s.child = .reaped outcome ∧ exit = Exit.ofOutcome s.pid outcome ∧
      s.sent = [] ∧ s.done = false
  | .announcing => ∃ outcome, s.child = .reaped outcome ∧ s.sent = [Exit.ofOutcome s.pid outcome] ∧
      s.done = false
  | .closing | .finished => ∃ outcome, s.child = .reaped outcome ∧
      s.sent = [Exit.ofOutcome s.pid outcome] ∧ s.done = true

theorem reported_initial (h : Initial s) : Reported s := by
  obtain ⟨pid, escalation, rfl⟩ := h
  exact ⟨rfl, rfl, rfl⟩

theorem Reported.step (inv : Reported s) (h : step? s a = some t) : Reported t := by
  cases step?_move h with
  | waited stage ended =>
    simp only [Reported, stage] at inv
    exact ⟨_, rfl, rfl, inv.2⟩
  | listened stage _ | delivered stage _ | relooked stage | woken stage =>
    simp only [Reported, stage] at inv
    exact inv
  | reported stage =>
    simp only [Reported, stage] at inv
    obtain ⟨outcome, reaped, rfl, none, quiet⟩ := inv
    exact ⟨outcome, reaped, by rw [none]; rfl, quiet⟩
  | announced stage =>
    simp only [Reported, stage] at inv
    obtain ⟨outcome, reaped, sent, -⟩ := inv
    exact ⟨outcome, reaped, sent, rfl⟩
  | closed stage =>
    simp only [Reported, stage] at inv
    exact inv
  | ended running =>
    -- A reaper that is past waiting has reaped the process, which then cannot be running.
    cases stage : s.reaper <;> simp only [Reported, stage, running] at inv ⊢
    case waiting | listening => exact ⟨rfl, inv.2⟩
    all_goals
      obtain ⟨_, reaped, _⟩ := inv
      cases reaped
  | sawDone | attended | obeyed | asked | queued | armed | expected | expired | rewatched | retimed
  | cancelled | dropped | ticked => exact inv

theorem Reported.of_reachable (h : Transition.Reachable step? Initial s) : Reported s :=
  h.invariant (fun _ => reported_initial) fun inv taken => inv.step taken

theorem Reported.sent_cases (inv : Reported s) :
    s.sent = [] ∧ s.done = false ∧ s.reaper ≠ .finished ∨
      ∃ outcome, s.child = .reaped outcome ∧ s.sent = [Exit.ofOutcome s.pid outcome] := by
  cases stage : s.reaper <;> simp only [Reported, stage] at inv
  case waiting | listening => exact .inl ⟨inv.2.1, inv.2.2, nofun⟩
  case reporting =>
    obtain ⟨_, _, _, none, quiet⟩ := inv
    exact .inl ⟨none, quiet, nofun⟩
  case announcing | closing | finished =>
    obtain ⟨outcome, reaped, sent, _⟩ := inv
    exact .inr ⟨outcome, reaped, sent⟩

/-- The pid is settled from the start. -/
theorem pid_step (h : step? s a = some t) : t.pid = s.pid := by
  cases step?_move h <;> rfl

end Overseer.Supervision
