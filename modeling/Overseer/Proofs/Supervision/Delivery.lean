-- SUMMARY: Signals are delivered only to a process that was not waited for.
import Overseer.Proofs.Supervision.Report

/-!
# Deliveries

Once a process has been waited for, its pid may belong to another one. The reaper delivers signals only
from a stage in which it has not waited for the process, and never returns to that stage; a signal that
is still queued then, or asked for later, goes nowhere.
-/

namespace Overseer.Supervision

variable {s t m : State} {a : Action}

theorem delivered_step (h : step? s a = some t) :
    t.delivered = s.delivered ∨
      s.reaper = .listening ∧ ∃ signal, t.delivered = s.delivered ++ [(signal, s.child)] := by
  cases step?_move h with
  | delivered stage queued => exact .inr ⟨stage, _, rfl⟩
  | _ => exact .inl rfl

/-- A process that was waited for stays so. -/
theorem reaped_step (reaped : s.child.isReaped) (h : step? s a = some t) : t.child.isReaped := by
  cases step?_move h with
  | waited => rfl
  | ended running => rw [running] at reaped; cases reaped
  | _ => exact reaped

theorem Reported.unreaped (inv : Reported s) (stage : s.reaper = .listening) :
    s.child.isReaped = false := by
  simp only [Reported, stage] at inv
  exact inv.1

theorem Reported.delivery (inv : Reported s) (h : step? s a = some t)
    (delivers : t.delivered ≠ s.delivered) :
    s.child.isReaped = false ∧ ∃ signal, t.delivered = s.delivered ++ [(signal, s.child)] := by
  rcases delivered_step h with same | ⟨stage, added⟩
  · exact absurd same delivers
  · exact ⟨inv.unreaped stage, added⟩

/-- No run delivers anything from the moment on at which the process was waited for. -/
theorem Reported.silent {actions : List Action} (inv : Reported s) (reaped : s.child.isReaped)
    (h : Transition.replay? step? s actions = some t) : t.delivered = s.delivered := by
  have kept : Reported t ∧ t.child.isReaped ∧ t.delivered = s.delivered := by
    refine Transition.replay?_preserves
      (P := fun t => Reported t ∧ t.child.isReaped ∧ t.delivered = s.delivered) h
      ⟨inv, reaped, rfl⟩ ?_
    rintro m n a - ⟨inv, reaped, same⟩ taken
    refine ⟨inv.step taken, reaped_step reaped taken, ?_⟩
    rcases delivered_step taken with still | ⟨stage, -⟩
    · exact still.trans same
    · rw [inv.unreaped stage] at reaped
      cases reaped
  exact kept.2.2

/-- The record of the deliveries of a run names only states in which nobody had waited. -/
theorem delivered_unreaped (h : Transition.Reachable step? Initial s) :
    ∀ d ∈ s.delivered, d.2.isReaped = false := by
  have both : Reported s ∧ ∀ d ∈ s.delivered, d.2.isReaped = false := by
    refine h.invariant (P := fun s => Reported s ∧ ∀ d ∈ s.delivered, d.2.isReaped = false) ?_ ?_
    · intro s init
      refine ⟨reported_initial init, ?_⟩
      obtain ⟨_, _, rfl⟩ := init
      exact fun d mem => absurd mem List.not_mem_nil
    · rintro s t a ⟨inv, all⟩ taken
      refine ⟨inv.step taken, fun d mem => ?_⟩
      rcases delivered_step taken with same | ⟨stage, signal, added⟩
      · exact all d (same ▸ mem)
      · rw [added] at mem
        rcases List.mem_append.mp mem with old | new
        · exact all d old
        · rw [List.mem_singleton.mp new]
          exact inv.unreaped stage
  exact both.2

/-- Every delivery is a step from a state in which the process has not been waited for, and after such
    a wait nothing is delivered any more, whatever is queued or asked for. -/
theorem deliveries_precede_reap (h : Transition.Reachable step? Initial s) :
    (∀ d ∈ s.delivered, d.2.isReaped = false) ∧
      (∀ a t, step? s a = some t → t.delivered ≠ s.delivered →
        s.child.isReaped = false ∧ ∃ signal, t.delivered = s.delivered ++ [(signal, s.child)]) ∧
      (s.child.isReaped → ∀ actions t, Transition.replay? step? s actions = some t →
        t.delivered = s.delivered) :=
  have inv := Reported.of_reachable h
  ⟨delivered_unreaped h, fun _ _ taken delivers => inv.delivery taken delivers,
    fun reaped _ _ run => inv.silent reaped run⟩

/-- A process ends while the graceful signal is queued; the signal goes nowhere. -/
theorem deliveries_precede_reap_queued :
    ∃ s t : State, Transition.Reachable step? Initial s ∧ s.child.isReaped ∧ s.queue = [.term] ∧
      Transition.replay? step? s [.escalate, .reap, .tick 10000, .reap, .reap] = some t ∧
      t.delivered = s.delivered := by
  let s : State := { start 7 {} with
    child := .reaped (some (.exited 0)), reaper := .reporting ⟨7, ⟨0, none⟩⟩, canceller := .arming,
    queue := [.term], cancelled := true, asked := [(.term, 0)] }
  have run : Transition.replay? step? (start 7 {})
      [.escalate, .cancel, .escalate, .escalate, .finish (some (.exited 0)), .reap] = some s := rfl
  have later : Transition.replay? step? s [.escalate, .reap, .tick 10000, .reap, .reap] = some _ := rfl
  have begun : Transition.Reachable step? Initial (start 7 {}) := .start ⟨7, {}, rfl⟩
  have reached := Transition.Reachable.replay begun run
  exact ⟨s, _, reached, rfl, rfl, later, (deliveries_precede_reap reached).2.2 rfl _ _ later⟩

end Overseer.Supervision
