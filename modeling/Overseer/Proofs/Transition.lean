-- SUMMARY: Induction over the runs of a transition system.
import Overseer.Transition

/-!
# Runs

What every step preserves, every run preserves. A run that is cut in two passes through a state that
the first part leads to and the second part starts from. A scheduled run is a run, and if each of its
actions makes some measure smaller, then it goes on until the schedule has nothing left to do.
-/

namespace Overseer.Transition

variable {State Action : Type} {step? : State → Action → Option State} {initial : State → Prop}
  {s t u : State} {a : Action} {before after : List Action}

theorem replay?_cons :
    replay? step? s (a :: after) = some u ↔
      ∃ t, step? s a = some t ∧ replay? step? t after = some u := by
  rw [replay?]
  cases step? s a with
  | none => simp
  | some t => simp

theorem replay?_append :
    replay? step? s (before ++ after) = some u ↔
      ∃ t, replay? step? s before = some t ∧ replay? step? t after = some u := by
  induction before generalizing s with
  | nil => simp [replay?]
  | cons b before ih =>
    rw [List.cons_append, replay?_cons]
    constructor
    · rintro ⟨m, first, rest⟩
      obtain ⟨t, middle, last⟩ := ih.mp rest
      exact ⟨t, replay?_cons.mpr ⟨m, first, middle⟩, last⟩
    · rintro ⟨t, front, last⟩
      obtain ⟨m, first, middle⟩ := replay?_cons.mp front
      exact ⟨m, first, ih.mpr ⟨t, middle, last⟩⟩

theorem replay?_concat :
    replay? step? s (before ++ [a]) = some u ↔
      ∃ t, replay? step? s before = some t ∧ step? t a = some u := by
  have last (t : State) : replay? step? t [a] = some u ↔ step? t a = some u := by
    rw [replay?]
    cases step? t a <;> rfl
  simp only [replay?_append, last]

/-- A property of the initial states that every step preserves. -/
theorem Reachable.invariant {P : State → Prop} (h : Reachable step? initial s)
    (base : ∀ s, initial s → P s) (keeps : ∀ {s a t}, P s → step? s a = some t → P t) : P s := by
  induction h with
  | start init => exact base _ init
  | step _ taken ih => exact keeps ih taken

/-- A property that every step with one of the actions of a run preserves. -/
theorem replay?_preserves {P : State → Prop} {actions : List Action}
    (h : replay? step? s actions = some t) (base : P s)
    (keeps : ∀ {s a t}, a ∈ actions → P s → step? s a = some t → P t) : P t := by
  induction actions generalizing s with
  | nil => cases h; exact base
  | cons a rest ih =>
    obtain ⟨m, first, later⟩ := replay?_cons.mp h
    exact ih later (keeps List.mem_cons_self base first)
      fun mem holds taken => keeps (List.mem_cons_of_mem a mem) holds taken

theorem Reachable.replay (h : Reachable step? initial s) {actions : List Action}
    (run : replay? step? s actions = some t) : Reachable step? initial t :=
  replay?_preserves run h fun _ holds taken => .step holds taken

-- ---------------------------------------------------------------------------
-- Scheduled runs
-- ---------------------------------------------------------------------------

variable {schedule : State → Option Action}

/-- What a schedule leads to, the actions that it picks lead to. -/
theorem drive_replay (step? : State → Action → Option State) (schedule : State → Option Action)
    (limit : Nat) (s : State) :
    ∃ actions, replay? step? s actions = some (drive step? schedule limit s) ∧
      ∀ a ∈ actions, ∃ u, schedule u = some a := by
  induction limit generalizing s with
  | zero => exact ⟨[], rfl, nofun⟩
  | succ limit ih =>
    unfold drive
    split
    · exact ⟨[], rfl, nofun⟩
    · rename_i a picked
      split
      · exact ⟨[], rfl, nofun⟩
      · rename_i t taken
        obtain ⟨actions, run, picks⟩ := ih t
        refine ⟨a :: actions, replay?_cons.mpr ⟨t, taken, run⟩, ?_⟩
        rintro b (_ | ⟨_, later⟩)
        · exact ⟨s, picked⟩
        · exact picks b later

/-- A schedule that only ever picks one action repeats it. -/
theorem drive_replicate (only : ∀ u b, schedule u = some b → b = a) (limit : Nat) (s : State) :
    ∃ n, replay? step? s (List.replicate n a) = some (drive step? schedule limit s) := by
  obtain ⟨actions, run, picks⟩ := drive_replay step? schedule limit s
  have same : actions = List.replicate actions.length a := by
    refine List.eq_replicate_of_mem fun b mem => ?_
    obtain ⟨u, picked⟩ := picks b mem
    exact only u b picked
  exact ⟨actions.length, same ▸ run⟩

/-- A schedule that picks only what is possible and makes a measure smaller comes to its end. -/
theorem drive_settles {P : State → Prop} (measure : State → Nat)
    (keeps : ∀ {s a}, P s → schedule s = some a →
      ∃ t, step? s a = some t ∧ P t ∧ measure t < measure s)
    {limit : Nat} (holds : P s) (enough : measure s ≤ limit) :
    P (drive step? schedule limit s) ∧ schedule (drive step? schedule limit s) = none := by
  induction limit generalizing s with
  | zero =>
    refine ⟨holds, ?_⟩
    cases picked : schedule s with
    | none => exact picked
    | some a =>
      obtain ⟨t, -, -, less⟩ := keeps holds picked
      omega
  | succ limit ih =>
    cases picked : schedule s with
    | none =>
      have rests : drive step? schedule (limit + 1) s = s := by simp only [drive, picked]
      exact rests.symm ▸ ⟨holds, picked⟩
    | some a =>
      obtain ⟨t, taken, next, less⟩ := keeps holds picked
      simp only [drive, picked, taken]
      exact ih next (by omega)

/-- Such a schedule has a run to its end. -/
theorem exists_settled {P : State → Prop} (measure : State → Nat)
    (keeps : ∀ {s a}, P s → schedule s = some a →
      ∃ t, step? s a = some t ∧ P t ∧ measure t < measure s) (holds : P s) :
    ∃ actions t, replay? step? s actions = some t ∧ (∀ a ∈ actions, ∃ u, schedule u = some a) ∧
      P t ∧ schedule t = none := by
  obtain ⟨actions, run, picks⟩ := drive_replay step? schedule (measure s) s
  exact ⟨actions, _, run, picks, drive_settles measure keeps holds (Nat.le_refl _)⟩

end Overseer.Transition
