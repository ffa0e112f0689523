-- SUMMARY: A query comes to its end, cancelled or with the answer that it has if nobody cancels.
import Overseer.Proofs.Runtime.Query

/-!
# Completion

As long as a query has no result, its client or its runtime can do something that brings the end nearer:
less is left to be written and read, or the client goes on to its next stage. Only a runtime that never
ends by itself can keep the client waiting, and then cancellation ends it.
-/

namespace Overseer.Query

open Transition (drive drive_replay drive_settles replay? replay?_append replay?_cons
  replay?_preserves)

variable {b s t : State} {a : Action} {actions : List Action} {stream : OutStream}
  {result : Except Failure Bytes}

-- ---------------------------------------------------------------------------
-- Coming to an end
-- ---------------------------------------------------------------------------

/-- More than the steps of the client that lead to a result once everything is read. -/
def State.weight (s : State) : Nat :=
  match s.stage, s.cancelled with
  | .unstarted, false => 6
  | .unstarted, true => 5
  | .looking, false => 4
  | .attending, false => 3
  | .attending, true => 2
  | .looking, true => 1
  | .finished _, _ => 0

/-- More than the steps of a scheduled run that are left. -/
def State.toil (s : State) : Nat :=
  s.pipes.debt + (if s.ended.isNone then 1 else 0) + s.weight

variable {cancel : Supervision.CancelTime}

theorem poll_toil (h : poll? s = some t) : t.toil < s.toil := by
  cases poll?_move h with
  | began stage =>
    cases cancelled : s.cancelled <;> simp [State.toil, State.weight, stage, cancelled]
  | gaveUp stage cancelled | attended stage cancelled =>
    simp [State.toil, State.weight, stage, cancelled]
  | refused stage | judged stage =>
    cases cancelled : s.cancelled <;> simp [State.toil, State.weight, stage, cancelled]

theorem read_toil (stage : s.stage = .attending) (something : s.pipes.held stream ≠ []) :
    ∃ t, step? s (.read stream (s.pipes.held stream).length) = some t ∧ t.toil < s.toil := by
  have positive := List.length_pos_iff.mpr something
  have possible : step? s (.read stream (s.pipes.held stream).length)
      = some (s.take stream (s.pipes.held stream).length) := by
    simp only [step?, stage]
    exact if_pos ⟨positive, Nat.le_refl _⟩
  have less := Pipes.drop_debt positive something
  refine ⟨_, possible, ?_⟩
  simp only [State.toil, State.weight, take_pipes, take_ended, take_stage, take_cancelled]
  omega

/-- A client that has read everything and has no verdict waits for a runtime that can act. -/
theorem alive_of_waiting (stage : s.stage = .attending) (empty : s.pipes.isEmpty)
    (waits : poll? s = none) : s.alive ∧ s.obstacle = none := by
  simp only [poll?, stage] at waits
  split at waits
  · cases waits
  · simp [empty] at waits
  · rename_i started unended
    exact ⟨by simp [State.alive, stage, started, unended], started⟩

/-- All that a schedule can pick. -/
inductive Pick (cancel : Supervision.CancelTime) (s : State) : Option Action → Prop where
  | done {result : Except Failure Bytes} (stage : s.stage = .finished result) : Pick cancel s none
  | cancelBefore (stage : s.stage = .unstarted) (before : cancel = .before)
      (live : s.cancelled = false) : Pick cancel s (some .cancel)
  | poll {t : State} (possible : poll? s = some t) : Pick cancel s (some .poll)
  | read (stream : OutStream) (stage : s.stage = .attending)
      (something : s.pipes.held stream ≠ []) :
      Pick cancel s (some (.read stream (s.pipes.held stream).length))
  | write {pipes : Pipes} (alive : s.alive) (write : s.pipes.write? = some pipes) :
      Pick cancel s (some .write)
  | finish (alive : s.alive) (empty : s.pipes.isEmpty) (writes : ¬ s.pipes.write?.isSome)
      (ends : s.ending.isSome) : Pick cancel s (some .finish)
  -- Nobody but the caller can do anything.
  | cancelReady (stage : s.stage = .attending) (started : s.obstacle = none) (endless : s.ending = none)
      (ready : cancel = .ready) (live : s.cancelled = false) : Pick cancel s (some .cancel)
  | rest (stage : s.stage = .attending) (cancelled : s.cancelled) : Pick cancel s (some .rest)
  | stuck (stage : s.stage = .attending) (started : s.obstacle = none) (endless : s.ending = none)
      (other : cancel ≠ .ready) : Pick cancel s none

theorem schedule_pick (cancel : Supervision.CancelTime) (s : State) :
    Pick cancel s (schedule cancel s) := by
  unfold schedule
  split
  · rename_i stage
    exact .done stage
  · rename_i stage
    split_ifs with before
    · exact .cancelBefore stage before.1 (by simpa using before.2)
    · exact .poll (t := { s with stage := .looking }) (by simp only [poll?, stage])
  · rename_i stage
    cases possible : poll? s with
    | some t => exact .poll possible
    | none =>
      simp only [poll?, stage] at possible
      split_ifs at possible
  · rename_i stage
    split_ifs with stdout stderr polls writes ends ready cancelled
    · exact .read .stdout stage (by simpa [Pipes.held] using stdout)
    · exact .read .stderr stage (by simpa [Pipes.held] using stderr)
    · obtain ⟨t, possible⟩ := Option.isSome_iff_exists.mp polls
      exact .poll possible
    all_goals
      have empty : s.pipes.isEmpty := by simp_all [Pipes.isEmpty]
      obtain ⟨alive, started⟩ := alive_of_waiting stage empty (by simpa using polls)
    · obtain ⟨pipes, write⟩ := Option.isSome_iff_exists.mp writes
      exact .write alive write
    · exact .finish alive empty writes ends
    · exact .rest stage cancelled
    · exact .cancelReady stage started (by simpa using ends) ready (by simpa using cancelled)
    · exact .stuck stage started (by simpa using ends) ready

/-- What a schedule picks is possible and brings the end nearer. -/
theorem schedule_toil (room : 0 < s.pipes.capacity) (picked : schedule cancel s = some a) :
    ∃ t, step? s a = some t ∧ t.toil < s.toil := by
  have pick := schedule_pick cancel s
  rw [picked] at pick
  cases pick with
  | cancelBefore stage _ live | cancelReady stage _ _ _ live =>
    exact ⟨_, rfl, by simp [State.toil, State.weight, stage, live]⟩
  | poll possible => exact ⟨_, possible, poll_toil possible⟩
  | read stream stage something => exact read_toil stage something
  | @write pipes alive write =>
    have less := Pipes.write?_debt write
    refine ⟨{ s with pipes }, ?_, ?_⟩
    · exact Option.ite_none_right_eq_some.mpr ⟨alive, Option.map_eq_some_iff.mpr ⟨_, write, rfl⟩⟩
    · simp only [State.toil, State.weight]
      omega
  | finish alive empty writes ends =>
    have nothing : s.pipes.pending = [] := by
      by_contra something
      exact writes (Pipes.write?_isSome empty room something)
    have possible : s.alive && s.pipes.pending.isEmpty && s.ending.isSome := by
      simp [alive, nothing, ends]
    have ending := Option.isSome_iff_ne_none.mp ends
    refine ⟨{ s with ended := s.ending }, Option.ite_none_right_eq_some.mpr ⟨possible, rfl⟩, ?_⟩
    simp [State.toil, State.weight, ended_of_alive alive, ending]
  | rest stage cancelled =>
    have possible : step? s .rest = some { s with stage := .looking } := by simp only [step?, stage]
    exact ⟨_, possible, by simp [State.toil, State.weight, stage, cancelled]⟩

/-- A schedule comes to rest with a result, or before a runtime that never ends. -/
theorem stage_of_rest (rests : schedule cancel s = none) :
    (∃ result, s.stage = .finished result) ∨
      s.stage = .attending ∧ s.obstacle = none ∧ s.ending = none ∧ cancel ≠ .ready := by
  have pick := schedule_pick cancel s
  rw [rests] at pick
  cases pick with
  | done stage => exact .inl ⟨_, stage⟩
  | stuck stage started endless other => exact .inr ⟨stage, started, endless, other⟩

/-- A schedule cancels only at the start, or when the runtime waits for ever. -/
theorem schedule_cancels (picked : schedule cancel s = some .cancel) :
    cancel = .before ∨ cancel = .ready ∧ s.obstacle = none ∧ s.ending = none := by
  have pick := schedule_pick cancel s
  rw [picked] at pick
  cases pick with
  | cancelBefore _ before => exact .inl before
  | cancelReady _ started endless ready => exact .inr ⟨ready, started, endless⟩

/-- A scheduled run that is long enough comes to rest. -/
theorem Kept.rests {limit : Nat} (inv : Kept b s) (cancel : Supervision.CancelTime)
    (room : 0 < b.pipes.capacity) (enough : s.toil ≤ limit) :
    Kept b (drive step? (schedule cancel) limit s) ∧
      schedule cancel (drive step? (schedule cancel) limit s) = none := by
  refine drive_settles State.toil (P := Kept b) (fun {u c} inv picked => ?_) inv enough
  obtain ⟨t, taken, less⟩ := schedule_toil (inv.capacity ▸ room) picked
  exact ⟨t, taken, inv.step taken, less⟩

/-- From every state of a run, a query whose runtime cannot be started or ends by itself comes to a
    result, and so does one that was cancelled. -/
theorem Kept.completes (inv : Kept b s) (room : 0 < b.pipes.capacity)
    (ends : b.verdict?.isSome ∨ s.cancelled) :
    ∃ later t result, .cancel ∉ later ∧ replay? step? s later = some t ∧ t.result? = some result := by
  obtain ⟨later, run, picks⟩ := drive_replay step? (schedule .never) s.toil s
  obtain ⟨kept, rests⟩ := inv.rests .never room (Nat.le_refl s.toil)
  generalize drive step? (schedule .never) s.toil s = u at run kept rests
  have quiet : .cancel ∉ later := by
    intro mem
    obtain ⟨u, picked⟩ := picks _ mem
    rcases schedule_cancels picked with impossible | ⟨impossible, -⟩ <;> cases impossible
  rcases stage_of_rest rests with ⟨result, finished⟩ | ⟨stage, started, endless, -⟩
  · exact ⟨later, _, result, quiet, run, by simp [State.result?, finished]⟩
  · -- Only a cancelled query gets here: it looks once more.
    have hopeless : b.verdict? = none := by
      simp [State.verdict?, ← kept.obstacle, ← kept.ending, started, endless]
    have cancelled := ends.resolve_left (by simp [hopeless])
    have still := replay?_preserves (P := fun v => v.cancelled) run cancelled
      fun _ cancelled taken => cancelled_step cancelled taken
    have looks : step? u .rest = some { u with stage := .looking } := by simp only [step?, stage]
    have givesUp : step? { u with stage := .looking } .poll = some { u with
        stage := .finished (.error .cancelled), killed := State.alive { u with stage := .looking } } :=
      if_pos still
    exact ⟨later ++ [.rest, .poll], _, .error .cancelled, by simp [quiet],
      replay?_append.mpr
        ⟨u, run, replay?_cons.mpr ⟨_, looks, replay?_cons.mpr ⟨_, givesUp, rfl⟩⟩⟩, rfl⟩

-- ---------------------------------------------------------------------------
-- Any order of steps
-- ---------------------------------------------------------------------------

/-- A query that has come to its end was cancelled, or it is answered as if nobody had cancelled it. -/
theorem Kept.answered {α : Type} (inv : Kept b s) (q : Query α) (finished : s.result? = some result) :
    result = .error .cancelled ∧ s.cancelled ∨ q.settled? b = some (q.answer result) := by
  rcases inv.finished result (stage_of_result finished) with gaveUp | verdict
  · exact .inl gaveUp
  · exact .inr (by rw [settled?_eq, verdict, Option.map_some])

theorem verdict?_eq_none : b.verdict? = none ↔ b.obstacle = none ∧ b.ending = none := by
  unfold State.verdict?
  cases b.obstacle <;> simp

theorem result?_finished (stage : s.stage = .finished result) : s.result? = some result := by
  simp only [State.result?, stage]

theorem toil_initial (begins : Initial b) : b.toil ≤ b.pipes.debt + 8 := by
  obtain ⟨program, obstacle, ending, capacity, pending, cancelled, rfl⟩ := begins
  cases cancelled <;> simp [State.toil, State.weight]

/-- The last state of a scheduled query. -/
theorem run_rests (cancel : Supervision.CancelTime) (begins : Initial b) (room : 0 < b.pipes.capacity) :
    Kept b (run cancel b) ∧ schedule cancel (run cancel b) = none :=
  (kept_initial begins).rests cancel room (toil_initial begins)

/-- Where a schedule has no occasion to cancel. -/
theorem Kept.quiet (inv : Kept b s) (notBefore : cancel ≠ .before)
    (occupied : cancel = .ready → b.verdict?.isSome) : schedule cancel s ≠ some .cancel := by
  intro picked
  rcases schedule_cancels picked with before | ⟨ready, started, endless⟩
  · exact notBefore before
  · have verdict := occupied ready
    rw [verdict?_eq_none.mpr ⟨inv.obstacle ▸ started, inv.ending ▸ endless⟩] at verdict
    cases verdict

/-- A query that nobody cancels before it begins is not cancelled if its schedule does not do so. -/
theorem run_live (begins : Initial b) (live : b.cancelled = false) (room : 0 < b.pipes.capacity)
    (quiet : ∀ u, Kept b u → schedule cancel u ≠ some .cancel) : (run cancel b).cancelled = false := by
  have keeps : ∀ {u c}, Kept b u ∧ u.cancelled = false → schedule cancel u = some c →
      ∃ v, step? u c = some v ∧ (Kept b v ∧ v.cancelled = false) ∧ v.toil < u.toil := by
    intro u c inv picked
    obtain ⟨v, taken, less⟩ := schedule_toil (inv.1.capacity ▸ room) picked
    have other : c ≠ .cancel := fun eq => quiet u inv.1 (eq ▸ picked)
    exact ⟨v, taken, ⟨inv.1.step taken, uncancelled_step inv.2 other taken⟩, less⟩
  exact (drive_settles State.toil keeps ⟨kept_initial begins, live⟩ (toil_initial begins)).1.2

theorem run_before (begins : Initial b) (live : b.cancelled = false) (room : 0 < b.pipes.capacity) :
    (run .before b).result? = some (.error .cancelled) := by
  have unstarted : b.stage = .unstarted := by
    obtain ⟨program, obstacle, ending, capacity, pending, cancelled, rfl⟩ := begins
    rfl
  have first : schedule .before b = some .cancel := by simp [schedule, unstarted, live]
  have gone : run .before b
      = drive step? (schedule .before) (b.pipes.debt + 7) { b with cancelled := true } := by
    rw [run, drive, first]
    rfl
  obtain ⟨actions, taken, -⟩ :=
    drive_replay step? (schedule .before) (b.pipes.debt + 7) { b with cancelled := true }
  rw [← gone] at taken
  have forsworn : Forsworn (run .before b) :=
    replay?_preserves (P := Forsworn) taken ⟨rfl, .inl unstarted⟩ fun _ inv taken => inv.step taken
  rcases stage_of_rest (run_rests .before begins room).2 with ⟨result, stage⟩ | ⟨stage, -⟩
  · rw [result?_finished stage, forsworn.of_finished stage]
  · exact absurd stage forsworn.inattentive

theorem run_of_verdict (cancel : Supervision.CancelTime) (begins : Initial b) (live : b.cancelled = false)
    (room : 0 < b.pipes.capacity) (verdict : b.verdict? = some result) (other : cancel ≠ .before) :
    (run cancel b).result? = some result := by
  have quiet : ∀ u, Kept b u → schedule cancel u ≠ some .cancel := fun u inv =>
    inv.quiet other fun _ => verdict ▸ rfl
  have live := run_live begins live room quiet
  obtain ⟨kept, rests⟩ := run_rests cancel begins room
  rcases stage_of_rest rests with ⟨given, stage⟩ | ⟨-, started, endless, -⟩
  · rcases kept.finished given stage with ⟨-, cancelled⟩ | same
    · rw [live] at cancelled
      cases cancelled
    · rw [result?_finished stage, ← same, verdict]
  · rw [verdict?_eq_none.mpr ⟨kept.obstacle ▸ started, kept.ending ▸ endless⟩] at verdict
    cases verdict

/-- A runtime that waits for ever is waited for, unless its client is cancelled when it is ready. -/
theorem run_of_hopeless (cancel : Supervision.CancelTime) (begins : Initial b) (live : b.cancelled = false)
    (room : 0 < b.pipes.capacity) (hopeless : b.verdict? = none) (other : cancel ≠ .before) :
    (run cancel b).result? = if cancel = .ready then some (.error .cancelled) else none := by
  obtain ⟨kept, rests⟩ := run_rests cancel begins room
  have result : ∀ {given}, (run cancel b).stage = .finished given →
      given = .error .cancelled ∧ (run cancel b).cancelled := by
    intro given stage
    exact (kept.finished given stage).resolve_right (by simp [hopeless])
  split_ifs with ready
  · rcases stage_of_rest rests with ⟨given, stage⟩ | ⟨-, -, -, unready⟩
    · rw [result?_finished stage, (result stage).1]
    · exact absurd ready unready
  · have quiet : ∀ u, Kept b u → schedule cancel u ≠ some .cancel := fun u inv =>
      inv.quiet other fun atReady => absurd atReady ready
    have live := run_live begins live room quiet
    rcases stage_of_rest rests with ⟨given, stage⟩ | ⟨stage, -⟩
    · rw [(result stage).2] at live
      cases live
    · simp only [State.result?, stage]

/-- A query against a runtime with the given behaviour, by the time of its cancellation. One that is
    cancelled when its runtime is ready has been answered by then, unless the runtime waits for ever. -/
theorem ask?_eq {α : Type} (q : Query α) (host : Host) (launcher : Launcher) (behaviour : Behaviour)
    (cancel : Supervision.CancelTime) :
    q.ask? host launcher behaviour cancel =
      match cancel with
      | .before => some (.error .cancelled)
      | .ready => some ((q.settled? (q.start host launcher behaviour)).getD (.error .cancelled))
      | .never | .after => q.settled? (q.start host launcher behaviour) := by
  have begins : Initial (q.start host launcher behaviour) := ⟨_, _, _, _, _, _, rfl⟩
  have room : 0 < (q.start host launcher behaviour).pipes.capacity := Nat.succ_pos 65535
  rw [ask?, settled?_eq]
  cases verdict : (q.start host launcher behaviour).verdict? with
  | some result =>
    have settled := fun other => run_of_verdict cancel begins rfl room verdict other
    cases cancel with
    | before => exact congrArg (Option.map q.answer) (run_before begins rfl room)
    | never | ready | after => exact congrArg (Option.map q.answer) (settled nofun)
  | none =>
    have hopeless := fun other => run_of_hopeless cancel begins rfl room verdict other
    cases cancel with
    | before => exact congrArg (Option.map q.answer) (run_before begins rfl room)
    | never | ready | after => exact congrArg (Option.map q.answer) (hopeless nofun)

end Overseer.Query
