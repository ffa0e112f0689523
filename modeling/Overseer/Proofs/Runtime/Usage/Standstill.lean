-- SUMMARY: A question about usage stands still only when its runtime has filled the pipe nobody reads, and then for good.
import Overseer.Proofs.Runtime.Usage
import Overseer.Proofs.Telemetry.Trail

/-!
# Standstill

As long as the client watches standard output it reads nothing else, so a runtime that says more on standard
error than its pipe holds has to wait. If it does so before it has printed an event, the client waits for it
in turn. That is the only way in which the two come to a standstill, and such a runtime always gets there.
-/

namespace Overseer.Usage

open Telemetry (Event Intake)
open Transition (replay? replay?_append replay?_preserves)

variable {b s t : State} {a : Action} {actions : List Action} {early late : List Write}

-- ---------------------------------------------------------------------------
-- Standing still
-- ---------------------------------------------------------------------------

/-- Neither the client nor its runtime can do anything. -/
def Still (s : State) : Prop := ∀ a, a ≠ .cancel → step? s a = none

theorem Kept.still (inv : Kept b s) (live : s.cancelled = false) (deadlock : Deadlocked s) : Still s := by
  obtain ⟨⟨i, stage⟩, silent, w, rest, pending, stream, some, full⟩ := deadlock
  have unended : s.ended = false := by
    by_contra ended
    have nothing := (inv.ended (Bool.eq_true_of_not_eq_false ended)).1
    rw [pending] at nothing
    cases nothing
  intro a other
  cases a with
  | cancel => exact absurd rfl other
  | poll => simp [step?, poll?, stage, live, silent, unended]
  | write =>
    have solid : w.octets.isEmpty = false := by simpa using some
    have none : s.pipes.capacity - s.pipes.stderr.length = 0 := Nat.sub_eq_zero_of_le full
    simp [step?, Pipes.write?, pending, solid, stream, Pipes.held, none]
  | finish => simp [step?, pending]

/-- Where neither can do anything, the schedule has nothing to pick. -/
theorem Still.rests (still : Still s) : schedule .never s = none := by
  have polls : poll? s = none := still .poll nofun
  have writes : s.pipes.write? = none := Option.map_eq_none_iff.mp (still .write nofun)
  have finishes : step? s .finish = none := still .finish nofun
  simp [schedule, polls, writes, finishes]

theorem Still.stays (still : Still s) (quiet : .cancel ∉ actions)
    (run : replay? step? s actions = some t) : t = s := by
  cases actions with
  | nil => exact (Option.some.inj run).symm
  | cons a later =>
    have none := still a (List.ne_of_not_mem_cons quiet).symm
    simp only [replay?, none] at run
    cases run

-- ---------------------------------------------------------------------------
-- Runtimes that say too much
-- ---------------------------------------------------------------------------

/-- Up to some write the runtime says more on standard error than its pipe holds, and by then it has printed
    no event. -/
def Overflows (b : State) : Prop :=
  ∃ early late, b.pipes.pending = early ++ late ∧
    b.pipes.capacity < (Write.on .stderr early).length ∧
    ∀ chunks, chunks.flatten <+: Write.on .stdout early → Intake.events (Intake.feedAll {} chunks).1 = []

/-- A client that has been given nothing of what its runtime writes behind `early`. -/
structure Choked (early late : List Write) (s : State) : Prop where
  live : s.cancelled = false
  unended : s.ended = false
  fits : ∀ stream, (s.pipes.held stream).length ≤ s.pipes.capacity
  excess : s.pipes.capacity < (Write.on .stderr early).length
  course : ∃ chunks left, s.stage = .watching (Intake.feedAll {} chunks).2 ∧
    s.pipes.pending = left ++ late ∧
    chunks.flatten ++ (s.pipes.only left).owed .stdout = Write.on .stdout early ∧
    (s.pipes.only left).owed .stderr = Write.on .stderr early

/-- At the start nothing has been given yet. -/
theorem choked_initial (begins : Initial b) (live : b.cancelled = false)
    (split : b.pipes.pending = early ++ late) (excess : b.pipes.capacity < (Write.on .stderr early).length) :
    Choked early late b := by
  obtain ⟨program, id, capacity, pending, ending, cancelled, rfl⟩ := begins
  refine ⟨live, rfl, ?_, excess, [], early, rfl, split, rfl, rfl⟩
  rintro (_ | _)
  · exact Nat.zero_le capacity
  · exact Nat.zero_le capacity

/-- Standard error has no room for all of it. -/
theorem Choked.busy {left : List Write} (inv : Choked early late s)
    (kept : (s.pipes.only left).owed .stderr = Write.on .stderr early) : left ≠ [] := by
  rintro rfl
  have excess := inv.excess
  have fits := inv.fits .stderr
  rw [← kept] at excess
  simp only [Pipes.owed, Pipes.held_only, Pipes.only_pending, Write.on_nil, List.append_nil] at excess
  exact absurd excess (Nat.not_lt.mpr fits)

theorem Choked.unanswered (inv : Choked early late s) : s.result? = none := by
  obtain ⟨chunks, left, stage, -⟩ := inv.course
  simp only [State.result?, stage]

theorem Choked.step
    (silent : ∀ chunks, chunks.flatten <+: Write.on .stdout early →
      Intake.events (Intake.feedAll {} chunks).1 = [])
    (inv : Choked early late s) (other : a ≠ .cancel) (h : step? s a = some t) : Choked early late t := by
  obtain ⟨chunks, left, stage, pending, printed, complained⟩ := inv.course
  have busy := inv.busy complained
  -- A further chunk is what standard output owed, and completes no event.
  have cut := Pipes.drop_owed_self (s.pipes.only left) .stdout readSize
  have further : (chunks ++ [s.pipes.stdout.take readSize]).flatten
      ++ ((s.pipes.drop .stdout readSize).only left).owed .stdout = Write.on .stdout early := by
    rw [← printed, ← cut]
    simp [Pipes.held, Pipes.only, Pipes.drop, Pipes.hold]
  have none := silent (chunks ++ [s.pipes.stdout.take readSize]) (further ▸ List.prefix_append _ _)
  rw [Intake.feedAll_concat, Intake.events_append] at none
  have noEvent := (List.append_eq_nil_iff.mp none).2
  cases step?_move h with
  | gaveUp running cancelled =>
    rw [inv.live] at cancelled
    cases cancelled
  | @absorbed i skipped watching =>
    obtain rfl := Stage.watching.inj (watching.symm.trans stage)
    refine { inv with fits := ?_, course := ⟨_, left, ?_, pending, further, complained⟩ }
    · rintro (_ | _)
      · exact (List.drop_sublist _ _).length_le.trans (inv.fits .stdout)
      · exact inv.fits .stderr
    · rw [Intake.feedAll_concat]
  | found watching live something first =>
    obtain rfl := Stage.watching.inj (watching.symm.trans stage)
    rw [noEvent] at first
    cases first
  | exhausted watching live nothing ended | foundLast watching live nothing ended =>
    rw [inv.unended] at ended
    cases ended
  | collected collecting | judged collecting =>
    rw [stage] at collecting
    cases collecting
  | cancelled => exact absurd rfl other
  | wrote write =>
    rw [Pipes.write?_append pending busy] at write
    obtain ⟨r, wrote, rfl⟩ := Option.map_eq_some_iff.mp write
    have capacity : r.capacity = s.pipes.capacity := Pipes.write?_capacity (p := s.pipes.only left) wrote
    have fits := Pipes.write?_fits wrote fun stream => Pipes.held_only ▸ inv.fits stream
    refine { inv with fits := ?_, excess := ?_, course := ⟨chunks, r.pending, stage, rfl, ?_, ?_⟩ }
    · exact fits
    · exact capacity ▸ inv.excess
    · rw [← printed, ← Pipes.write?_owed wrote]
      rfl
    · rw [← complained, ← Pipes.write?_owed wrote]
      rfl
  | ended nothing =>
    rw [pending] at nothing
    exact absurd (List.append_eq_nil_iff.mp nothing).1 busy

-- ---------------------------------------------------------------------------
-- Runs
-- ---------------------------------------------------------------------------

/-- A question about usage that nobody cancels. While it is unanswered, the client or its runtime can do
    something unless they wait for each other, over a pipe that is too small for what the runtime says on
    standard error; from there nothing leads on. A runtime that overfills that pipe before it prints an
    event is never answered, and the question gets to where nothing can be done; if the pipe is large
    enough, an answer is reached from anywhere. -/
theorem usage_standstill (begins : Initial b) (live : b.cancelled = false) (quiet : .cancel ∉ actions)
    (ends : b.ending.isSome) (room : 0 < b.pipes.capacity) (run : replay? step? b actions = some t) :
    (t.result? = none → (Still t ↔ Deadlocked t)) ∧
    (Deadlocked t → b.pipes.capacity < (b.script .stderr).length ∧
      ∀ later u, .cancel ∉ later → replay? step? t later = some u → u = t) ∧
    (Overflows b → t.result? = none ∧
      ∃ later u, .cancel ∉ later ∧ replay? step? t later = some u ∧ Deadlocked u) ∧
    ((b.script .stderr).length ≤ b.pipes.capacity →
      ∃ later u result, .cancel ∉ later ∧ replay? step? t later = some u ∧ u.result? = some result) := by
  have kept := kept_replay begins run
  have still := uncancelled_replay live quiet run
  refine ⟨fun unanswered => ⟨fun stands => ?_, kept.still still⟩, fun deadlock => ⟨kept.overfull deadlock, ?_⟩,
    fun overflows => ?_, kept.completes still ends room⟩
  · rcases kept.stuck stands.rests still ends room with ⟨result, finished⟩ | deadlock
    · rw [unanswered] at finished
      cases finished
    · exact deadlock
  · intro later u quiet further
    exact (kept.still still deadlock).stays quiet further
  · obtain ⟨early, late, pending, excess, silent⟩ := overflows
    have choked : ∀ {more u}, .cancel ∉ more → replay? step? b more = some u → u.result? = none := by
      intro more u quiet run
      have inv : Choked early late u :=
        replay?_preserves run (choked_initial begins live pending excess) fun mem inv taken =>
          inv.step silent (fun eq => quiet (eq ▸ mem)) taken
      exact inv.unanswered
    obtain ⟨later, u, calm, further, -, ⟨result, finished⟩ | deadlock⟩ := kept.settles still ends room
    · have whole := replay?_append.mpr ⟨t, run, further⟩
      rw [choked (List.not_mem_append quiet calm) whole] at finished
      cases finished
    · exact ⟨choked quiet run, later, u, calm, further, deadlock⟩

/-- A runtime that prints noise, then complains at greater length than there is room for. -/
def complaining : State where
  program := "runc"
  id := "c1"
  pipes := { capacity := 4, pending := [⟨.stdout, Bytes.ofString "###"⟩, ⟨.stderr, Bytes.ofString "warning"⟩] }
  ending := some (.exited 0)

theorem complaining_overflows : Overflows complaining := by
  refine ⟨complaining.pipes.pending, [], rfl, by decide, fun chunks part => ?_⟩
  have none : Telemetry.Braceless chunks.flatten := by
    intro b mem
    have here : b ∈ Bytes.ofString "###" := part.mem mem
    rintro rfl
    exact absurd here (by decide)
  exact Intake.events_feedAll_braceless none

theorem usage_standstill_complaining :
    Overflows complaining ∧
      ∃ t, replay? step? complaining [.write, .write, .poll] = some t ∧ t.result? = none ∧
        (Still t ↔ Deadlocked t) ∧
        ∃ later u, .cancel ∉ later ∧ replay? step? t later = some u ∧ Deadlocked u := by
  have goes : (replay? step? complaining [.write, .write, .poll]).map (·.result?) = some none := by
    decide +kernel
  obtain ⟨t, run, unanswered⟩ := Option.map_eq_some_iff.mp goes
  obtain ⟨stands, -, stuck, -⟩ :=
    usage_standstill (b := complaining) ⟨_, _, _, _, _, _, rfl⟩ rfl (by simp) rfl (by decide) run
  exact ⟨complaining_overflows, t, run, unanswered, stands unanswered, (stuck complaining_overflows).2⟩

/-- Nobody cancelled, the question is unanswered, and nothing can be done. -/
theorem usage_deadlocks :
    ∃ t, replay? step? complaining [.write, .write, .poll, .write] = some t ∧
      t.cancelled = false ∧ t.result? = none ∧ Still t := by
  have goes : (replay? step? complaining [.write, .write, .poll, .write]).map
        (fun t => (t.cancelled, t.result?, (step? t .poll).isNone, (step? t .write).isNone,
          (step? t .finish).isNone))
      = some (false, none, true, true, true) := by
    decide +kernel
  obtain ⟨t, run, eq⟩ := Option.map_eq_some_iff.mp goes
  simp only [Prod.mk.injEq, Option.isNone_iff_eq_none] at eq
  obtain ⟨live, unanswered, polls, writes, finishes⟩ := eq
  refine ⟨t, run, live, unanswered, fun a other => ?_⟩
  cases a with
  | poll => exact polls
  | cancel => exact absurd rfl other
  | write => exact writes
  | finish => exact finishes

end Overseer.Usage
