-- SUMMARY: What a question about usage is answered: the first event, or a verdict on standard error alone.
import Overseer.Proofs.Runtime.Query
import Overseer.Proofs.Telemetry.First
import Overseer.Runtime.Usage

/-!
# Usage

The client has read standard output in some chunks, without an event as long as it goes on; what it read
of standard error, followed by what that pipe still owes, is what the runtime writes to it. So its answer
is the first event of standard output, cut into some chunks, or the verdict on the end of the runtime.
That verdict is reached with nothing but standard error at hand.
-/

namespace Overseer.Usage

open Telemetry (Event Intake Noise Stats)
open Transition (drive_replay drive_settles replay? replay?_preserves)

variable {b s t : State} {a : Action} {actions : List Action} {result : Except Failure Stats}

-- ---------------------------------------------------------------------------
-- Steps
-- ---------------------------------------------------------------------------

/-- All that a step can do. -/
inductive Move (s : State) : Action → State → Prop where
  -- The client.
  | gaveUp (running : s.result? = none) (cancelled : s.cancelled) :
      Move s .poll { s with stage := .finished (.error .cancelled) }
  | absorbed {i : Intake} {skipped : List Noise} (stage : s.stage = .watching i)
      (live : s.cancelled = false) (something : s.pipes.stdout ≠ [])
      (none : Intake.events (i.feed (s.pipes.stdout.take readSize)).drain.1 = []) :
      Move s .poll { s with
        pipes := s.pipes.drop .stdout readSize, skipped
        stage := .watching (i.feed (s.pipes.stdout.take readSize)).drain.2 }
  | found {i : Intake} {skipped : List Noise} {e : Event} {rest : List Event}
      (stage : s.stage = .watching i) (live : s.cancelled = false) (something : s.pipes.stdout ≠ [])
      (first : Intake.events (i.feed (s.pipes.stdout.take readSize)).drain.1 = e :: rest) :
      Move s .poll { s with
        pipes := s.pipes.drop .stdout readSize, skipped, stage := .finished (.ok (e.data.getD {})) }
  | exhausted {i : Intake} {skipped : List Noise} (stage : s.stage = .watching i)
      (live : s.cancelled = false) (nothing : s.pipes.stdout = []) (ended : s.ended)
      (none : Intake.events i.finish.drain.1 = []) :
      Move s .poll { s with skipped, stage := .collecting }
  | foundLast {i : Intake} {skipped : List Noise} {e : Event} {rest : List Event}
      (stage : s.stage = .watching i) (live : s.cancelled = false) (nothing : s.pipes.stdout = [])
      (ended : s.ended) (first : Intake.events i.finish.drain.1 = e :: rest) :
      Move s .poll { s with skipped, stage := .finished (.ok (e.data.getD {})) }
  | collected (stage : s.stage = .collecting) (live : s.cancelled = false)
      (something : s.pipes.stderr ≠ []) :
      Move s .poll { s with
        complaint := s.complaint ++ s.pipes.stderr
        pipes := s.pipes.drop .stderr s.pipes.stderr.length }
  | judged {status : WaitStatus} (stage : s.stage = .collecting) (live : s.cancelled = false)
      (nothing : s.pipes.stderr = []) (ended : s.ended) (ending : s.ending = some status) :
      Move s .poll { s with
        stage := .finished (match Verdict.ofOutput s.program status [] s.complaint with
          | .ok _ => .error (nothingReported s.program s.id)
          | .error why => .error why) }
  -- The caller.
  | cancelled : Move s .cancel { s with cancelled := true }
  -- The runtime.
  | wrote {pipes : Pipes} (write : s.pipes.write? = some pipes) : Move s .write { s with pipes }
  | ended (nothing : s.pipes.pending = []) (unended : s.ended = false) (ends : s.ending.isSome) :
      Move s .finish { s with ended := true }

theorem poll?_move (h : poll? s = some t) : Move s .poll t := by
  unfold poll? at h
  split at h
  · cases h
  · rename_i i stage
    split_ifs at h with cancelled something ended
    · cases h
      exact .gaveUp (by simp [State.result?, stage]) cancelled
    all_goals have live : s.cancelled = false := Bool.eq_false_iff.mpr cancelled
    · have something : s.pipes.stdout ≠ [] := by simpa using something
      rcases Intake.nextEvent_cases (i.feed (s.pipes.stdout.take readSize)) s.skipped with
        ⟨e, rest, skipped, j, first, eq⟩ | ⟨skipped, none, eq⟩
      · simp only [absorb, eq] at h
        cases h
        exact .found stage live something first
      · simp only [absorb, eq] at h
        cases h
        exact .absorbed stage live something none
    · have nothing : s.pipes.stdout = [] := by simpa using something
      rcases Intake.nextEvent_cases i.finish s.skipped with
        ⟨e, rest, skipped, j, first, eq⟩ | ⟨skipped, none, eq⟩
      · simp only [absorb, eq] at h
        cases h
        exact .foundLast stage live nothing ended first
      · simp only [absorb, eq] at h
        cases h
        exact .exhausted stage live nothing ended none
  · rename_i stage
    split_ifs at h with cancelled something
    · cases h
      exact .gaveUp (by simp [State.result?, stage]) cancelled
    all_goals have live : s.cancelled = false := Bool.eq_false_iff.mpr cancelled
    · cases h
      exact .collected stage live (by simpa using something)
    · split at h
      · rename_i ended ending
        cases h
        exact .judged stage live (by simpa using something) ended ending
      · cases h

theorem step?_move (h : step? s a = some t) : Move s a t := by
  cases a with
  | poll => exact poll?_move h
  | cancel =>
    cases h
    exact .cancelled
  | write =>
    obtain ⟨pipes, write, ⟨⟩⟩ := Option.map_eq_some_iff.mp h
    exact .wrote write
  | finish =>
    obtain ⟨possible, ⟨⟩⟩ := Option.ite_none_right_eq_some.mp h
    simp only [Bool.and_eq_true, List.isEmpty_iff, Bool.not_eq_true'] at possible
    exact .ended possible.1.1 possible.1.2 possible.2

-- ---------------------------------------------------------------------------
-- The answer
-- ---------------------------------------------------------------------------

/-- The states in which a client begins, having started its runtime. -/
def Initial (b : State) : Prop :=
  ∃ program id capacity pending ending cancelled,
    b = { program, id, pipes := { capacity, pending }, ending, cancelled }

/-- What the runtime writes to a stream. -/
def State.script (b : State) (stream : OutStream) : Bytes := Write.on stream b.pipes.pending

/-- The answer of a client that reads standard output in the given chunks, unless the runtime is waited
    for in vain. -/
def State.answer? (b : State) (chunks : List Bytes) : Option (Except Failure Stats) :=
  match Intake.events (Intake.session chunks).1 with
  | e :: _ => some (.ok (e.data.getD {}))
  | [] => b.ending.map fun status =>
    if status.code? = some 0 then .error (nothingReported b.program b.id)
    else .error (.command b.program (.ofWait status) (b.script .stderr).lossyText)

theorem answer?_found {chunks : List Bytes} {e : Event} {rest : List Event}
    (found : Intake.events (Intake.session chunks).1 = e :: rest) :
    b.answer? chunks = some (.ok (e.data.getD {})) := by
  simp only [State.answer?, found]

/-- The answer where the runtime has come to a bad end. -/
theorem answer?_badly {status : WaitStatus} {chunks : List Bytes} (ending : b.ending = some status)
    (bad : status.code? ≠ some 0) (answer : b.answer? chunks = some result) :
    (∃ e rest, Intake.events (Intake.session chunks).1 = e :: rest ∧ result = .ok (e.data.getD {})) ∨
      Intake.events (Intake.session chunks).1 = [] ∧
        result = .error (.command b.program (.ofWait status) (b.script .stderr).lossyText) := by
  unfold State.answer? at answer
  split at answer
  · rename_i e rest found
    cases answer
    exact .inl ⟨e, rest, found, rfl⟩
  · rename_i none
    simp only [ending, Option.map_some, if_neg bad] at answer
    cases answer
    exact .inr ⟨none, rfl⟩

/-- The result of a client that has one. -/
def Settled (b s : State) (result : Except Failure Stats) : Prop :=
  result = .error .cancelled ∧ s.cancelled ∨
    ∃ chunks, chunks.flatten = b.script .stdout ∧ b.answer? chunks = some result

/-- How far a client has come that began in `b`. -/
def Course (b s : State) : Prop :=
  match s.stage with
  | .watching i => ∃ chunks, chunks.flatten ++ s.pipes.owed .stdout = b.script .stdout ∧
      Intake.events (Intake.feedAll {} chunks).1 = [] ∧ i = (Intake.feedAll {} chunks).2
  | .collecting => s.ended ∧ ∃ chunks, chunks.flatten = b.script .stdout ∧
      Intake.events (Intake.session chunks).1 = []
  | .finished result => Settled b s result

/-- What holds of a client that began in `b`. -/
structure Kept (b s : State) : Prop where
  program : s.program = b.program
  id : s.id = b.id
  ending : s.ending = b.ending
  capacity : s.pipes.capacity = b.pipes.capacity
  complaint : s.complaint ++ s.pipes.owed .stderr = b.script .stderr
  ended : s.ended → s.pipes.pending = [] ∧ s.ending.isSome
  course : Course b s

theorem kept_initial (h : Initial b) : Kept b b := by
  obtain ⟨program, id, capacity, pending, ending, cancelled, rfl⟩ := h
  exact ⟨rfl, rfl, rfl, rfl, rfl, nofun, [], rfl, rfl, rfl⟩

variable {i : Intake} {e : Event} {rest : List Event}

/-- While a client watches, a further chunk is what standard output owed it first. -/
theorem Kept.fed (inv : Kept b s) (stage : s.stage = .watching i) :
    ∃ chunks, chunks.flatten ++ (s.pipes.drop .stdout readSize).owed .stdout = b.script .stdout ∧
      Intake.events (Intake.feedAll {} chunks).1
        = Intake.events (i.feed (s.pipes.stdout.take readSize)).drain.1 ∧
      (i.feed (s.pipes.stdout.take readSize)).drain.2 = (Intake.feedAll {} chunks).2 := by
  have course := inv.course
  simp only [Course, stage] at course
  obtain ⟨chunks, balance, quiet, rfl⟩ := course
  refine ⟨chunks ++ [s.pipes.stdout.take readSize], ?_, ?_, ?_⟩
  · have cut := Pipes.drop_owed_self s.pipes .stdout readSize
    rw [← balance, ← cut]
    simp [Pipes.held]
  · simp [Intake.feedAll_concat, Intake.events_append, quiet]
  · simp [Intake.feedAll_concat]

/-- When standard output is over, the chunks that were read make it up. -/
theorem Kept.watched (inv : Kept b s) (stage : s.stage = .watching i) (nothing : s.pipes.stdout = [])
    (ended : s.ended) :
    ∃ chunks, chunks.flatten = b.script .stdout ∧
      Intake.events (Intake.session chunks).1 = Intake.events i.finish.drain.1 := by
  have course := inv.course
  simp only [Course, stage] at course
  obtain ⟨chunks, balance, quiet, rfl⟩ := course
  have spent : s.pipes.owed .stdout = [] := by
    simp [Pipes.owed, Pipes.held, nothing, (inv.ended ended).1]
  refine ⟨chunks, ?_, ?_⟩
  · rw [← balance, spent, List.append_nil]
  · simp [Intake.session, Intake.events_append, quiet]

/-- Behind the end of the runtime the client has all of standard error when its pipe is empty. -/
theorem Kept.heard (inv : Kept b s) (nothing : s.pipes.stderr = []) (ended : s.ended) :
    s.complaint = b.script .stderr := by
  have spent : s.pipes.owed .stderr = [] := by
    simp [Pipes.owed, Pipes.held, nothing, (inv.ended ended).1]
  rw [← inv.complaint, spent, List.append_nil]

theorem Kept.judged {status : WaitStatus} (inv : Kept b s) (stage : s.stage = .collecting)
    (nothing : s.pipes.stderr = []) (ended : s.ended) (ending : s.ending = some status) :
    ∃ chunks, chunks.flatten = b.script .stdout ∧
      b.answer? chunks = some (match Verdict.ofOutput s.program status [] s.complaint with
        | .ok _ => .error (nothingReported s.program s.id)
        | .error why => .error why) := by
  have course := inv.course
  simp only [Course, stage] at course
  obtain ⟨-, chunks, whole, quiet⟩ := course
  refine ⟨chunks, whole, ?_⟩
  simp only [State.answer?, quiet, ← inv.ending, ending, Option.map_some, ← inv.program, ← inv.id,
    ← inv.heard nothing ended]
  split_ifs with zero
  · rw [Verdict.ofOutput_good ((ExitStatus.success_iff_code status).mpr zero)]
  · rw [Verdict.ofOutput_bad (ExitStatus.failure_of_code zero)]
    rfl

/-- A read of standard output leaves standard error as it is. -/
theorem Kept.read (inv : Kept b s) {stage : Stage} {skipped : List Noise}
    (course : Course b { s with pipes := s.pipes.drop .stdout readSize, skipped, stage }) :
    Kept b { s with pipes := s.pipes.drop .stdout readSize, skipped, stage } where
  program := inv.program
  id := inv.id
  ending := inv.ending
  capacity := Pipes.hold_capacity.trans inv.capacity
  complaint := by
    have other : OutStream.stderr ≠ .stdout := nofun
    simpa only [Pipes.drop_owed_of_ne other] using inv.complaint
  ended ended := ⟨Pipes.hold_pending.trans (inv.ended ended).1, (inv.ended ended).2⟩
  course := course

theorem Kept.step (inv : Kept b s) (h : step? s a = some t) : Kept b t := by
  cases step?_move h with
  | gaveUp running cancelled => exact { inv with course := .inl ⟨rfl, cancelled⟩ }
  | absorbed stage live something none =>
    obtain ⟨chunks, balance, found, same⟩ := inv.fed stage
    exact inv.read ⟨chunks, balance, found.trans none, same⟩
  | found stage live something first =>
    obtain ⟨chunks, balance, found, same⟩ := inv.fed stage
    -- What is left of standard output is one more chunk, behind the first event.
    obtain ⟨more, whole⟩ := Intake.events_feedAll_prefix chunks
      [(s.pipes.drop .stdout readSize).owed .stdout]
    rw [found, first] at whole
    exact inv.read (.inr ⟨_, by simpa using balance, answer?_found whole.symm⟩)
  | exhausted stage live nothing ended none =>
    obtain ⟨chunks, whole, found⟩ := inv.watched stage nothing ended
    exact { inv with course := ⟨ended, chunks, whole, found.trans none⟩ }
  | foundLast stage live nothing ended first =>
    obtain ⟨chunks, whole, found⟩ := inv.watched stage nothing ended
    exact { inv with course := .inr ⟨chunks, whole, answer?_found (found.trans first)⟩ }
  | collected stage live something =>
    have course := inv.course
    simp only [Course, stage] at course
    refine { inv with capacity := ?_, complaint := ?_, ended := ?_, course := ?_ }
    · exact Pipes.hold_capacity.trans inv.capacity
    · have cut := Pipes.drop_owed_self s.pipes .stderr s.pipes.stderr.length
      simp only [Pipes.held, List.take_length] at cut
      change (s.complaint ++ s.pipes.stderr) ++ _ = _
      rw [List.append_assoc, cut]
      exact inv.complaint
    · exact fun ended => ⟨Pipes.hold_pending.trans (inv.ended ended).1, (inv.ended ended).2⟩
    · simpa only [Course, stage] using course
  | judged stage live nothing ended ending =>
    exact { inv with course := .inr (inv.judged stage nothing ended ending) }
  | cancelled =>
    have course := inv.course
    refine { inv with course := ?_ }
    dsimp only [Course] at course ⊢
    split at course
    · exact course
    · exact course
    · exact course.imp_left fun gaveUp => ⟨gaveUp.1, rfl⟩
  | wrote write =>
    have course := inv.course
    refine { inv with capacity := ?_, complaint := ?_, ended := ?_, course := ?_ }
    · exact (Pipes.write?_capacity write).trans inv.capacity
    · exact (Pipes.write?_owed write .stderr) ▸ inv.complaint
    · intro ended
      obtain ⟨w, rest, pending, -⟩ := Pipes.write?_cases write
      rw [(inv.ended ended).1] at pending
      cases pending
    · simp only [Course, Pipes.write?_owed write] at course ⊢
      exact course
  | ended nothing unended ends =>
    have course := inv.course
    refine { inv with ended := fun _ => ⟨nothing, ends⟩, course := ?_ }
    dsimp only [Course] at course ⊢
    split at course
    · exact course
    · exact ⟨rfl, course.2⟩
    · exact course

theorem stage_of_result (h : s.result? = some result) : s.stage = .finished result := by
  unfold State.result? at h
  split at h
  · rename_i stage
    cases h
    exact stage
  · cases h

theorem uncancelled_step (live : s.cancelled = false) (other : a ≠ .cancel)
    (h : step? s a = some t) : t.cancelled = false := by
  cases step?_move h with
  | cancelled => exact absurd rfl other
  | gaveUp | absorbed | found | exhausted | foundLast | collected | judged | wrote | ended => exact live

theorem uncancelled_replay (live : s.cancelled = false) (quiet : .cancel ∉ actions)
    (run : replay? step? s actions = some t) : t.cancelled = false :=
  replay?_preserves (P := fun u => u.cancelled = false) run live fun mem live taken =>
    uncancelled_step live (fun eq => quiet (eq ▸ mem)) taken

theorem kept_replay (begins : Initial b) (run : replay? step? b actions = some t) : Kept b t :=
  replay?_preserves run (kept_initial begins) fun _ inv taken => inv.step taken

/-- A client that nobody cancelled is answered. -/
theorem Kept.answered (inv : Kept b s) (live : s.cancelled = false) (finished : s.result? = some result) :
    ∃ chunks, chunks.flatten = b.script .stdout ∧ b.answer? chunks = some result := by
  have course := inv.course
  simp only [Course, stage_of_result finished] at course
  rcases course with ⟨-, cancelled⟩ | answered
  · rw [live] at cancelled
    cases cancelled
  · exact answered

-- ---------------------------------------------------------------------------
-- Coming to an end
-- ---------------------------------------------------------------------------

/-- More than the steps of the client that lead to a result once everything is read. -/
def Stage.weight : Stage → Nat
  | .watching _ => 2
  | .collecting => 1
  | .finished _ => 0

/-- More than the steps that are left if nobody cancels. -/
def State.toil (s : State) : Nat :=
  s.pipes.debt + (if s.ended then 0 else 1) + s.stage.weight

theorem poll_toil (h : poll? s = some t) : t.toil < s.toil := by
  have positive : 0 < readSize := Nat.succ_pos _
  cases poll?_move h with
  | gaveUp running =>
    have weight : 0 < s.stage.weight := by
      cases stage : s.stage with
      | watching | collecting => exact Nat.succ_pos _
      | finished => simp [State.result?, stage] at running
    exact Nat.add_lt_add_left weight _
  | absorbed stage live something =>
    have less : (s.pipes.drop .stdout readSize).debt < s.pipes.debt :=
      Pipes.drop_debt positive something
    simp only [State.toil, stage, Stage.weight]
    omega
  | found stage live something =>
    have less : (s.pipes.drop .stdout readSize).debt < s.pipes.debt :=
      Pipes.drop_debt positive something
    simp only [State.toil, stage, Stage.weight]
    omega
  | exhausted stage | foundLast stage | judged stage =>
    simp only [State.toil, stage, Stage.weight]
    omega
  | collected stage live something =>
    have some := List.length_pos_iff.mpr something
    have less : (s.pipes.drop .stderr s.pipes.stderr.length).debt < s.pipes.debt :=
      Pipes.drop_debt some something
    simp only [State.toil, stage, Stage.weight]
    omega

/-- What is picked when nobody cancels is possible and brings the end nearer. -/
theorem schedule_never (picked : schedule .never s = some a) :
    a ≠ .cancel ∧ ∃ t, step? s a = some t ∧ t.toil < s.toil := by
  simp only [schedule, reduceCtorEq, false_and, if_false] at picked
  split_ifs at picked with done polls writes ends
  · cases picked
    obtain ⟨t, possible⟩ := Option.isSome_iff_exists.mp polls
    exact ⟨nofun, t, possible, poll_toil possible⟩
  · cases picked
    obtain ⟨pipes, write⟩ := Option.isSome_iff_exists.mp writes
    have less := Pipes.write?_debt write
    refine ⟨nofun, { s with pipes }, Option.map_eq_some_iff.mpr ⟨pipes, write, rfl⟩, ?_⟩
    simp only [State.toil]
    omega
  · cases picked
    obtain ⟨t, possible⟩ := Option.isSome_iff_exists.mp ends
    refine ⟨nofun, t, possible, ?_⟩
    cases step?_move possible with
    | ended nothing unended => simp [State.toil, unended]

/-- The client watches for more of standard output while its runtime waits for room in standard error. -/
structure Deadlocked (s : State) : Prop where
  watching : ∃ i, s.stage = .watching i
  silent : s.pipes.stdout = []
  blocked : ∃ w rest, s.pipes.pending = w :: rest ∧ w.stream = .stderr ∧ w.octets ≠ [] ∧
    s.pipes.capacity ≤ s.pipes.stderr.length

/-- Where nothing can be done without a cancellation, the client has its result, or the two wait for each
    other. -/
theorem Kept.stuck (inv : Kept b s) (rests : schedule .never s = none) (live : s.cancelled = false)
    (ends : b.ending.isSome) (room : 0 < b.pipes.capacity) :
    (∃ result, s.result? = some result) ∨ Deadlocked s := by
  simp only [schedule, reduceCtorEq, false_and, if_false] at rests
  split_ifs at rests with done polls writes finishes
  · exact .inl (Option.isSome_iff_exists.mp done)
  right
  have ending : s.ending.isSome := inv.ending ▸ ends
  have waits : poll? s = none := Option.not_isSome_iff_eq_none.mp polls
  have watching : (∃ i, s.stage = .watching i) ∧ s.pipes.stdout = [] ∧ s.ended = false := by
    cases stage : s.stage with
    | finished result => simp [State.result?, stage] at done
    | watching i =>
      simp only [poll?, stage, live, Bool.false_eq_true, if_false] at waits
      split_ifs at waits with something ended
      exact ⟨⟨i, rfl⟩, by simpa using something, Bool.eq_false_iff.mpr ended⟩
    | collecting =>
      -- Behind its end the runtime keeps nobody waiting.
      have course := inv.course
      simp only [Course, stage] at course
      obtain ⟨status, known⟩ := Option.isSome_iff_exists.mp ending
      simp only [poll?, stage, live, Bool.false_eq_true, if_false, course.1, known] at waits
      split_ifs at waits
  obtain ⟨watching, silent, unended⟩ := watching
  rcases Pipes.write?_eq_none (Option.not_isSome_iff_eq_none.mp writes) with
    nothing | ⟨w, rest, pending, some, full⟩
  · simp [step?, nothing, unended, ending] at finishes
  · cases stream : w.stream with
    | stdout =>
      simp only [stream, Pipes.held, silent, List.length_nil, inv.capacity] at full
      omega
    | stderr =>
      simp only [stream, Pipes.held] at full
      exact ⟨watching, silent, w, rest, pending, stream, some, full⟩

/-- A runtime that waits for room in standard error writes more to it than that pipe holds. -/
theorem Kept.overfull (inv : Kept b s) (deadlock : Deadlocked s) :
    b.pipes.capacity < (b.script .stderr).length := by
  obtain ⟨w, rest, pending, stream, some, full⟩ := deadlock.blocked
  have length := List.length_pos_iff.mpr some
  have cut : Write.on .stderr (w :: rest) = w.octets ++ Write.on .stderr rest :=
    stream ▸ Write.on_cons_self
  rw [← inv.complaint, ← inv.capacity, Pipes.owed, pending, cut]
  simp only [Pipes.held, List.length_append]
  omega

/-- A client that nobody cancels comes to its result, or to where it and its runtime wait for each other. -/
theorem Kept.settles (inv : Kept b s) (live : s.cancelled = false) (ends : b.ending.isSome)
    (room : 0 < b.pipes.capacity) :
    ∃ later t, .cancel ∉ later ∧ replay? step? s later = some t ∧ Kept b t ∧
      ((∃ result, t.result? = some result) ∨ Deadlocked t) := by
  have keeps : ∀ {u : State} {c : Action}, Kept b u ∧ u.cancelled = false →
      schedule .never u = some c →
        ∃ v, step? u c = some v ∧ (Kept b v ∧ v.cancelled = false) ∧ v.toil < u.toil := by
    intro u c holds picked
    obtain ⟨other, v, taken, less⟩ := schedule_never picked
    exact ⟨v, taken, ⟨holds.1.step taken, uncancelled_step holds.2 other taken⟩, less⟩
  obtain ⟨later, run, picks⟩ := drive_replay step? (schedule .never) s.toil s
  obtain ⟨⟨kept, still⟩, rests⟩ := drive_settles State.toil keeps ⟨inv, live⟩ (Nat.le_refl s.toil)
  have quiet : .cancel ∉ later := by
    intro mem
    obtain ⟨u, picked⟩ := picks _ mem
    exact (schedule_never picked).1 rfl
  exact ⟨later, _, quiet, run, kept, kept.stuck rests still ends room⟩

/-- A client whose runtime ends by itself and finds room for what it writes to standard error comes to a
    result. -/
theorem Kept.completes (inv : Kept b s) (live : s.cancelled = false) (ends : b.ending.isSome)
    (room : 0 < b.pipes.capacity) (fits : (b.script .stderr).length ≤ b.pipes.capacity) :
    ∃ later t result, .cancel ∉ later ∧ replay? step? s later = some t ∧ t.result? = some result := by
  obtain ⟨later, t, quiet, run, kept, ⟨result, finished⟩ | deadlock⟩ := inv.settles live ends room
  · exact ⟨later, t, result, quiet, run, finished⟩
  · exact absurd (kept.overfull deadlock) (Nat.not_lt.mpr fits)

/-- What a question is answered that nobody cancels and that can be asked: what the client says that begins
    with the runtime just started. -/
theorem ask?_answer {id : String} {host : Host} {launcher : Launcher} {behaviour : Behaviour}
    (free : host.obstacle? (launcher.command (args id)) = none)
    (answer : (ask? id host launcher behaviour .never).1 = some result) :
    ∃ chunks, chunks.flatten = Write.on .stdout (behaviour.output []) ∧
      (start launcher.program id behaviour).answer? chunks = some result := by
  simp only [ask?, free] at answer
  obtain ⟨actions, run, picks⟩ := drive_replay step? (schedule .never)
    (8 * ((behaviour.output []).length
      + ((behaviour.output []).flatMap (·.octets)).length / readSize + 8))
    (start launcher.program id behaviour)
  have quiet : .cancel ∉ actions := by
    intro mem
    obtain ⟨u, picked⟩ := picks _ mem
    exact (schedule_never picked).1 rfl
  have kept := kept_replay ⟨_, _, _, _, _, _, rfl⟩ run
  exact kept.answered (uncancelled_replay rfl quiet run) answer

-- ---------------------------------------------------------------------------
-- Runs
-- ---------------------------------------------------------------------------

/-- The query whose runtime does the same. -/
def State.query (b : State) : Query.State where
  program := b.program
  obstacle := none
  ending := b.ending
  pipes := b.pipes

/-- A question about usage that nobody cancels, with a runtime that does not end well. It is answered with
    the first event, or, if there is none, with a failure that gives the decoded end and of all that was
    printed only standard error; a query reports standard output in front of it. An answer comes in any
    case unless the runtime has to wait for room in standard error. -/
theorem failing_usage {status : WaitStatus} (begins : Initial b) (live : b.cancelled = false)
    (quiet : .cancel ∉ actions) (ending : b.ending = some status) (bad : status.code? ≠ some 0)
    (run : replay? step? b actions = some t) :
    (∀ result, t.result? = some result → ∃ chunks, chunks.flatten = b.script .stdout ∧
      ((∃ e rest, Intake.events (Intake.session chunks).1 = e :: rest ∧
          result = .ok (e.data.getD {})) ∨
        Intake.events (Intake.session chunks).1 = [] ∧
          result = .error (.command b.program (.ofWait status) (b.script .stderr).lossyText))) ∧
    (∀ α (q : Query α), q.settled? b.query
      = some (.error (.command b.program (.ofWait status)
          (b.script .stdout ++ b.script .stderr).lossyText))) ∧
    (0 < b.pipes.capacity → (b.script .stderr).length ≤ b.pipes.capacity → ∃ later u result,
      .cancel ∉ later ∧ replay? step? t later = some u ∧ u.result? = some result) := by
  have kept := kept_replay begins run
  have still := uncancelled_replay live quiet run
  refine ⟨fun result finished => ?_, fun α q => ?_, kept.completes still (ending ▸ rfl)⟩
  · obtain ⟨chunks, whole, answer⟩ := kept.answered still finished
    exact ⟨chunks, whole, answer?_badly ending bad answer⟩
  · simp [Query.settled?, State.query, ending, bad, State.script]

/-- Noise on standard output and a message on standard error of a runtime that is killed. -/
def noisy : State where
  program := "runc"
  id := "c1"
  pipes := { pending := [⟨.stdout, Bytes.ofString "###"⟩, ⟨.stderr, Bytes.ofString "boom"⟩] }
  ending := some (.signalled 9)

theorem failing_usage_noisy :
    ∃ t, replay? step? noisy
        [.write, .write, .poll, .write, .write, .finish, .poll, .poll, .poll] = some t ∧
      (∃ chunks, chunks.flatten = Bytes.ofString "###" ∧
        Intake.events (Intake.session chunks).1 = []) ∧
      t.result? = some (.error (.command "runc" ⟨137, some .kill⟩ "boom")) ∧
      Query.list.settled? noisy.query
        = some (.error (.command "runc" ⟨137, some .kill⟩ "###boom")) := by
  have ends : (replay? step? noisy
        [.write, .write, .poll, .write, .write, .finish, .poll, .poll, .poll]).map (·.result?)
      = some (some (.error (.command "runc" ⟨137, some .kill⟩ "boom"))) := by
    decide +kernel
  obtain ⟨t, run, finished⟩ := Option.map_eq_some_iff.mp ends
  obtain ⟨answers, asked, -⟩ :=
    failing_usage (b := noisy) ⟨_, _, _, _, _, _, rfl⟩ rfl (by simp) rfl (by decide) run
  refine ⟨t, run, ?_, finished, ?_⟩
  · obtain ⟨chunks, whole, ⟨e, rest, -, impossible⟩ | ⟨none, -⟩⟩ := answers _ finished
    · cases impossible
    · exact ⟨chunks, whole, none⟩
  · rw [asked]
    decide +kernel

/-- A message that a failing runtime prints to standard output is lost, while a query reports it. -/
theorem usage_loses_stdout :
    ∃ t, replay? step?
        { program := "runc", id := "c1", pipes := { pending := [⟨.stdout, Bytes.ofString "boom"⟩] }
          ending := some (.exited 1) }
        [.write, .write, .poll, .finish, .poll, .poll] = some t ∧
      t.result? = some (.error (.command "runc" ⟨1, none⟩ "")) ∧
      Query.list.settled?
        { program := "runc", obstacle := none, ending := some (.exited 1)
          pipes := { pending := [⟨.stdout, Bytes.ofString "boom"⟩] } }
        = some (.error (.command "runc" ⟨1, none⟩ "boom")) := by
  have ends : (replay? step?
        { program := "runc", id := "c1", pipes := { pending := [⟨.stdout, Bytes.ofString "boom"⟩] }
          ending := some (.exited 1) }
        [.write, .write, .poll, .finish, .poll, .poll]).map (·.result?)
      = some (some (.error (.command "runc" ⟨1, none⟩ ""))) := by
    decide +kernel
  obtain ⟨t, run, finished⟩ := Option.map_eq_some_iff.mp ends
  refine ⟨t, run, finished, ?_⟩
  decide +kernel

end Overseer.Usage
