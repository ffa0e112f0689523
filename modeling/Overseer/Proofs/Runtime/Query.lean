-- SUMMARY: What every step of a query keeps: its verdict is on all that an undisturbed runtime wrote.
import Mathlib.Data.List.TakeWhile
import Overseer.Proofs.Json.Exact
import Overseer.Proofs.Runtime.Pipes
import Overseer.Proofs.Supervision.Verdict
import Overseer.Proofs.Transition
import Overseer.Runtime.Query

/-!
# Queries

What a client has read of a stream, followed by what its pipe still owes, is what the runtime writes to
it. A client reaches its verdict only behind the end of a runtime that nobody killed and with both pipes
empty, so its verdict is on everything that was written. A runtime is killed only by a client that has
given up, and such a client has its result already.
-/

namespace Overseer.Query

open Transition (replay? replay?_cons replay?_preserves)

variable {b s t : State} {a : Action} {actions : List Action} {stream : OutStream} {count : Nat}
  {result : Except Failure Bytes}

-- ---------------------------------------------------------------------------
-- Reading
-- ---------------------------------------------------------------------------

/-- What was read of a stream. -/
def State.printed (s : State) : OutStream → Bytes
  | .stdout => s.stdout
  | .stderr => s.stderr

@[simp] theorem take_program : (s.take stream count).program = s.program := by cases stream <;> rfl

@[simp] theorem take_obstacle : (s.take stream count).obstacle = s.obstacle := by cases stream <;> rfl

@[simp] theorem take_ending : (s.take stream count).ending = s.ending := by cases stream <;> rfl

@[simp] theorem take_stage : (s.take stream count).stage = s.stage := by cases stream <;> rfl

@[simp] theorem take_cancelled : (s.take stream count).cancelled = s.cancelled := by
  cases stream <;> rfl

@[simp] theorem take_ended : (s.take stream count).ended = s.ended := by cases stream <;> rfl

@[simp] theorem take_killed : (s.take stream count).killed = s.killed := by cases stream <;> rfl

@[simp] theorem take_pipes : (s.take stream count).pipes = s.pipes.drop stream count := by
  cases stream <;> rfl

theorem take_printed_self :
    (s.take stream count).printed stream = s.printed stream ++ (s.pipes.held stream).take count := by
  cases stream <;> rfl

theorem take_printed_of_ne {other : OutStream} (ne : other ≠ stream) :
    (s.take stream count).printed other = s.printed other := by
  cases stream <;> cases other <;> first | rfl | exact absurd rfl ne

-- ---------------------------------------------------------------------------
-- Steps
-- ---------------------------------------------------------------------------

/-- All that a step can do. -/
inductive Move (s : State) : Action → State → Prop where
  -- The client.
  | began (stage : s.stage = .unstarted) : Move s .poll { s with stage := .looking }
  | gaveUp (stage : s.stage = .looking) (cancelled : s.cancelled) :
      Move s .poll { s with stage := .finished (.error .cancelled), killed := s.alive }
  | attended (stage : s.stage = .looking) (live : s.cancelled = false) :
      Move s .poll { s with stage := .attending }
  | refused {why : SystemError} (stage : s.stage = .attending) (obstacle : s.obstacle = some why) :
      Move s .poll { s with stage := .finished (.error (.start s.program why)) }
  | judged {status : WaitStatus} (stage : s.stage = .attending) (started : s.obstacle = none)
      (ended : s.ended = some status) (empty : s.pipes.isEmpty) :
      Move s .poll { s with
        stage := .finished (Verdict.ofOutput s.program status s.stdout s.stderr) }
  | read {stream : OutStream} {count : Nat} (stage : s.stage = .attending) (positive : 0 < count)
      (most : count ≤ (s.pipes.held stream).length) : Move s (.read stream count) (s.take stream count)
  | rested (stage : s.stage = .attending) : Move s .rest { s with stage := .looking }
  -- The caller.
  | cancelled : Move s .cancel { s with cancelled := true }
  -- The runtime.
  | wrote {pipes : Pipes} (alive : s.alive) (write : s.pipes.write? = some pipes) :
      Move s .write { s with pipes }
  | ended (alive : s.alive) (nothing : s.pipes.pending = []) (ending : s.ending.isSome) :
      Move s .finish { s with ended := s.ending }
  | died (alive : s.alive) (killed : s.killed) :
      Move s .die { s with ended := some (.signalled Signal.kill.number) }

theorem poll?_move (h : poll? s = some t) : Move s .poll t := by
  unfold poll? at h
  split at h
  · rename_i stage
    cases h
    exact .began stage
  · rename_i stage
    split_ifs at h with cancelled
    · cases h
      exact .gaveUp stage cancelled
    · cases h
      exact .attended stage (Bool.eq_false_iff.mpr cancelled)
  · rename_i stage
    split at h
    · rename_i obstacle
      cases h
      exact .refused stage obstacle
    · rename_i started ended
      obtain ⟨empty, ⟨⟩⟩ := Option.ite_none_right_eq_some.mp h
      exact .judged stage started ended empty
    · cases h
  · cases h

theorem step?_move (h : step? s a = some t) : Move s a t := by
  cases a with
  | poll => exact poll?_move h
  | read =>
    simp only [step?] at h
    split at h
    · rename_i stage
      obtain ⟨possible, ⟨⟩⟩ := Option.ite_none_right_eq_some.mp h
      exact .read stage possible.1 possible.2
    · cases h
  | rest =>
    simp only [step?] at h
    split at h
    · rename_i stage
      cases h
      exact .rested stage
    · cases h
  | cancel =>
    cases h
    exact .cancelled
  | write =>
    obtain ⟨alive, more⟩ := Option.ite_none_right_eq_some.mp h
    obtain ⟨pipes, write, ⟨⟩⟩ := Option.map_eq_some_iff.mp more
    exact .wrote alive write
  | finish =>
    obtain ⟨possible, ⟨⟩⟩ := Option.ite_none_right_eq_some.mp h
    simp only [Bool.and_eq_true, List.isEmpty_iff] at possible
    exact .ended possible.1.1 possible.1.2 possible.2
  | die =>
    obtain ⟨possible, ⟨⟩⟩ := Option.ite_none_right_eq_some.mp h
    simp only [Bool.and_eq_true] at possible
    exact .died possible.1 possible.2

-- ---------------------------------------------------------------------------
-- The verdict
-- ---------------------------------------------------------------------------

/-- The states in which a query begins, cancelled before or not. -/
def Initial (b : State) : Prop :=
  ∃ program obstacle ending capacity pending cancelled,
    b = { program, obstacle, ending, pipes := { capacity, pending }, cancelled }

/-- The result of a query that is not cancelled, as it can be told when it begins. There is none if the
    runtime never ends. -/
def State.verdict? (b : State) : Option (Except Failure Bytes) :=
  match b.obstacle with
  | some why => some (.error (.start b.program why))
  | none => b.ending.map fun status =>
    Verdict.ofOutput b.program status (Write.on .stdout b.pipes.pending)
      (Write.on .stderr b.pipes.pending)

/-- What holds of a query that began in `b`. -/
structure Kept (b s : State) : Prop where
  program : s.program = b.program
  obstacle : s.obstacle = b.obstacle
  ending : s.ending = b.ending
  capacity : s.pipes.capacity = b.pipes.capacity
  balance : ∀ stream, s.printed stream ++ s.pipes.owed stream = Write.on stream b.pipes.pending
  ended : s.ended.isSome → s.killed ∨ s.pipes.pending = [] ∧ s.ended = b.ending
  killed : s.killed → ∃ result, s.stage = .finished result
  finished : ∀ result, s.stage = .finished result →
    result = .error .cancelled ∧ s.cancelled ∨ b.verdict? = some result

theorem kept_initial (h : Initial b) : Kept b b := by
  obtain ⟨program, obstacle, ending, capacity, pending, cancelled, rfl⟩ := h
  refine ⟨rfl, rfl, rfl, rfl, ?_, nofun, nofun, nofun⟩
  rintro (_ | _) <;> rfl

theorem ended_of_alive (alive : s.alive) : s.ended = none := by
  unfold State.alive at alive
  split at alive
  · cases alive
  · simp only [Bool.and_eq_true, Option.isNone_iff_eq_none] at alive
    exact alive.2

/-- A runtime is left alone as long as its client has no result. -/
theorem Kept.unkilled (inv : Kept b s) (running : ∀ result, s.stage ≠ .finished result) :
    ¬ s.killed := by
  intro killed
  obtain ⟨result, finished⟩ := inv.killed killed
  exact running result finished

/-- A runtime that ended unkilled has written everything and ended as it does by itself. -/
theorem Kept.natural (inv : Kept b s) (running : ∀ result, s.stage ≠ .finished result)
    (ended : s.ended.isSome) : s.pipes.pending = [] ∧ s.ended = b.ending :=
  (inv.ended ended).resolve_left (inv.unkilled running)

theorem Kept.verdict {status : WaitStatus} (inv : Kept b s)
    (running : ∀ result, s.stage ≠ .finished result) (started : s.obstacle = none)
    (ended : s.ended = some status) (empty : s.pipes.isEmpty) :
    b.verdict? = some (Verdict.ofOutput s.program status s.stdout s.stderr) := by
  obtain ⟨nothing, asItself⟩ := inv.natural running (ended ▸ rfl)
  have whole : ∀ stream, Write.on stream b.pipes.pending = s.printed stream := by
    intro stream
    rw [← inv.balance stream, Pipes.owed_of_empty empty nothing, List.append_nil]
  have ending : b.ending = some status := asItself ▸ ended
  simp only [State.verdict?, ← inv.obstacle, started, ending, whole, inv.program, Option.map_some]
  rfl

theorem Kept.take (inv : Kept b s) (stage : s.stage = .attending) :
    Kept b (s.take stream count) where
  program := take_program.trans inv.program
  obstacle := take_obstacle.trans inv.obstacle
  ending := take_ending.trans inv.ending
  capacity := by simp [Pipes.drop, inv.capacity]
  balance other := by
    rw [take_pipes]
    by_cases same : other = stream
    · subst same
      rw [take_printed_self, List.append_assoc, Pipes.drop_owed_self]
      exact inv.balance other
    · rw [take_printed_of_ne same, Pipes.drop_owed_of_ne same]
      exact inv.balance other
  ended ended := by
    simp only [take_ended, take_killed, take_pipes, Pipes.drop, Pipes.hold_pending] at ended ⊢
    exact inv.ended ended
  killed := by
    simp only [take_killed, take_stage]
    exact inv.killed
  finished result finished := by
    rw [take_stage, stage] at finished
    cases finished

theorem Kept.step (inv : Kept b s) (h : step? s a = some t) : Kept b t := by
  cases step?_move h with
  | began stage | attended stage | rested stage =>
    exact { inv with
      killed := fun killed => absurd killed (inv.unkilled (by simp [stage]))
      finished := nofun }
  | gaveUp stage cancelled =>
    exact { inv with
      ended := fun ended => .inr (inv.natural (by simp [stage]) ended)
      killed := fun _ => ⟨_, rfl⟩
      finished := fun result finished => by cases finished; exact .inl ⟨rfl, cancelled⟩ }
  | refused stage obstacle =>
    have verdict := obstacle
    rw [inv.obstacle] at verdict
    refine { inv with killed := fun _ => ⟨_, rfl⟩, finished := fun result finished => ?_ }
    cases finished
    exact .inr (by simp [State.verdict?, verdict, inv.program])
  | judged stage started ended empty =>
    refine { inv with killed := fun _ => ⟨_, rfl⟩, finished := fun result finished => ?_ }
    cases finished
    exact .inr (inv.verdict (by simp [stage]) started ended empty)
  | read stage => exact inv.take stage
  | cancelled =>
    refine { inv with finished := fun result finished => ?_ }
    rcases inv.finished result finished with ⟨cancelled, -⟩ | verdict
    · exact .inl ⟨cancelled, rfl⟩
    · exact .inr verdict
  | wrote alive write =>
    have unended := ended_of_alive alive
    refine { inv with capacity := ?_, balance := fun stream => ?_, ended := fun ended => ?_ }
    · exact (Pipes.write?_capacity write).trans inv.capacity
    · change s.printed stream ++ _ = _
      rw [Pipes.write?_owed write]
      exact inv.balance stream
    · rw [unended] at ended
      cases ended
  | ended alive nothing => exact { inv with ended := fun _ => .inr ⟨nothing, inv.ending⟩ }
  | died alive killed => exact { inv with ended := fun _ => .inl killed }

theorem stage_of_result (h : s.result? = some result) : s.stage = .finished result := by
  unfold State.result? at h
  split at h
  · rename_i stage
    cases h
    exact stage
  · cases h

-- ---------------------------------------------------------------------------
-- Cancelled before, cancelled in vain
-- ---------------------------------------------------------------------------

/-- A query that was cancelled before it looked for the first time. -/
def Forsworn (s : State) : Prop :=
  s.cancelled ∧
    (s.stage = .unstarted ∨ s.stage = .looking ∨ s.stage = .finished (.error .cancelled))

theorem Forsworn.of_finished (h : Forsworn s) (finished : s.stage = .finished result) :
    result = .error .cancelled := by
  rcases h.2 with stage | stage | stage <;> rw [stage] at finished <;> cases finished
  rfl

theorem Forsworn.inattentive (h : Forsworn s) : s.stage ≠ .attending := by
  rcases h.2 with stage | stage | stage <;> rw [stage] <;> exact nofun

theorem Forsworn.step (inv : Forsworn s) (h : step? s a = some t) : Forsworn t := by
  cases step?_move h with
  | began => exact ⟨inv.1, .inr (.inl rfl)⟩
  | gaveUp => exact ⟨inv.1, .inr (.inr rfl)⟩
  | attended stage live =>
    have cancelled := inv.1
    rw [live] at cancelled
    cases cancelled
  | refused stage | judged stage | read stage | rested stage => exact absurd stage inv.inattentive
  | cancelled => exact ⟨rfl, inv.2⟩
  | wrote | ended | died => exact inv

theorem cancelled_step (cancelled : s.cancelled) (h : step? s a = some t) : t.cancelled := by
  cases step?_move h with
  | cancelled => rfl
  | read => exact take_cancelled.trans cancelled
  | began | gaveUp | attended | refused | judged | rested | wrote | ended | died => exact cancelled

theorem uncancelled_step (live : s.cancelled = false) (other : a ≠ .cancel)
    (h : step? s a = some t) : t.cancelled = false := by
  cases step?_move h with
  | cancelled => exact absurd rfl other
  | read => exact take_cancelled.trans live
  | began | gaveUp | attended | refused | judged | rested | wrote | ended | died => exact live

/-- A query that nobody has cancelled. -/
def State.spared (s : State) : State := { s with cancelled := false }

@[simp] theorem spared_alive : s.spared.alive = s.alive := rfl

/-- The answer to a query that nobody cancels. -/
def settled? {α : Type} (q : Query α) (b : State) : Option (Except Failure α) :=
  match b.obstacle with
  | some why => some (.error (.start b.program why))
  | none => b.ending.map fun status =>
    let stdout := Write.on .stdout b.pipes.pending
    let stderr := Write.on .stderr b.pipes.pending
    if status.code? = some 0 then q.decode stdout
    else .error (.command b.program (.ofWait status) (stdout ++ stderr).lossyText)

theorem answer_ofOutput {α : Type} (q : Query α) (program : String) (status : WaitStatus)
    (stdout stderr : Bytes) :
    q.answer (Verdict.ofOutput program status stdout stderr)
      = if status.code? = some 0 then q.decode stdout
        else .error (.command program (.ofWait status) (stdout ++ stderr).lossyText) := by
  split_ifs with zero
  · rw [Verdict.ofOutput_good ((ExitStatus.success_iff_code status).mpr zero)]
    rfl
  · rw [Verdict.ofOutput_bad (ExitStatus.failure_of_code zero)]
    rfl

theorem settled?_eq {α : Type} (q : Query α) (b : State) : q.settled? b = b.verdict?.map q.answer := by
  unfold settled? State.verdict?
  split
  · rfl
  · cases b.ending with
    | none => rfl
    | some status => simp [answer_ofOutput]

/-- A list that is `null` is read as an empty one. -/
theorem listDocument_null {α : Type} (context : String) (d : Json.Decoder α) {before after : Bytes}
    (front : ∀ c ∈ before, Json.isBlank c) (behind : ∀ c ∈ after, Json.isBlank c) :
    listDocument context d (before ++ Bytes.ofString "null" ++ after) = .ok [] := by
  have letters : Bytes.ofString "null" = 0x6E :: Json.nullTail := rfl
  have starts : Json.skipBlanks (before ++ 0x6E :: (Json.nullTail ++ after))
      = 0x6E :: (Json.nullTail ++ after) :=
    List.dropWhile_append_of_pos front
  have read : Json.word Json.nullTail (Json.nullTail ++ after) = .ok ((), after) :=
    (Json.exact_word Json.nullTail).1 after
  have ends : Json.skipBlanks after = [] := List.dropWhile_eq_nil_iff.mpr behind
  have found : (Json.Decoder.option (.list d)).ofText (before ++ Bytes.ofString "null" ++ after)
      = .ok none := by
    rw [letters, List.append_assoc, List.cons_append]
    simp [Json.Decoder.ofText, Json.Reader.document, Json.Decoder.option, Json.Reader.leading, starts,
      read, ends, Json.Answer.map]
  simp only [listDocument, document, found]
  rfl

end Overseer.Query
