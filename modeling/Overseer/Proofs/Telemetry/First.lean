-- SUMMARY: Reading up to the first event finds the first of the events that a drained intake finds.
import Overseer.Proofs.Telemetry.Session
import Overseer.Telemetry.First

/-!
# First events

Reading up to the first event takes the same outcomes as draining an intake, and stops at the first event
among them. If there is none, it has drained the intake.
-/

namespace Overseer.Telemetry.Intake

variable {i : Intake} {skipped : List Noise}

theorem nextEvent_head (i : Intake) (skipped : List Noise) :
    (i.nextEvent skipped).1 = (events i.drain.1).head? := by
  fun_induction nextEvent skipped i with
  | case1 skipped i j next => simp [drain_needMore next, events]
  | case2 skipped i e j next => simp [drain_more next nofun, events_cons, Outcome.event?]
  | case3 skipped i why j next ih => simp [ih, drain_more next nofun, events_cons, Outcome.event?]

theorem nextEvent_drained (none : events i.drain.1 = []) :
    (i.nextEvent skipped).2.2 = i.drain.2 := by
  fun_induction nextEvent skipped i with
  | case1 skipped i j next => simp [drain_needMore next]
  | case2 skipped i e j next => simp [drain_more next nofun, events_cons, Outcome.event?] at none
  | case3 skipped i why j next ih =>
    simp only [drain_more next nofun, events_cons, Outcome.event?, Option.toList_none,
      List.nil_append] at none ⊢
    exact ih none

/-- What reading up to the first event comes to. -/
theorem nextEvent_cases (i : Intake) (skipped : List Noise) :
    (∃ e rest passed j, events i.drain.1 = e :: rest ∧ i.nextEvent skipped = (some e, passed, j)) ∨
      ∃ passed, events i.drain.1 = [] ∧ i.nextEvent skipped = (none, passed, i.drain.2) := by
  have head := nextEvent_head i skipped
  cases found : events i.drain.1 with
  | nil =>
    rw [found] at head
    exact .inr ⟨_, rfl, Prod.ext head (Prod.ext rfl (nextEvent_drained found))⟩
  | cons e rest =>
    rw [found] at head
    exact .inl ⟨e, rest, _, _, rfl, Prod.ext head rfl⟩

-- ---------------------------------------------------------------------------
-- Whole streams
-- ---------------------------------------------------------------------------

/-- What reading a stream comes to: the first event found in its chunks, else what the end of the stream
    still gives, unless the reader fails there. -/
theorem from_outcome (i : Intake) (skipped : List Noise) (count : Nat) (failing : Bool)
    (chunks : List Bytes) :
    (First.from i skipped count failing chunks).outcome =
      match events (i.feedAll chunks).1 with
      | e :: _ => .ok (some e)
      | [] =>
        if failing then .error ()
        else .ok (events (i.feedAll chunks).2.finish.drain.1).head? := by
  induction chunks generalizing i skipped count with
  | nil =>
    cases failing with
    | true => rfl
    | false =>
      have last := nextEvent_head i.finish skipped
      simp only [First.from, feedAll, events, Bool.false_eq_true, if_false, List.filterMap_nil]
      exact congrArg Except.ok last
  | cons chunk chunks ih =>
    rw [feedAll_cons]
    rcases nextEvent_cases (i.feed chunk) skipped with
      ⟨e, rest, passed, j, found, next⟩ | ⟨passed, none, next⟩
    · simp only [First.from, next, events_append, found, List.cons_append]
    · simp only [First.from, next, events_append, none, List.nil_append]
      exact ih (i.feed chunk).drain.2 passed (count + 1)

/-- A stream that ends is answered with the first of all its events, if it has one. -/
theorem answer_ended (chunks : List Bytes) (id : String) (why : SystemError) :
    (First.ofChunks chunks false).answer id why = .ok (events (session chunks).1).head? := by
  simp only [First.answer, First.ofChunks, from_outcome, session, events_append]
  cases events (feedAll {} chunks).1 with
  | nil => rfl
  | cons e rest => rfl

/-- A stream whose reader fails is answered with the first event found before, if there is one. -/
theorem answer_failed (chunks : List Bytes) (id : String) (why : SystemError) :
    (First.ofChunks chunks true).answer id why =
      match events (feedAll {} chunks).1 with
      | e :: _ => .ok (some e)
      | [] => .error (First.unreadable id why) := by
  simp only [First.answer, First.ofChunks, from_outcome]
  cases events (feedAll {} chunks).1 with
  | nil => rfl
  | cons e rest => rfl

end Overseer.Telemetry.Intake
