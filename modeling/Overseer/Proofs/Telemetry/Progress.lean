-- SUMMARY: Every call of an intake keeps its buffer honest, every outcome makes progress, and every drain ends.
import Overseer.Proofs.Telemetry.Failures

/-!
# Progress

An intake can be fed, asked for an outcome, and told that its stream has ended, in any order. Its buffer is
always the end of what it was fed. What an outcome does to the buffer depends on the outcome (`Honest`), and
all but `needMore` shorten it, so whoever asks until more is needed gets at most one outcome for each octet.
-/

namespace Overseer.Telemetry

open Json (skipBlanks)

variable {i j : Intake} {o : Outcome} {s : Bytes}

-- ---------------------------------------------------------------------------
-- What an outcome does to the buffer
-- ---------------------------------------------------------------------------

/-- How an outcome may change the buffer. -/
structure Sighting.Honest (x : Sighting) : Prop where
  /-- All but `needMore` take something off its front. -/
  shrinks : x.outcome ≠ .needMore → ∃ taken, taken ≠ [] ∧ x.buffer = taken ++ x.left
  /-- What is malformed, and no complete object, is dropped up to a brace. -/
  resumes : x.fails → x.isObject = false → x.left = [] ∨ ∃ t, x.left = 0x7B :: t
  /-- Behind the first octet, no brace is dropped in that way. -/
  spares : x.fails → x.isObject = false → ∃ b passed, x.buffer = b :: passed ++ x.left ∧ Braceless passed
  /-- White space that nothing follows is dropped when more is needed, and nothing else. -/
  rests : x.outcome = .needMore → x.left = x.buffer ∨ x.left = [] ∧ ∀ b ∈ x.buffer, Json.isBlank b

namespace Intake

/-- A search drops the first octet and what stands in front of the next brace. -/
theorem resync_split (nonempty : s ≠ []) : ∃ b passed, s = b :: passed ++ resync s ∧ Braceless passed := by
  obtain ⟨b, t, rfl⟩ := List.exists_cons_of_ne_nil nonempty
  refine ⟨b, t.takeWhile (· ≠ 0x7B), ?_, braceless_takeWhile t⟩
  rw [resync, List.tail_cons, List.cons_append, List.takeWhile_append_dropWhile]

/-- Needing more, an intake waits or drops white space. -/
theorem Takes.rests (h : i.Takes .needMore j) :
    j.buffer = i.buffer ∨ j.buffer = [] ∧ ∀ b ∈ i.buffer, Json.isBlank b := by
  cases h with
  | blank blank => exact .inr ⟨rfl, List.dropWhile_eq_nil_iff.mp blank⟩
  | wait => exact .inl rfl
  | object _ _ _ more | pass _ _ _ more => exact absurd rfl more

theorem honest_next (fed : Nat) (h : i.next = (o, j)) : Sighting.Honest ⟨fed, i.buffer, o, j.buffer⟩ where
  shrinks more := by
    obtain ⟨taken, eq⟩ := (next_takes h).suffix
    refine ⟨taken, ?_, eq.symm⟩
    rintro rfl
    exact absurd (next_length h more) (by rw [← eq]; exact Nat.lt_irrefl _)
  resumes fails broken := by
    cases o with
    | needMore | event => cases fails
    | malformed why =>
      obtain ⟨b, t, -, ⟨object, -⟩ | ⟨-, rfl⟩⟩ := next_malformed h
      · exact absurd (broken.symm.trans object) nofun
      · exact search_cases i.buffer.tail
  spares fails broken := by
    cases o with
    | needMore | event => cases fails
    | malformed why =>
      obtain ⟨b, t, start, ⟨object, -⟩ | ⟨-, rfl⟩⟩ := next_malformed h
      · exact absurd (broken.symm.trans object) nofun
      · exact resync_split (ne_nil_of_skipBlanks start)
  rests none := by
    subst none
    exact (next_takes h).rests

-- ---------------------------------------------------------------------------
-- Draining
-- ---------------------------------------------------------------------------

/-- What holds where more is needed, and of every intake whose next outcome leads to one of which it holds. -/
theorem drain_induction {P : Intake → Prop} (rest : ∀ {i j}, i.next = (.needMore, j) → P i)
    (more : ∀ {i j o}, i.next = (o, j) → o ≠ .needMore → P j → P i) (i : Intake) : P i :=
  sightings_induction 0 (P := fun i _ => P i) rest more i

/-- Every outcome of a drain has taken an octet of its own. -/
theorem drain_length (i : Intake) : i.drain.1.length + i.drain.2.buffer.length ≤ i.buffer.length := by
  induction i using drain_induction with
  | rest next =>
    rw [drain_needMore next, List.length_nil, Nat.zero_add]
    exact (next_takes next).suffix.length_le
  | more next some ih =>
    have shorter := next_length next some
    simp only [drain_more next some, List.length_cons]
    omega

theorem needMore_notMem_drain (i : Intake) : .needMore ∉ i.drain.1 := by
  induction i using drain_induction with
  | rest next =>
    rw [drain_needMore next]
    exact List.not_mem_nil
  | more next some ih =>
    rw [drain_more next some]
    exact List.not_mem_cons_of_ne_of_not_mem some.symm ih

-- ---------------------------------------------------------------------------
-- Calls
-- ---------------------------------------------------------------------------

/-- What an intake can be called for. -/
inductive Call where
  | feed (chunk : Bytes)
  | next
  | finish
  deriving DecidableEq

/-- What a call adds to the stream. -/
def Call.octets : Call → Bytes
  | feed chunk => chunk
  | next | finish => []

/-- What some calls have fed. -/
def Call.stream (calls : List Call) : Bytes := calls.flatMap octets

/-- The intake after a call. -/
def call (i : Intake) : Call → Intake
  | .feed chunk => i.feed chunk
  | .next => i.next.2
  | .finish => i.finish

def after (i : Intake) (calls : List Call) : Intake := calls.foldl call i

/-- What is seen at the calls for an outcome, `fed` octets having been fed before. -/
def asked (fed : Nat) (i : Intake) : List Call → List Sighting
  | [] => []
  | .next :: calls => ⟨fed, i.buffer, i.next.1, i.next.2.buffer⟩ :: asked fed i.next.2 calls
  | .feed chunk :: calls => asked (fed + chunk.length) (i.feed chunk) calls
  | .finish :: calls => asked fed i.finish calls

variable {c : Call} {calls later : List Call} {fed : Nat} {x : Sighting}

theorem after_append (i : Intake) (calls later : List Call) :
    i.after (calls ++ later) = (i.after calls).after later :=
  List.foldl_append

theorem asked_append (fed : Nat) (i : Intake) (calls later : List Call) :
    i.asked fed (calls ++ later)
      = i.asked fed calls ++ (i.after calls).asked (fed + (Call.stream calls).length) later := by
  induction calls generalizing fed i with
  | nil => rfl
  | cons c calls ih =>
    cases c with
    | feed chunk =>
      have sum : fed + chunk.length + (Call.stream calls).length
          = fed + (Call.stream (.feed chunk :: calls)).length := by
        rw [Nat.add_assoc, ← List.length_append]
        rfl
      simp only [List.cons_append, asked, ih, sum]
      rfl
    | next =>
      simp only [List.cons_append, asked, ih]
      rfl
    | finish =>
      simp only [List.cons_append, asked, ih]
      rfl

/-- Whatever the calls are, each outcome is honest. -/
theorem honest_asked (mem : x ∈ i.asked fed calls) : x.Honest := by
  fun_induction asked fed i calls with
  | case1 => cases mem
  | case2 fed i calls ih =>
    rcases List.mem_cons.mp mem with rfl | further
    · exact honest_next fed rfl
    · exact ih further
  | case3 fed i chunk calls ih | case4 fed i calls ih => exact ih mem

theorem call_suffix (i : Intake) (c : Call) : (i.call c).buffer <:+ i.buffer ++ c.octets := by
  cases c with
  | feed chunk => exact List.suffix_rfl
  | next =>
    rw [Call.octets, List.append_nil]
    exact (next_takes rfl).suffix
  | finish =>
    rw [Call.octets, List.append_nil]
    exact List.suffix_rfl

/-- The buffer is the end of what was buffered and of what was fed. -/
theorem after_suffix (i : Intake) (calls : List Call) :
    (i.after calls).buffer <:+ i.buffer ++ Call.stream calls := by
  induction calls generalizing i with
  | nil => exact ⟨[], (List.append_nil i.buffer).symm⟩
  | cons c calls ih =>
    obtain ⟨used, eq⟩ := call_suffix i c
    have longer : (i.call c).buffer ++ Call.stream calls <:+ i.buffer ++ Call.stream (c :: calls) := by
      refine ⟨used, ?_⟩
      rw [← List.append_assoc, eq, List.append_assoc]
      rfl
    exact (ih (i.call c)).trans longer

theorem call_ended (i : Intake) (c : Call) : (i.call c).ended ↔ i.ended ∨ .finish = c := by
  cases c with
  | feed chunk => simp [call, feed]
  | next =>
    have kept : i.next.2.ended = i.ended := next_ended rfl
    simp [call, kept]
  | finish => simp [call, finish]

theorem after_ended (i : Intake) (calls : List Call) :
    (i.after calls).ended ↔ i.ended ∨ .finish ∈ calls := by
  induction calls generalizing i with
  | nil => simp [after]
  | cons c calls ih =>
    change ((i.call c).after calls).ended ↔ _
    rw [ih, call_ended, or_assoc, List.mem_cons]

/-- Asking until more is needed is a drain, with one call for each outcome and one more. -/
theorem asked_drain (fed : Nat) (i : Intake) :
    (i.asked fed (List.replicate (i.drain.1.length + 1) .next)).map (·.outcome) = i.drain.1 ++ [.needMore] ∧
      i.after (List.replicate (i.drain.1.length + 1) .next) = i.drain.2 := by
  induction i using drain_induction with
  | @rest i j next => simp [drain_needMore next, asked, after, call, next]
  | @more i j o next some ih =>
    rw [drain_more next some, List.length_cons, List.replicate_succ]
    constructor
    · rw [asked, List.map_cons, next, ih.1, List.cons_append]
    · change i.next.2.after _ = _
      rw [next, ih.2]

/-- Whatever an intake is called for: its buffer is the end of what was fed, every outcome is honest, and a
    drain ends, with no more outcomes than there are octets. If the stream has ended, nothing is left. -/
theorem calls_progress (calls : List Call) :
    let i := after {} calls
    let asking := List.replicate (i.drain.1.length + 1) Call.next
    i.buffer <:+ Call.stream calls ∧
    (∀ x ∈ asked 0 {} calls, x.Honest) ∧
    (asked 0 {} (calls ++ asking)).map (·.outcome)
      = (asked 0 {} calls).map (·.outcome) ++ i.drain.1 ++ [.needMore] ∧
    after {} (calls ++ asking) = i.drain.2 ∧
    .needMore ∉ i.drain.1 ∧
    i.drain.1.length ≤ i.buffer.length ∧
    (.finish ∈ calls → i.drain.2.buffer = []) := by
  intro i asking
  obtain ⟨outcomes, drained⟩ := asked_drain (0 + (Call.stream calls).length) i
  refine ⟨after_suffix {} calls, fun x mem => honest_asked mem, ?_, ?_, needMore_notMem_drain i, ?_,
    fun finished => ?_⟩
  · rw [asked_append, List.map_append, outcomes, List.append_assoc]
  · rw [after_append, drained]
  · exact (Nat.le_add_right _ _).trans (drain_length i)
  · exact (drain_drains i).emptied ((after_ended {} calls).mpr (.inr finished))

/-- A broken list, then an object that never closes: the search stops at its brace, and the end drops it. -/
example : (asked 0 {} [.feed (Bytes.ofString "[1\x7d\x7b"), .next, .next, .finish, .next, .next]).map (·.left)
    = [[0x7B], [0x7B], [], []] := by decide +kernel

end Intake

end Overseer.Telemetry
