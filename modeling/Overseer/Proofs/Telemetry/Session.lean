-- SUMMARY: An intake that is fed in chunks finds the events of the whole text.
import Mathlib.Data.List.DropRight
import Overseer.Proofs.Telemetry.Scan

/-!
# Sessions

What an intake finds does not depend on how the stream is cut. The invariant of a session is a sum: the
events found so far, followed by the scan of what is buffered and of what is still to come, are the
scan of the whole stream. `next_scan` is the step, and it holds because no answer or refusal of the
reader is changed by what follows, as long as no number is too long to judge.
-/

namespace Overseer.Telemetry

open Json (ShortRuns skipBlanks)

variable {s t more rest : Bytes} {v : Json.Value}

/-! ## What a scan passes over -/

theorem braceless_of_blank (h : ∀ b ∈ s, Json.isBlank b) : Braceless s := by
  rintro b mem rfl
  exact absurd (h _ mem) (by decide)

theorem scan_skipBlanks (s more : Bytes) : scan (s ++ more) = scan (skipBlanks s ++ more) := by
  have blank : Braceless (s.takeWhile Json.isBlank) :=
    braceless_of_blank fun _ mem => List.mem_takeWhile_imp mem
  have split : s = s.takeWhile Json.isBlank ++ skipBlanks s := by
    rw [skipBlanks, List.takeWhile_append_dropWhile]
  conv_lhs => rw [split, List.append_assoc, scan_braceless blank]

theorem scan_resync (s more : Bytes) :
    scan (s.tail ++ more) = scan (Intake.resync s ++ more) := by
  have split : s.tail = s.tail.takeWhile (· ≠ 0x7B) ++ Intake.resync s := by
    rw [Intake.resync, List.takeWhile_append_dropWhile]
  conv_lhs => rw [split, List.append_assoc, scan_braceless (braceless_takeWhile _)]

/-- A text at whose first octet no object starts is scanned from the next brace on. -/
theorem scan_passed (nonempty : s ≠ [])
    (refused : ∀ t, s = 0x7B :: t →
      ∃ fault, Json.Reader.anyValue.run (0x7B :: (t ++ more)) = .error fault) :
    scan (s ++ more) = scan (Intake.resync s ++ more) := by
  rw [← scan_resync]
  cases s with
  | nil => exact absurd rfl nonempty
  | cons b t =>
    by_cases brace : b = 0x7B
    · subst brace
      exact scan_refused (refused t rfl)
    · have noise : Braceless [b] := fun c mem => List.mem_singleton.mp mem ▸ brace
      exact scan_braceless noise (t ++ more)

/-! ## One outcome -/

theorem ne_nil_of_skipBlanks {b : UInt8} (start : skipBlanks s = b :: t) : s ≠ [] := by
  rintro rfl
  cases start

theorem firstValue_blank (h : skipBlanks s = []) : Json.firstValue s = .ok none := by
  rw [Json.firstValue, h]

theorem firstValue_refused {b : UInt8} {fault : Json.Fault} (start : skipBlanks s = b :: t)
    (h : Json.Reader.anyValue.run (b :: t) = .error fault) : Json.firstValue s = .error fault := by
  simp only [Json.firstValue, start, h]

theorem firstValue_object (start : skipBlanks s = 0x7B :: t)
    (h : Json.Reader.anyValue.run (0x7B :: t) = .ok (v, rest)) :
    Json.firstValue s = .ok (some (v, rest)) := by
  have delimits : Json.delimitsItself 0x7B = true := by decide
  cases rest with
  | nil => simp only [Json.firstValue, start, h]
  | cons c after => simp only [Json.firstValue, start, h, delimits, Bool.true_or, if_true]

theorem firstValue_read {b : UInt8} (start : skipBlanks s = b :: t)
    (h : Json.firstValue s = .ok (some (v, rest))) :
    Json.Reader.anyValue.run (b :: t) = .ok (v, rest) := by
  rw [Json.firstValue, start] at h
  simp only at h
  split at h
  · cases h
  · rename_i read
    split at h
    · cases h
      exact read
    · split at h
      · cases h
        exact read
      · cases h

theorem firstValue_none (h : Json.firstValue s = .ok none) : skipBlanks s = [] := by
  cases start : skipBlanks s with
  | nil => rfl
  | cons b t =>
    simp only [Json.firstValue, start] at h
    split at h
    · cases h
    · split at h
      · cases h
      · split at h <;> cases h

/-- What a complete object comes to. -/
def Outcome.ofObject (v : Json.Value) : Outcome :=
  match Event.decoder.value v with
  | .ok e => .event e
  | .error why => .malformed (.notEvent why)

namespace Intake

/-- What an intake may do next: it drops white space, takes an object, waits for the end of a value,
    or passes over an octet at which no object starts. -/
inductive Takes (i : Intake) : Outcome → Intake → Prop where
  | blank (blank : skipBlanks i.buffer = []) : Takes i .needMore { i with buffer := [] }
  | object {t rest : Bytes} {v : Json.Value} {o : Outcome}
      (start : skipBlanks i.buffer = 0x7B :: t)
      (read : Json.Reader.anyValue.run (0x7B :: t) = .ok (v, rest))
      (found : o.event?.toList = converted v) (more : o ≠ .needMore) :
      Takes i o { i with buffer := rest }
  | wait (goesOn : i.ended = false) : Takes i .needMore i
  | pass {o : Outcome} (nonempty : i.buffer ≠ [])
      (refused : ∀ t, i.buffer = 0x7B :: t → ∃ fault,
        Json.Reader.anyValue.run (0x7B :: t) = .error fault ∧ (fault.isUnfinished → i.ended))
      (none : o.event? = none) (more : o ≠ .needMore) :
      Takes i o { i with buffer := resync i.buffer }

variable {i j : Intake} {o : Outcome}

theorem malformed_ne_needMore (why : Noise) : Outcome.malformed why ≠ .needMore := by
  intro eq
  cases eq

theorem next_unfinished {b : UInt8} {fault : Json.Fault} (start : skipBlanks i.buffer = b :: t)
    (read : Json.Reader.anyValue.run (b :: t) = .error fault) (unfinished : fault.isUnfinished)
    (goesOn : i.ended = false) : i.next = (.needMore, i) := by
  simp only [next, firstValue_refused start read, unfinished, goesOn, if_true, Bool.false_eq_true,
    if_false]

theorem next_refused {b : UInt8} {fault : Json.Fault} (start : skipBlanks i.buffer = b :: t)
    (read : Json.Reader.anyValue.run (b :: t) = .error fault) (finished : fault.isUnfinished = false) :
    i.next = (.malformed (.broken (fault.diagnosis i.buffer)), { i with buffer := resync i.buffer }) := by
  simp only [next, firstValue_refused start read, finished, Bool.false_eq_true, if_false]

theorem next_object (start : skipBlanks i.buffer = 0x7B :: t)
    (read : Json.Reader.anyValue.run (0x7B :: t) = .ok (v, rest)) :
    i.next = (.ofObject v, { i with buffer := rest }) := by
  have object := Json.isObject_of_brace (skipBlanks_brace t) read
  simp only [next, firstValue_object start read, object, if_true, Outcome.ofObject]
  cases Event.decoder.value v <;> rfl

/-- At a brace. -/
theorem next_brace (start : skipBlanks i.buffer = 0x7B :: t) (h : i.next = (o, j)) :
    i.Takes o j := by
  have nonempty := ne_nil_of_skipBlanks start
  cases read : Json.Reader.anyValue.run (0x7B :: t) with
  | ok answer =>
    obtain ⟨v, rest⟩ := answer
    have object := Json.isObject_of_brace (skipBlanks_brace t) read
    simp only [next, firstValue_object start read, object, if_true] at h
    split at h
    · rename_i found
      cases h
      exact .object start read (by rw [converted, found]; rfl) nofun
    · rename_i found
      cases h
      exact .object start read (by rw [converted, found]; rfl) nofun
  | error fault =>
    have refused : (fault.isUnfinished → i.ended) → ∀ u, i.buffer = 0x7B :: u → ∃ fault,
        Json.Reader.anyValue.run (0x7B :: u) = .error fault ∧ (fault.isUnfinished → i.ended) := by
      intro final u eq
      rw [eq, skipBlanks_brace] at start
      cases start
      exact ⟨fault, read, final⟩
    simp only [next, firstValue_refused start read] at h
    split at h
    · split at h
      · rename_i ended
        cases h
        exact .pass nonempty (refused fun _ => ended) rfl (malformed_ne_needMore _)
      · rename_i goesOn
        cases h
        exact .wait (Bool.eq_false_iff.mpr goesOn)
    · rename_i finished
      cases h
      exact .pass nonempty (refused fun unfinished => absurd unfinished finished) rfl (malformed_ne_needMore _)

/-- At another octet. -/
theorem next_other {b : UInt8} (start : skipBlanks i.buffer = b :: t) (other : b ≠ 0x7B)
    (h : i.next = (o, j)) : i.Takes o j := by
  have nonempty := ne_nil_of_skipBlanks start
  have refused : ∀ u, i.buffer = 0x7B :: u → ∃ fault,
      Json.Reader.anyValue.run (0x7B :: u) = .error fault ∧ (fault.isUnfinished → i.ended) := by
    intro u eq
    rw [eq, skipBlanks_brace] at start
    cases start
    exact absurd rfl other
  unfold next at h
  split at h
  · rename_i none
    rw [firstValue_none none] at start
    cases start
  · rename_i found
    split at h
    · rename_i object
      have solid : skipBlanks (b :: t) = b :: t := by
        rw [← start, skipBlanks, skipBlanks, List.dropWhile_idempotent]
      exact absurd (Json.brace_of_isObject solid (firstValue_read start found) object) other
    · cases h
      exact .pass nonempty refused rfl (malformed_ne_needMore _)
  · split at h
    · split at h
      · cases h
        exact .pass nonempty refused rfl (malformed_ne_needMore _)
      · rename_i goesOn
        cases h
        exact .wait (Bool.eq_false_iff.mpr goesOn)
    · cases h
      exact .pass nonempty refused rfl (malformed_ne_needMore _)

theorem next_takes (h : i.next = (o, j)) : i.Takes o j := by
  cases start : skipBlanks i.buffer with
  | nil =>
    rw [next, firstValue_blank start] at h
    cases h
    exact .blank start
  | cons b t =>
    by_cases brace : b = 0x7B
    · subst brace
      exact next_brace start h
    · exact next_other start brace h

/-- An outcome takes its event off the scan of what is buffered and of what follows. -/
theorem Takes.scan_eq (h : i.Takes o j) (short : ShortRuns (i.buffer ++ more))
    (last : i.ended → more = []) :
    scan (i.buffer ++ more) = o.event?.toList ++ scan (j.buffer ++ more) := by
  cases h with
  | blank blank =>
    rw [scan_skipBlanks, blank]
    rfl
  | object start read found _ =>
    obtain ⟨used, eq, takes⟩ := Json.object_takes (skipBlanks_brace _) read
    rw [scan_skipBlanks, start, found, List.cons_append]
    refine scan_object ?_
    rw [← List.cons_append, eq, List.append_assoc]
    exact takes _
  | wait => rfl
  | pass nonempty refused none _ =>
    rw [none]
    refine scan_passed nonempty fun t eq => ?_
    obtain ⟨fault, read, final⟩ := refused t eq
    cases unfinished : fault.isUnfinished with
    | false =>
      have here : ShortRuns (0x7B :: t) := eq ▸ short.left
      exact (Json.steady_value 127).settled here read unfinished more
    | true =>
      rw [last (final unfinished), List.append_nil]
      exact ⟨fault, read⟩

theorem Takes.suffix (h : i.Takes o j) : j.buffer <:+ i.buffer := by
  cases h with
  | blank => exact List.nil_suffix
  | object start read _ _ =>
    obtain ⟨used, eq, -⟩ := Json.object_takes (skipBlanks_brace _) read
    have behind : skipBlanks i.buffer <:+ i.buffer := List.dropWhile_suffix _
    rw [start, eq] at behind
    exact (List.suffix_append used _).trans behind
  | wait => exact List.suffix_rfl
  | pass => exact (List.dropWhile_suffix _).trans (List.tail_suffix _)

theorem Takes.ended (h : i.Takes o j) : j.ended = i.ended := by
  cases h <;> rfl

/-- Nothing is waited for once the stream has ended. -/
theorem Takes.emptied (h : i.Takes .needMore j) (ended : i.ended) : j.buffer = [] := by
  cases h with
  | blank => rfl
  | object _ _ _ more => exact absurd rfl more
  | wait goesOn => rw [goesOn] at ended; cases ended
  | pass _ _ _ more => exact absurd rfl more

/-! ## All outcomes -/

/-- The events among some outcomes, in their order. -/
def events (outcomes : List Outcome) : List Event := outcomes.filterMap Outcome.event?

theorem events_append (os ps : List Outcome) : events (os ++ ps) = events os ++ events ps :=
  List.filterMap_append

theorem events_cons (o : Outcome) (os : List Outcome) :
    events (o :: os) = o.event?.toList ++ events os := by
  cases o <;> rfl

/-- Outcomes that are taken one after another until more octets are needed. -/
inductive Drains : Intake → List Outcome → Intake → Prop where
  | stop {i j : Intake} (last : i.Takes .needMore j) : Drains i [] j
  | more {i j k : Intake} {o : Outcome} {os : List Outcome} (first : i.Takes o j)
      (others : Drains j os k) : Drains i (o :: os) k

theorem drain_drains (i : Intake) : Drains i i.drain.1 i.drain.2 := by
  fun_induction drain i with
  | case1 i j h => exact .stop (next_takes h)
  | case2 i e j h rest k found ih =>
    rw [found] at ih
    exact .more (next_takes h) ih
  | case3 i why j h rest k found ih =>
    rw [found] at ih
    exact .more (next_takes h) ih

theorem drain_needMore (h : i.next = (.needMore, j)) : i.drain = ([], j) := by
  rw [drain]
  split
  · rename_i eq; rw [h] at eq; cases eq; rfl
  · rename_i eq; rw [h] at eq; cases eq
  · rename_i eq; rw [h] at eq; cases eq

theorem drain_more (h : i.next = (o, j)) (more : o ≠ .needMore) :
    i.drain = (o :: j.drain.1, j.drain.2) := by
  rw [drain]
  split
  · rename_i eq; rw [h] at eq; cases eq; exact absurd rfl more
  · rename_i eq; rw [h] at eq; cases eq; rfl
  · rename_i eq; rw [h] at eq; cases eq; rfl

theorem next_ended (h : i.next = (o, j)) : j.ended = i.ended := (next_takes h).ended

variable {os : List Outcome}

theorem Drains.suffix (h : Drains i os j) : j.buffer <:+ i.buffer := by
  induction h with
  | stop last => exact last.suffix
  | more first _ ih => exact ih.trans first.suffix

theorem Drains.ended (h : Drains i os j) : j.ended = i.ended := by
  induction h with
  | stop last => exact last.ended
  | more first _ ih => exact ih.trans first.ended

theorem Drains.emptied (h : Drains i os j) (ended : i.ended) : j.buffer = [] := by
  induction h with
  | stop last => exact last.emptied ended
  | more first _ ih => exact ih (first.ended.trans ended)

theorem Drains.scan_eq (h : Drains i os j) (short : ShortRuns (i.buffer ++ more))
    (last : i.ended → more = []) :
    scan (i.buffer ++ more) = events os ++ scan (j.buffer ++ more) := by
  induction h with
  | stop taken => exact taken.scan_eq short last
  | @more i j k o os first others ih =>
    obtain ⟨used, eq⟩ := first.suffix
    rw [← eq, List.append_assoc] at short
    have goesOn : j.ended → more = [] := fun ended => last (first.ended ▸ ended)
    calc scan (i.buffer ++ more)
      _ = o.event?.toList ++ scan (j.buffer ++ more) :=
          first.scan_eq (by rwa [← eq, List.append_assoc]) last
      _ = o.event?.toList ++ (events os ++ scan (k.buffer ++ more)) := by
          rw [ih short.right goesOn]
      _ = events (o :: os) ++ scan (k.buffer ++ more) := by
          rw [events_cons, List.append_assoc]

/-! ## All chunks -/

theorem feedAll_cons (i : Intake) (chunk : Bytes) (chunks : List Bytes) :
    i.feedAll (chunk :: chunks)
      = ((i.feed chunk).drain.1 ++ ((i.feed chunk).drain.2.feedAll chunks).1,
          ((i.feed chunk).drain.2.feedAll chunks).2) := rfl

theorem feedAll_append (i : Intake) (chunks later : List Bytes) :
    i.feedAll (chunks ++ later)
      = ((i.feedAll chunks).1 ++ ((i.feedAll chunks).2.feedAll later).1,
          ((i.feedAll chunks).2.feedAll later).2) := by
  induction chunks generalizing i with
  | nil => rfl
  | cons first chunks ih => simp [feedAll_cons, ih]

theorem feedAll_concat (i : Intake) (chunks : List Bytes) (chunk : Bytes) :
    i.feedAll (chunks ++ [chunk])
      = ((i.feedAll chunks).1 ++ ((i.feedAll chunks).2.feed chunk).drain.1,
          ((i.feedAll chunks).2.feed chunk).drain.2) := by
  simp [feedAll_append, feedAll]

/-- What was found before the stream went on is found in the whole of it, too. -/
theorem events_feedAll_prefix (chunks later : List Bytes) :
    events (feedAll {} chunks).1 <+: events (session (chunks ++ later)).1 := by
  simp only [session, feedAll_append, events_append, List.append_assoc]
  exact List.prefix_append _ _

/-- A stream that goes on: what was found and what is still buffered stand for all that was fed. -/
theorem feedAll_scan {chunks : List Bytes} (goesOn : i.ended = false)
    (short : ShortRuns (i.buffer ++ chunks.flatten)) :
    scan (i.buffer ++ chunks.flatten)
        = events (i.feedAll chunks).1 ++ scan (i.feedAll chunks).2.buffer ∧
      ShortRuns (i.feedAll chunks).2.buffer := by
  induction chunks generalizing i with
  | nil =>
    rw [List.flatten_nil, List.append_nil] at short ⊢
    exact ⟨rfl, short⟩
  | cons chunk chunks ih =>
    rw [List.flatten_cons, ← List.append_assoc] at short ⊢
    have drained := drain_drains (i.feed chunk)
    have still : (i.feed chunk).drain.2.ended = false := drained.ended.trans goesOn
    have step : scan (i.buffer ++ chunk ++ chunks.flatten)
        = events (i.feed chunk).drain.1
            ++ scan ((i.feed chunk).drain.2.buffer ++ chunks.flatten) :=
      drained.scan_eq short fun ended => absurd (goesOn.symm.trans ended) nofun
    obtain ⟨used, eq⟩ := drained.suffix
    change used ++ _ = i.buffer ++ chunk at eq
    rw [← eq, List.append_assoc] at short
    obtain ⟨found, shorter⟩ := ih still short.right
    rw [feedAll_cons, events_append, step, found, List.append_assoc]
    exact ⟨rfl, shorter⟩

/-- A stream that is cut into chunks yields the events of a scan of the whole, in their order, and
    leaves nothing behind. -/
theorem session_events {s : Bytes} {chunks : List Bytes} (short : ShortRuns s)
    (cut : chunks.flatten = s) :
    (session chunks).1.filterMap Outcome.event? = scan s ∧
      (session chunks).2.buffer = [] := by
  subst cut
  obtain ⟨found, shorter⟩ := @feedAll_scan {} chunks rfl short
  have drained := drain_drains (feedAll {} chunks).2.finish
  have emptied := drained.emptied rfl
  have all : ShortRuns ((feedAll {} chunks).2.finish.buffer ++ []) := by
    rw [List.append_nil]
    exact shorter
  have last := drained.scan_eq all fun _ => rfl
  rw [List.append_nil, emptied, List.append_nil, scan_nil, List.append_nil] at last
  refine ⟨?_, emptied⟩
  change events ((feedAll {} chunks).1 ++ (feedAll {} chunks).2.finish.drain.1) = _
  rw [events_append, ← last]
  exact found.symm

/-- A record behind noise, in three pieces, the second of them empty. -/
theorem session_events_pieces :
    ShortRuns (Utf8.encode "x\x7b\"type\":\"oom\",\"id\":\"c\"\x7d".toList) ∧
      [Utf8.encode "x\x7b\"type\":".toList, [], Utf8.encode "\"oom\",\"id\":\"c\"\x7d".toList].flatten
        = Utf8.encode "x\x7b\"type\":\"oom\",\"id\":\"c\"\x7d".toList ∧
      (session [Utf8.encode "x\x7b\"type\":".toList, [],
          Utf8.encode "\"oom\",\"id\":\"c\"\x7d".toList]).1.filterMap Outcome.event?
        = scan (Utf8.encode "x\x7b\"type\":\"oom\",\"id\":\"c\"\x7d".toList) ∧
      (session [Utf8.encode "x\x7b\"type\":".toList, [],
          Utf8.encode "\"oom\",\"id\":\"c\"\x7d".toList]).2.buffer = [] :=
  have short := Json.shortRuns_of_length (by decide)
  have cut := by decide
  ⟨short, cut, session_events short cut⟩

end Intake

end Overseer.Telemetry
