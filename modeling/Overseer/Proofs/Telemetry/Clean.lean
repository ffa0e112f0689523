-- SUMMARY: A stream of nothing but records and white space is decoded without a complaint.
import Overseer.Proofs.Telemetry.Record

/-!
# Clean streams

In a clean stream there is nothing between the records but white space. Behind white space an intake has
the whole of a record in its buffer, and takes it; or a part of it, and waits for the rest; or nothing.
So its outcomes are the events and nothing else, and it has them all as soon as it has the octets.
-/

namespace Overseer.Telemetry

open Json (skipBlanks)
open Json.Reader (anyValue)

/-- Records with white space around them. -/
inductive Clean : Bytes → List Event → Prop where
  | nil : Clean [] []
  | blank {b : UInt8} {s : Bytes} {es : List Event} (blank : Json.isBlank b) (rest : Clean s es) :
      Clean (b :: s) es
  | record {s : Bytes} {es : List Event} (r : Record) (rest : Clean s es) :
      Clean (r.text ++ s) (r.event :: es)

variable {s t blanks more : Bytes} {es : List Event} {b : UInt8}

/-- What a clean stream starts with. -/
theorem Clean.cons (h : Clean (b :: s) es) :
    Json.isBlank b ∧ Clean s es ∨
      ∃ (r : Record) (fs : List Event) (rest : Bytes),
        b = 0x7B ∧ es = r.event :: fs ∧ b :: s = r.text ++ rest ∧ Clean rest fs := by
  generalize eq : b :: s = stream at h
  cases h with
  | nil => cases eq
  | blank blank rest =>
    cases eq
    exact .inl ⟨blank, rest⟩
  | @record rest fs r clean =>
    obtain ⟨u, brace⟩ := r.brace
    rw [brace] at eq
    exact .inr ⟨r, fs, rest, (List.cons.inj eq).1, rfl, rfl, clean⟩

theorem Clean.behind (all : ∀ b ∈ blanks, Json.isBlank b) (h : Clean s es) : Clean (blanks ++ s) es := by
  induction blanks with
  | nil => exact h
  | cons b blanks ih => exact .blank (all b (by simp)) (ih fun c mem => all c (by simp [mem]))

theorem not_blank_brace : ¬ Json.isBlank 0x7B := by decide

theorem Clean.behind_blanks (all : ∀ c ∈ blanks, Json.isBlank c) (h : Clean (blanks ++ s) es) :
    Clean s es := by
  induction blanks with
  | nil => exact h
  | cons c blanks ih =>
    rcases h.cons with ⟨-, rest⟩ | ⟨r, fs, rest, rfl, -⟩
    · exact ih (fun b mem => all b (List.mem_cons_of_mem c mem)) rest
    · exact absurd (all _ List.mem_cons_self) not_blank_brace

theorem Clean.events_nil (h : Clean [] es) : es = [] := by
  generalize eq : [] = stream at h
  cases h with
  | nil => rfl
  | blank => cases eq
  | record r =>
    obtain ⟨u, brace⟩ := r.brace
    rw [brace] at eq
    cases eq

namespace Intake

variable {i j : Intake}

theorem next_blank (blank : skipBlanks i.buffer = []) : i.next = (.needMore, { i with buffer := [] }) := by
  rw [next, firstValue_blank blank]

theorem next_record (r : Record) (start : skipBlanks i.buffer = r.text ++ t) :
    i.next = (.event r.event, { i with buffer := t }) := by
  obtain ⟨u, brace⟩ := r.brace
  have read : anyValue.run (0x7B :: (u ++ t)) = .ok (r.event.encode.sorted, t) := by
    rw [← List.cons_append, ← brace]
    exact r.exact.whole t
  rw [brace, List.cons_append] at start
  rw [next_object start read, Outcome.ofObject, Event.inverts r.event]

theorem next_cut (r : Record) (cut : Cut (0x7B :: t) r.text) (start : skipBlanks i.buffer = 0x7B :: t)
    (goesOn : i.ended = false) : i.next = (.needMore, i) := by
  obtain ⟨fault, refused, unfinished⟩ := r.exact.part cut
  exact next_unfinished start refused unfinished goesOn

/-- One outcome of an intake that has the beginning of a clean stream in its buffer. -/
theorem next_clean (clean : Clean (i.buffer ++ more) es) (last : i.ended → more = []) :
    (∃ e fs j, i.next = (.event e, j) ∧ es = e :: fs ∧ Clean (j.buffer ++ more) fs) ∨
      ∃ j, i.next = (.needMore, j) ∧ Clean (j.buffer ++ more) es ∧
        (more = [] → es = [] ∧ j.buffer = []) := by
  have all : ∀ c ∈ i.buffer.takeWhile Json.isBlank, Json.isBlank c := fun c mem =>
    List.mem_takeWhile_imp mem
  have behind : Clean (skipBlanks i.buffer ++ more) es := by
    refine Clean.behind_blanks all ?_
    rwa [← List.append_assoc, skipBlanks, List.takeWhile_append_dropWhile]
  cases start : skipBlanks i.buffer with
  | nil =>
    rw [start, List.nil_append] at behind
    refine .inr ⟨_, next_blank start, behind, fun nothing => ⟨?_, rfl⟩⟩
    rw [nothing] at behind
    exact behind.events_nil
  | cons b t =>
    rw [start, List.cons_append] at behind
    rcases behind.cons with ⟨blank, -⟩ | ⟨r, fs, rest, rfl, rfl, record, others⟩
    · have solid := List.head?_dropWhile_not Json.isBlank i.buffer
      rw [← skipBlanks, start] at solid
      simp [blank] at solid
    · rw [← List.cons_append] at record
      -- The record goes on behind the buffer, or ends in it.
      rcases List.append_eq_append_iff.mp record with ⟨u, text, onward⟩ | ⟨u, front, rest⟩
      · by_cases whole : u = []
        · subst whole
          rw [List.append_nil] at text
          have taken : skipBlanks i.buffer = r.text ++ [] := by rw [start, text, List.append_nil]
          exact .inl ⟨_, _, _, next_record r taken, rfl, by rwa [List.nil_append, onward]⟩
        · have cut : Cut (0x7B :: t) r.text := by
            refine ⟨⟨u, text.symm⟩, fun same => whole ?_⟩
            rw [same] at text
            exact List.self_eq_append_right.mp text
          have further : more ≠ [] := by
            rw [onward]
            exact List.append_ne_nil_of_left_ne_nil whole _
          have goesOn : i.ended = false := by
            cases ended : i.ended with
            | false => rfl
            | true => exact absurd (last ended) further
          exact .inr ⟨i, next_cut r cut start goesOn, clean, fun none => absurd none further⟩
      · have taken : skipBlanks i.buffer = r.text ++ u := by rw [start, front]
        exact .inl ⟨_, _, _, next_record r taken, rfl, by rwa [← rest]⟩

theorem drain_clean (clean : Clean (i.buffer ++ more) es) (last : i.ended → more = []) :
    ∃ fs gs, es = fs ++ gs ∧ i.drain.1 = fs.map .event ∧ Clean (i.drain.2.buffer ++ more) gs ∧
      (more = [] → gs = [] ∧ i.drain.2.buffer = []) := by
  induction size : i.buffer.length using Nat.strongRecOn generalizing i es with
  | ind n ih =>
    rcases next_clean clean last with ⟨e, fs, j, next, rfl, others⟩ | ⟨j, next, waits, done⟩
    · have shorter := next_length next nofun
      have goesOn : j.ended → more = [] := fun ended => last (next_ended next ▸ ended)
      obtain ⟨gs, hs, rfl, found, left, done⟩ := ih _ (size ▸ shorter) others goesOn rfl
      rw [drain_more next nofun]
      exact ⟨e :: gs, hs, rfl, by rw [List.map_cons, found], left, done⟩
    · rw [drain_needMore next]
      exact ⟨[], es, rfl, rfl, waits, done⟩

/-- A clean stream that arrives in chunks is decoded completely before it has ended. -/
theorem feedAll_clean {chunks : List Bytes} (clean : Clean (i.buffer ++ chunks.flatten) es)
    (goesOn : i.ended = false) (idle : chunks.flatten = [] → es = [] ∧ i.buffer = []) :
    i.feedAll chunks = (es.map .event, {}) := by
  induction chunks generalizing i es with
  | nil =>
    obtain ⟨rfl, empty⟩ := idle rfl
    obtain ⟨buffer, ended⟩ := i
    cases empty
    cases goesOn
    rfl
  | cons chunk chunks ih =>
    rw [List.flatten_cons, ← List.append_assoc] at clean
    have last : (i.feed chunk).ended → chunks.flatten = [] := fun ended =>
      absurd (goesOn.symm.trans ended) nofun
    obtain ⟨fs, gs, rfl, found, left, done⟩ := drain_clean (i := i.feed chunk) clean last
    have still : (i.feed chunk).drain.2.ended = false := (drain_drains (i.feed chunk)).ended.trans goesOn
    rw [feedAll_cons, ih left still done, found, List.map_append]

theorem session_clean {chunks : List Bytes} (clean : Clean chunks.flatten es) :
    feedAll {} chunks = (es.map .event, {}) ∧
      session chunks = (es.map .event, { ended := true }) := by
  have all : feedAll {} chunks = (es.map .event, {}) := by
    refine feedAll_clean clean rfl fun none => ⟨?_, rfl⟩
    rw [none] at clean
    exact clean.events_nil
  have nothing : drain { ended := true } = ([], { ended := true }) := drain_needMore rfl
  refine ⟨all, ?_⟩
  rw [session, all]
  simp only [finish, nothing, List.append_nil]

end Intake

end Overseer.Telemetry
