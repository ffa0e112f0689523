-- SUMMARY: A stream that is joined or broken off inside a record yields its whole records and nothing else.
import Overseer.Proofs.Telemetry.Noise

/-!
# Fragments

What is left of a record whose beginning was missed, and what is there of one that was broken off, hold
braces and complete objects. No object is read from them that reaches into what follows, since what follows
closes nothing that is open before it; and what is read from the middle of a record is no event. From the
beginning of a broken record nothing is read at all: it would have been the whole record.
-/

namespace Overseer.Telemetry

open Json.Outline (KeepsOpen keepsOpen_of_braceless)
open Json.Reader (anyValue)

variable {s before piece after rest : Bytes} {es : List Event} {v : Json.Value}

/-- A piece from the middle of a record. -/
theorem Yields.middle (r : Record) (split : r.text = before ++ (piece ++ after)) (nonempty : before ≠ [])
    (seals : KeepsOpen s) (h : Yields s es) : Yields (piece ++ s) es := by
  induction size : piece.length using Nat.strongRecOn generalizing before piece with
  | ind n shorter =>
    cases piece with
    | nil => exact h
    | cons b inside =>
      have later : r.text = (before ++ [b]) ++ (inside ++ after) := by simp [split]
      have behind : Yields (inside ++ s) es :=
        shorter inside.length (by simp [← size]) later (by simp) rfl
      by_cases brace : b = 0x7B
      · subst brace
        -- An object that is read here ends within the piece, so it is read from the record too.
        have within (v : Json.Value) (rest : Bytes)
            (read : anyValue.run (0x7B :: (inside ++ s)) = .ok (v, rest)) :
            converted v = [] ∧ Yields rest es := by
          obtain ⟨used, left, rfl, rfl, takes⟩ := Json.object_within seals read
          have whole : r.text = before ++ 0x7B :: (used ++ (left ++ after)) := by simp [split]
          have onward : r.text = (before ++ 0x7B :: used) ++ (left ++ after) := by simp [split]
          have smaller : left.length < n := by
            simp only [← size, List.length_cons, List.length_append]
            omega
          exact ⟨r.silent_inside whole nonempty (takes (left ++ after)),
            shorter left.length smaller onward (by simp) rfl⟩
        exact .passed behind (fun v rest read => (within v rest read).1)
          fun v rest read => (within v rest read).2
      · exact .other brace behind

/-- The beginning of a record. -/
theorem Yields.beginning (r : Record) (cut : Cut piece r.text) (seals : KeepsOpen s) (h : Yields s es) :
    Yields (piece ++ s) es := by
  obtain ⟨⟨after, split⟩, other⟩ := cut
  obtain ⟨t, brace⟩ := r.brace
  cases piece with
  | nil => exact h
  | cons b inside =>
    obtain rfl : b = 0x7B := by
      rw [brace] at split
      exact (List.cons.inj split).1
    have later : r.text = [0x7B] ++ (inside ++ after) := by rw [← split]; rfl
    have behind : Yields (inside ++ s) es := .middle r later (by simp) seals h
    refine .unread behind fun v rest read => ?_
    obtain ⟨used, left, rfl, rfl, takes⟩ := Json.object_within seals read
    have whole : r.text = 0x7B :: (used ++ (left ++ after)) := by simp [← split]
    have answer := r.exact.whole []
    rw [List.append_nil, whole, takes] at answer
    have nothing : left ++ after = [] := (Prod.mk.inj (Except.ok.inj answer)).2
    rw [(List.append_eq_nil_iff.mp nothing).2, List.append_nil] at split
    exact other split

-- ---------------------------------------------------------------------------
-- Streams
-- ---------------------------------------------------------------------------

/-- A record, or what is there of one that was broken off. -/
inductive Item where
  | whole (r : Record)
  | broken (r : Record) (text : Bytes) (cut : Cut text r.text)

namespace Item

def text : Item → Bytes
  | whole r => r.text
  | broken _ text _ => text

def events : Item → List Event
  | whole r => [r.event]
  | broken .. => []

theorem keepsOpen (i : Item) : KeepsOpen i.text := by
  cases i with
  | whole r => exact r.keepsOpen
  | broken r text cut => exact r.keepsOpen.of_prefix cut.1

theorem yields (i : Item) (seals : KeepsOpen s) (h : Yields s es) : Yields (i.text ++ s) (i.events ++ es) := by
  cases i with
  | whole r => exact .text r h
  | broken r text cut => exact .beginning r cut seals h

end Item

/-- Items, each behind its white space. -/
def spaced (items : List (Bytes × Item)) : Bytes := items.flatMap fun p => p.1 ++ p.2.text

theorem keepsOpen_of_blank (blank : ∀ b ∈ s, Json.isBlank b) : KeepsOpen s :=
  keepsOpen_of_braceless fun mem => absurd (blank _ mem) (by decide)

theorem yields_spaced {items : List (Bytes × Item)} {last : Bytes}
    (blank : ∀ p ∈ items, ∀ b ∈ p.1, Json.isBlank b) (lastBlank : ∀ b ∈ last, Json.isBlank b) :
    Yields (spaced items ++ last) (items.flatMap (·.2.events)) ∧ KeepsOpen (spaced items ++ last) := by
  induction items with
  | nil =>
    have ends : Yields (last ++ []) [] := Yields.nil.skip (braceless_of_blank lastBlank)
    rw [List.append_nil] at ends
    exact ⟨ends, keepsOpen_of_blank lastBlank⟩
  | cons p items ih =>
    obtain ⟨behind, seals⟩ := ih fun q mem => blank q (List.mem_cons_of_mem p mem)
    have space := blank p List.mem_cons_self
    have split : spaced (p :: items) ++ last = p.1 ++ (p.2.text ++ (spaced items ++ last)) := by
      simp [spaced]
    rw [split, List.flatMap_cons]
    exact ⟨(p.2.yields seals behind).skip (braceless_of_blank space),
      (keepsOpen_of_blank space).append (p.2.keepsOpen.append seals)⟩

namespace Intake

/-- A session that joins a stream behind the beginning of a record, and in which records are broken off,
    finds the events of the whole records, and no others, however the stream is cut. -/
theorem session_of_fragments {r : Record} {missed tail last : Bytes} {items : List (Bytes × Item)}
    {chunks : List Bytes} (joined : r.text = missed ++ tail) (late : missed ≠ [])
    (blank : ∀ p ∈ items, ∀ b ∈ p.1, Json.isBlank b) (lastBlank : ∀ b ∈ last, Json.isBlank b)
    (cut : chunks.flatten = tail ++ (spaced items ++ last)) :
    (session chunks).1.filterMap Outcome.event? = items.flatMap (·.2.events) := by
  obtain ⟨stream, seals⟩ := yields_spaced blank lastBlank
  have split : r.text = missed ++ (tail ++ []) := by rw [joined, List.append_nil]
  exact (session_yields (.middle r split late seals stream) cut).1

/-- The end of a record whose id holds braces, a whole record, and the beginning of another. -/
theorem session_of_fragments_braces :
    (Record.ofEvent ⟨.oom, "\x7b\x7d", none⟩).text
        = Utf8.encode "\x7b\"type\":\"oom\",\"id\":\"".toList ++ Utf8.encode "\x7b\x7d\"\x7d".toList ∧
      Cut (Utf8.encode "\x7b\"type\":\"o".toList) (Record.ofEvent ⟨.oom, "d", none⟩).text ∧
      (session [Utf8.encode "\x7b\x7d\"\x7d \x7b\"type\":\"oo".toList,
          Utf8.encode "m\",\"id\":\"c\"\x7d\n\x7b\"type\":\"o".toList]).1.filterMap Outcome.event?
        = [⟨.oom, "c", none⟩] := by
  have joined : (Record.ofEvent ⟨.oom, "\x7b\x7d", none⟩).text
      = Utf8.encode "\x7b\"type\":\"oom\",\"id\":\"".toList ++ Utf8.encode "\x7b\x7d\"\x7d".toList := by
    decide +kernel
  have cut : Cut (Utf8.encode "\x7b\"type\":\"o".toList) (Record.ofEvent ⟨.oom, "d", none⟩).text :=
    ⟨⟨Utf8.encode "om\",\"id\":\"d\"\x7d".toList, by decide +kernel⟩, by decide +kernel⟩
  refine ⟨joined, cut, @session_of_fragments _ _ _ []
    [([0x20], .whole (Record.ofEvent ⟨.oom, "c", none⟩)),
      ([0x0A], .broken (Record.ofEvent ⟨.oom, "d", none⟩) _ cut)] _ joined (by decide) ?_ (by simp) ?_⟩
  · simp [Json.isBlank]
  · simp only [spaced, List.flatMap_cons, List.flatMap_nil, Item.text]
    decide +kernel

end Intake

end Overseer.Telemetry
