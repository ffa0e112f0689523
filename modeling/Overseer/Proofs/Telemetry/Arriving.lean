-- SUMMARY: A record that is still arriving is waited for, unless a number in it is too large so far.
import Overseer.Proofs.Telemetry.Session

/-!
# Records that are still arriving

The part of a record that has arrived is no complete value, and whatever it stops inside of, a reader says
that it ended too early. So the intake waits, and loses nothing. The one exception is a number of 309 digits
or more, which is too large until its exponent has arrived; the record is then refused in the middle.
-/

namespace Overseer.Telemetry.Intake

open Json (ShortRuns skipBlanks)
open Json.Reader (anyValue)

variable {o p rest : Bytes} {v : Json.Value}

/-- A document that ends with a brace is read to its last octet. -/
theorem run_of_document (closes : o.getLast? = some 0x7D) (accepted : anyValue.document o = .ok v) :
    anyValue.run o = .ok (v, []) := by
  unfold Json.Reader.document at accepted
  split at accepted
  · cases accepted
  rename_i w rest read
  split at accepted
  · rename_i blank
    cases accepted
    have none : rest = [] := by
      by_contra some
      obtain ⟨used, rfl⟩ := (Json.steady_value 127).isLocal.suffix read
      rw [List.getLast?_append_of_ne_nil used some] at closes
      have last : (0x7D : UInt8) ∈ rest := List.mem_of_getLast? closes
      exact absurd (List.dropWhile_eq_nil_iff.mp blank 0x7D last) (by decide)
    rw [read, none]
  · cases accepted

/-- The part `p` of an object `o` has arrived. The intake waits, with all of it in the buffer, and when the
    rest has arrived it gives what it gives for the whole object: an event, or that it is none. Otherwise it
    has refused the part for a number that is too large so far, and there are 309 digits in a row in it. -/
theorem arriving_record (opens : o.head? = some 0x7B) (closes : o.getLast? = some 0x7D)
    (accepted : anyValue.document o = .ok v) (cut : p ++ rest = o) (begun : p ≠ []) (further : rest ≠ []) :
    (next { buffer := p } = (.needMore, { buffer := p }) ∧
      (feed { buffer := p } rest).next = (.ofObject v, {}) ∧ next { buffer := o } = (.ofObject v, {})) ∨
    ∃ fault, anyValue.run p = .error fault ∧ fault.TooLarge ∧ ¬ ShortRuns p ∧
      next { buffer := p } = (.malformed (.broken (fault.diagnosis p)), { buffer := resync p }) := by
  have read := run_of_document closes accepted
  obtain ⟨b, t, rfl⟩ := List.exists_cons_of_ne_nil begun
  subst cut
  obtain rfl : b = 0x7B := Option.some.inj opens
  obtain ⟨fault, refused, unfinished | ⟨large, long⟩⟩ := Json.object_part (skipBlanks_brace t) further read
  · have whole : next { buffer := 0x7B :: t ++ rest } = (.ofObject v, {}) :=
      next_object (skipBlanks_brace (t ++ rest)) read
    exact .inl ⟨next_unfinished (skipBlanks_brace t) refused unfinished rfl, whole, whole⟩
  · have finished : fault.isUnfinished = false := by rw [Json.Fault.isUnfinished, large]
    exact .inr ⟨fault, refused, large, long, next_refused (skipBlanks_brace t) refused finished⟩

/-- A record that stops inside a pair of escapes. -/
theorem arriving_record_surrogates :
    let p := Bytes.ofString "\x7b\"type\":\"oom\",\"id\":\"\\uD83D\\uDC"
    next { buffer := p } = (.needMore, { buffer := p }) ∧
      (feed { buffer := p } (Bytes.ofString "33\"\x7d")).next = (.event ⟨.oom, "🐳", none⟩, {}) := by
  intro p
  have accepts : (anyValue.document (p ++ Bytes.ofString "33\"\x7d")).isOk := by decide +kernel
  cases accepted : anyValue.document (p ++ Bytes.ofString "33\"\x7d") with
  | error fault =>
    rw [accepted] at accepts
    cases accepts
  | ok v =>
    rcases arriving_record (by decide) (by decide +kernel) accepted rfl (by decide) (by decide) with
      ⟨waits, found, whole⟩ | ⟨fault, -, -, long, -⟩
    · exact ⟨waits, found.trans (whole.symm.trans (by decide +kernel))⟩
    · exact absurd (Json.shortRuns_of_length (by decide)) long

/-- A one with so many zeros behind it is out of range, and in range with the exponent that follows. -/
theorem arriving_record_refused :
    let p := Bytes.ofString "\x7b\"type\":\"oom\",\"id\":\"c\",\"x\":1" ++ List.replicate 309 0x30
    let rest := Bytes.ofString "e-9\x7d"
    p.head? = some 0x7B ∧ (p ++ rest).getLast? = some 0x7D ∧ (anyValue.document (p ++ rest)).isOk ∧
      (next { buffer := p }).1 ≠ .needMore ∧
      (next { buffer := p ++ rest }) = (.event ⟨.oom, "c", none⟩, {}) := by
  decide +kernel

end Overseer.Telemetry.Intake
