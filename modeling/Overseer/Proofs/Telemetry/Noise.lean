-- SUMMARY: Noise without closing braces neither costs nor invents a record.
import Overseer.Proofs.Telemetry.Record

/-!
# Noise

Between its records a stream may hold any octets but closing braces. An object that the noise opens would
have to be closed by a later record, and records close nothing that was open before them; so no object is
read at a brace of the noise, and passing over it leads to the next record.
-/

namespace Overseer.Telemetry

open Json.Outline (KeepsOpen keepsOpen_of_braceless)
open Json.Reader (anyValue)

variable {s n rest : Bytes} {es : List Event} {v : Json.Value}

/-- Where nothing closes an open brace, no object is read. -/
theorem not_read_of_keepsOpen (seals : KeepsOpen s) : anyValue.run (0x7B :: s) ≠ .ok (v, rest) := by
  intro read
  have behindNothing : anyValue.run (0x7B :: ([] ++ s)) = .ok (v, rest) := read
  obtain ⟨used, left, nothing, -, takes⟩ := Json.object_within seals behindNothing
  obtain ⟨rfl, -⟩ := List.append_eq_nil_iff.mp nothing.symm
  have start : Json.skipBlanks [0x7B] = 0x7B :: [] := rfl
  have opened : anyValue.run [0x7B]
      = (Json.members (.value 126) [] true []).map fun found => .object (Entries.ofList found) :=
    Json.valueOf_object start
  have impossible := takes []
  rw [List.append_nil, opened, Json.members_nil] at impossible
  cases impossible

theorem Yields.text (r : Record) (h : Yields s es) : Yields (r.text ++ s) (r.event :: es) := by
  obtain ⟨t, brace⟩ := r.brace
  have first : r.text.head? = some 0x7B := by rw [brace]; rfl
  have both := Yields.record first r.exact h
  rwa [Record.converted_event] at both

theorem Yields.noise (noise : 0x7D ∉ n) (seals : KeepsOpen s) (h : Yields s es) :
    Yields (n ++ s) es := by
  induction n with
  | nil => exact h
  | cons b n ih =>
    have later : 0x7D ∉ n := List.not_mem_of_not_mem_cons noise
    have behind := ih later
    by_cases brace : b = 0x7B
    · subst brace
      have keeps : KeepsOpen (n ++ s) := (keepsOpen_of_braceless later).append seals
      exact .unread behind fun _ _ => not_read_of_keepsOpen keeps
    · exact .other brace behind

/-- Records, each with the noise behind it. -/
def amongNoise (pieces : List (Record × Bytes)) : Bytes := pieces.flatMap fun p => p.1.text ++ p.2

theorem amongNoise_cons (p : Record × Bytes) (pieces : List (Record × Bytes)) :
    amongNoise (p :: pieces) = p.1.text ++ (p.2 ++ amongNoise pieces) := by
  simp [amongNoise]

theorem yields_amongNoise {pieces : List (Record × Bytes)} (noise : ∀ p ∈ pieces, 0x7D ∉ p.2) :
    Yields (amongNoise pieces) (pieces.map (·.1.event)) ∧ KeepsOpen (amongNoise pieces) := by
  induction pieces with
  | nil => exact ⟨.nil, .nil⟩
  | cons p pieces ih =>
    obtain ⟨behind, seals⟩ := ih fun q mem => noise q (List.mem_cons_of_mem p mem)
    have here := noise p List.mem_cons_self
    rw [amongNoise_cons]
    exact ⟨.text p.1 (.noise here seals behind),
      p.1.keepsOpen.append ((keepsOpen_of_braceless here).append seals)⟩

namespace Intake

/-- A session finds the events of the records, and no others, however the stream is cut. -/
theorem session_among_noise {first : Bytes} {pieces : List (Record × Bytes)} {chunks : List Bytes}
    (before : 0x7D ∉ first) (behind : ∀ p ∈ pieces, 0x7D ∉ p.2)
    (cut : chunks.flatten = first ++ amongNoise pieces) :
    (session chunks).1.filterMap Outcome.event? = pieces.map (·.1.event) := by
  obtain ⟨records, seals⟩ := yields_amongNoise behind
  exact (session_yields (.noise before seals records) cut).1

/-- A brace, a quote and a backslash that nothing closes stand before and behind a record, which arrives in
    two pieces. -/
theorem session_among_noise_open_brace :
    0x7D ∉ Utf8.encode "\x7b\"\\".toList ∧
      (session [Utf8.encode "\x7b\"\\\x7b\"type\":\"oo".toList,
          Utf8.encode "m\",\"id\":\"c\"\x7d\x7b\"\\".toList]).1.filterMap Outcome.event?
        = [⟨.oom, "c", none⟩] := by
  have noise : 0x7D ∉ Utf8.encode "\x7b\"\\".toList := by decide
  refine ⟨noise, @session_among_noise _
    [(Record.ofEvent ⟨.oom, "c", none⟩, Utf8.encode "\x7b\"\\".toList)] _ noise ?_ ?_⟩
  · simpa using noise
  · decide +kernel

end Intake

end Overseer.Telemetry
