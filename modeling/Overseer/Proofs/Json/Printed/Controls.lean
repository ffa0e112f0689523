-- SUMMARY: Compact text holds no control characters, so it is a single line.
import Overseer.Proofs.Json.Printed.Value

/-!
# Control characters

Strings are printed with their control characters escaped, and compact text has no white space of its own.
So no character of it is below a space.
-/

namespace Overseer.Json

/-- Holds no control character below the space. -/
def Solid (cs : List Char) : Prop := ∀ c ∈ cs, 0x20 ≤ c.toNat

variable {cs ds : List Char} {c : Char} {v : Value} {vs : List Value} {ms : List (String × Value)}
  {d : Nat}

instance : DecidablePred Solid := fun cs => List.decidableBAll (fun c : Char => 0x20 ≤ c.toNat) cs

theorem Solid.append (first : Solid cs) (second : Solid ds) : Solid (cs ++ ds) := by
  intro c mem
  rcases List.mem_append.mp mem with front | back
  · exact first c front
  · exact second c back

theorem Solid.cons (here : 0x20 ≤ c.toNat) (rest : Solid cs) : Solid (c :: cs) :=
  List.forall_mem_cons.mpr ⟨here, rest⟩

theorem Solid.single (here : 0x20 ≤ c.toNat) : Solid [c] := .cons here nofun

theorem Solid.encode (h : Solid cs) {b : UInt8} (mem : b ∈ Utf8.encode cs) : 0x20 ≤ b.toNat := by
  obtain ⟨c, inside, octet⟩ := List.mem_flatMap.mp mem
  have high := h c inside
  rcases Utf8.octet_of_char octet with single | large
  · omega
  · omega

-- ---------------------------------------------------------------------------
-- Strings and numbers
-- ---------------------------------------------------------------------------

theorem solid_digitChar : ∀ n < 16, 0x20 ≤ (Nat.digitChar n).toNat := by decide

theorem solid_escaped (c : Char) : Solid (escaped c) := by
  unfold escaped
  split_ifs with quote slash backspace formFeed lineFeed carriageReturn tab control
  iterate 7 exact .cons (by decide) (.single (by decide))
  · have high := solid_digitChar (c.toNat / 16) (by omega)
    have low := solid_digitChar (c.toNat % 16) (by omega)
    have front : Solid ['\\', 'u', '0', '0'] := by decide
    exact front.append (.cons high (.single low))
  · exact .single (Nat.le_of_not_lt control)

theorem solid_quoted (s : String) : Solid (quoted s) := by
  have inside : Solid (s.toList.flatMap escaped) := by
    intro c mem
    obtain ⟨b, -, written⟩ := List.mem_flatMap.mp mem
    exact solid_escaped b c written
  exact .cons (by decide) (inside.append (.single (by decide)))

theorem solid_integer (k : Nat) : Solid (Number.integer k).text.toList := by
  intro c mem
  rw [Numeral.text_integer] at mem
  have digit := Nat.isDigit_of_mem_toDigits (by decide) (by decide) mem
  exact Nat.le_trans (by decide) (Char.isDigit_iff_toNat.mp digit).1

-- ---------------------------------------------------------------------------
-- Values
-- ---------------------------------------------------------------------------

namespace Value

theorem solid_elements (h : ∀ v ∈ vs, Solid v.compact) : Solid (compactElements vs) := by
  induction vs with
  | nil => exact nofun
  | cons v vs ih =>
    have here := h v List.mem_cons_self
    have later := ih fun w mem => h w (List.mem_cons_of_mem v mem)
    cases vs with
    | nil => exact here
    | cons w vs => exact here.append (.cons (by decide) later)

theorem solid_members (h : ∀ m ∈ ms, Solid m.2.compact) : Solid (compactMembers ms) := by
  induction ms with
  | nil => exact nofun
  | cons m ms ih =>
    have here := (solid_quoted m.1).append (.cons (c := ':') (by decide) (h m List.mem_cons_self))
    have later := ih fun n mem => h n (List.mem_cons_of_mem m mem)
    cases ms with
    | nil => exact here
    | cons n ms => exact here.append (.cons (by decide) later)

/-- The compact text of a value that can be read back. -/
theorem solid_compact (h : v.Everywhere Readable d) : Solid v.compact := by
  induction h with
  | @intro d v here _ ih =>
    cases v with
    | null => decide
    | bool b => cases b <;> decide
    | number n =>
      obtain ⟨k, -, rfl⟩ := here
      exact solid_integer k
    | string s => exact solid_quoted s
    | array vs =>
      exact .cons (by decide) ((solid_elements ih).append (.single (by decide)))
    | object ms =>
      have each : ∀ m ∈ ms, Solid m.2.compact := fun m mem => ih m.2 (List.mem_map_of_mem mem)
      exact .cons (by decide) ((solid_members each).append (.single (by decide)))

theorem octets_solid (h : v.Everywhere Readable d) {b : UInt8} (mem : b ∈ v.octets) : 0x20 ≤ b.toNat :=
  (solid_compact h).encode mem

end Value

end Overseer.Json
