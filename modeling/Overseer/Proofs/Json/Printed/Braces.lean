-- SUMMARY: Outside of its strings, every opening brace of a printed value starts the text of an object in it.
import Overseer.Proofs.Json.Outline.Reader
import Overseer.Proofs.Json.Printed.Value

/-!
# Braces of printed values

Whoever reads from the middle of a printed value, at a brace that is outside of all strings, reads an
object that is inside the value.
-/

namespace Overseer.Json

open Outline (run step run_cons_eq_some run_append_eq_some run_inside Balanced)

variable {G : Bytes → Prop} {p q r : Place} {s t : Bytes} {b : UInt8}

-- ---------------------------------------------------------------------------
-- Braces of a text
-- ---------------------------------------------------------------------------

/-- `G` holds of the text from each of the opening braces on that are outside of strings, when the text is
    read from the place `p` on. -/
def BracesAt (G : Bytes → Prop) (p : Place) (s : Bytes) : Prop :=
  ∀ ⦃awaited before behind : Bytes⦄ ⦃o : Outline⦄, s = before ++ 0x7B :: behind →
    run ⟨awaited, p⟩ before = some o → o.place = .between → G (0x7B :: behind)

theorem BracesAt.mono {G' : Bytes → Prop} (h : BracesAt G p s) (imp : ∀ ⦃t⦄, G t → G' t) :
    BracesAt G' p s :=
  fun _ _ _ _ split outlined between => imp (h split outlined between)

theorem bracesAt_braceless (h : 0x7B ∉ s) : BracesAt G p s := by
  intro awaited before behind o split
  exact absurd (by rw [split]; simp) h

theorem BracesAt.cons (here : b = 0x7B → p = .between → G (b :: s))
    (leads : ∀ awaited o, step ⟨awaited, p⟩ b = some o → o.place = r) (rest : BracesAt G r s) :
    BracesAt G p (b :: s) := by
  intro awaited before behind o split outlined between
  cases before with
  | nil =>
    cases split
    cases outlined
    exact here rfl between
  | cons c before =>
    obtain ⟨rfl, rfl⟩ := List.cons.inj split
    obtain ⟨⟨awaited', place⟩, first, later⟩ := run_cons_eq_some.mp outlined
    obtain rfl : place = r := leads awaited _ first
    exact rest rfl later between

/-- What holds of a text holds of every longer one. -/
def Grows (G : Bytes → Prop) : Prop := ∀ ⦃t⦄ more, G t → G (t ++ more)

theorem BracesAt.append (grows : Grows G) (first : BracesAt G p s)
    (leads : Balanced p s r) (second : BracesAt G r t) : BracesAt G p (s ++ t) := by
  intro awaited before behind o split outlined between
  have within (front : Bytes) (here : t = front ++ 0x7B :: behind) (eq : before = s ++ front) :
      G (0x7B :: behind) := by
    subst eq
    obtain ⟨o', one, two⟩ := run_append_eq_some.mp outlined
    have passed : run ⟨awaited, p⟩ s = some ⟨awaited, r⟩ := run_inside awaited leads
    rw [passed] at one
    cases one
    exact second here two between
  rcases List.append_eq_append_iff.mp split with ⟨front, eq, split⟩ | ⟨rest, rfl, eq⟩
  · exact within front split eq
  · cases rest with
    | nil => exact within [] eq.symm (by simp)
    | cons c rest =>
      obtain ⟨rfl, rfl⟩ := List.cons.inj eq
      exact grows t (first rfl outlined between)

-- ---------------------------------------------------------------------------
-- Braces of strings
-- ---------------------------------------------------------------------------

theorem bracesAt_behindQuote (s : String) : BracesAt G .inString (Text.behindQuote s) := by
  intro awaited before behind o split outlined between
  have inside := Text.inside_escaped s.toList
  have part : before <+: Utf8.encode (s.toList.flatMap escaped) := by
    have part : before <+: Text.behindQuote s := split ▸ List.prefix_append _ _
    rcases List.prefix_concat_iff.mp part with whole | part
    · have lengths := congrArg List.length (whole ▸ split)
      simp [Text.behindQuote] at lengths
    · exact part
  obtain ⟨place, quoted, balanced⟩ := inside.stays part
  have same : run ⟨awaited, .inString⟩ before = some ⟨awaited, place⟩ := run_inside awaited balanced
  rw [same] at outlined
  cases outlined
  rcases quoted with rfl | rfl
  · cases between
  · cases between

theorem balanced_behindQuote (s : String) : Balanced .inString (Text.behindQuote s) .behindString :=
  (Text.inside_escaped s.toList).ends.append rfl

/-- What leads from one place to another leads there whatever is open. -/
theorem place_of_step {awaited : Bytes} {o : Outline} (known : step ⟨[], p⟩ b = some ⟨[], r⟩)
    (h : step ⟨awaited, p⟩ b = some o) : o.place = r := by
  have same : step ⟨awaited, p⟩ b = some ⟨awaited, r⟩ := Outline.step_inside awaited known
  rw [same] at h
  cases h
  rfl

/-- A comma ends what stands before it. -/
theorem step_comma (outside : p.Outside) : step ⟨[], p⟩ 0x2C = some ⟨[], .between⟩ := by
  rcases outside with rfl | rfl
  · rfl
  · rfl

-- ---------------------------------------------------------------------------
-- Braces of lists and objects
-- ---------------------------------------------------------------------------

/-- The text of the value has an outline of its own, and `G` holds from each of its braces on. -/
structure Framed (G : Bytes → Prop) (v : Value) : Prop where
  braces : BracesAt G .between v.octets
  balanced : ∃ q, q.Outside ∧ Balanced .between v.octets q

section Lists

variable {x : Value} {xs : List Value} {m : String × Value} {ms : List (String × Value)}

theorem bracesAt_elementsTail (grows : Grows G) (outside : p.Outside)
    (framed : ∀ x ∈ xs, Framed G x) : BracesAt G p (Value.elementsTail xs) := by
  induction xs generalizing p with
  | nil => exact bracesAt_braceless (by simp [Value.elementsTail])
  | cons x xs ih =>
    obtain ⟨braces, q, outside', balanced⟩ := framed x (by simp)
    have others := ih outside' fun y mem => framed y (by simp [mem])
    rw [Value.elementsTail_cons]
    exact .cons (by simp) (fun _ _ => place_of_step (step_comma outside))
      (braces.append grows balanced others)

theorem bracesAt_array (grows : Grows G) (framed : ∀ x ∈ xs, Framed G x) :
    BracesAt G .between (Value.array xs).octets := by
  have opens : ∀ awaited o, step ⟨awaited, .between⟩ 0x5B = some o → o.place = .between := by
    intro awaited o h
    cases h
    rfl
  cases xs with
  | nil => exact bracesAt_braceless (by rw [Value.octets_array_nil]; decide)
  | cons x xs =>
    obtain ⟨braces, q, outside, balanced⟩ := framed x (by simp)
    have others := bracesAt_elementsTail grows outside
      fun y (mem : y ∈ xs) => framed y (by simp [mem])
    rw [Value.octets_array_cons]
    exact .cons (by simp) opens (braces.append grows balanced others)

/-- A member and what follows it. -/
theorem bracesAt_member (grows : Grows G) (framed : Framed G m.2)
    (others : ∀ p : Place, p.Outside → BracesAt G p t) :
    BracesAt G .between (0x22 :: (Value.memberOctets m ++ t)) := by
  obtain ⟨braces, q, outside, balanced⟩ := framed
  have value := braces.append grows balanced (others q outside)
  have colon : BracesAt G .behindString (0x3A :: (m.2.octets ++ t)) :=
    .cons (by simp) (fun _ _ => place_of_step rfl) value
  have key := (bracesAt_behindQuote m.1).append grows (balanced_behindQuote m.1) colon
  have split : Value.memberOctets m ++ t = Text.behindQuote m.1 ++ 0x3A :: (m.2.octets ++ t) := by
    simp [Value.memberOctets]
  rw [split]
  exact .cons (by simp) (fun _ _ => place_of_step rfl) key

theorem bracesAt_membersTail (grows : Grows G) (outside : p.Outside)
    (framed : ∀ m ∈ ms, Framed G m.2) : BracesAt G p (Value.membersTail ms) := by
  induction ms generalizing p with
  | nil => exact bracesAt_braceless (by simp [Value.membersTail])
  | cons m ms ih =>
    have others := fun (p : Place) (outside : p.Outside) =>
      ih outside fun n mem => framed n (by simp [mem])
    rw [Value.membersTail_cons]
    exact .cons (by simp) (fun _ _ => place_of_step (step_comma outside))
      (bracesAt_member grows (framed m (by simp)) others)

/-- The braces of an object behind the one that opens it. -/
theorem bracesAt_object (grows : Grows G) (framed : ∀ m ∈ ms, Framed G m.2) :
    ∃ t, (Value.object ms).octets = 0x7B :: t ∧ BracesAt G .between t := by
  cases ms with
  | nil => exact ⟨_, Value.octets_object_nil, bracesAt_braceless (by decide)⟩
  | cons m ms =>
    have others := fun (p : Place) (outside : p.Outside) =>
      bracesAt_membersTail grows outside fun n (mem : n ∈ ms) => framed n (by simp [mem])
    exact ⟨_, Value.octets_object_cons, bracesAt_member grows (framed m (by simp)) others⟩

end Lists

-- ---------------------------------------------------------------------------
-- Braces of values
-- ---------------------------------------------------------------------------

variable {P : Nat → Value → Prop} {d : Nat} {v : Value}

/-- The text starts with that of an object at depth `d` or deeper, and `P` holds throughout that object. -/
def StartsObject (P : Nat → Value → Prop) (d : Nat) (t : Bytes) : Prop :=
  ∃ (w : Value) (n : Nat), d ≤ n ∧ w.isObject ∧ w.Everywhere P n ∧ w.octets <+: t

theorem grows_startsObject (P : Nat → Value → Prop) (d : Nat) : Grows (StartsObject P d) := by
  rintro t more ⟨w, n, deep, object, holds, part⟩
  exact ⟨w, n, deep, object, holds, part.trans (List.prefix_append t more)⟩

theorem StartsObject.shallower (h : StartsObject P (d + 1) t) : StartsObject P d t := by
  obtain ⟨w, n, deep, object, holds, part⟩ := h
  exact ⟨w, n, Nat.le_of_succ_le deep, object, holds, part⟩

/-- A value that can be read back is balanced. -/
theorem balanced_octets (h : v.Everywhere Readable d) (bound : d ≤ maxDepth) :
    ∃ q, q.Outside ∧ Balanced .between v.octets q := by
  have read := (printed_value h (Nat.add_sub_cancel' bound)).whole [] nofun
  obtain ⟨used, q, split, outside, balanced⟩ := takesBalanced_value _ read
  rw [List.append_nil, List.append_nil] at split
  exact ⟨q, outside, split ▸ balanced⟩

/-- A list or an object that can be read back has room for what is in it. -/
theorem Readable.room (h : Readable d v) (nonempty : v.children ≠ []) : d + 1 ≤ maxDepth := by
  cases v with
  | null | bool | number | string => exact absurd rfl nonempty
  | array | object => exact h

theorem digits_braceless {n : Nat} : 0x7B ∉ (Value.number (.integer n)).octets := by
  intro mem
  rw [Value.octets, Value.compact, Numeral.text_integer] at mem
  exact absurd ((Numeral.decimal_toDigits n).isDigit _ mem) (by decide)

/-- Each brace outside of strings starts an object of the value. -/
theorem framed_value (readable : ∀ ⦃d w⦄, P d w → Readable d w) (h : v.Everywhere P d)
    (bound : d ≤ maxDepth) : Framed (StartsObject P d) v := by
  refine ⟨?_, balanced_octets (h.mono readable) bound⟩
  induction h with
  | @intro d v here inside ih =>
    have framed : ∀ w ∈ v.children, Framed (StartsObject P (d + 1)) w := by
      intro w mem
      have room : d + 1 ≤ maxDepth := (readable here).room (List.ne_nil_of_mem mem)
      exact ⟨ih w mem room, balanced_octets ((inside w mem).mono readable) room⟩
    have grows := grows_startsObject P (d + 1)
    cases v with
    | null => exact bracesAt_braceless (by decide)
    | bool b =>
      cases b with
      | true => exact bracesAt_braceless (by decide)
      | false => exact bracesAt_braceless (by decide)
    | number n =>
      obtain ⟨k, -, rfl⟩ := readable here
      exact bracesAt_braceless digits_braceless
    | string s =>
      have octets : (Value.string s).octets = 0x22 :: Text.behindQuote s := Text.encode_quoted s
      rw [octets]
      exact .cons (by simp) (fun _ _ => place_of_step rfl) (bracesAt_behindQuote s)
    | array vs => exact (bracesAt_array grows framed).mono fun _ starts => starts.shallower
    | object ms =>
      obtain ⟨t, octets, braces⟩ := bracesAt_object grows fun m mem =>
        framed m.2 (List.mem_map_of_mem mem)
      have whole : StartsObject P d (Value.object ms).octets :=
        ⟨_, d, le_rfl, rfl, .intro here inside, List.prefix_rfl⟩
      rw [octets] at whole ⊢
      refine .cons (fun _ _ => whole) ?_ (braces.mono fun _ starts => starts.shallower)
      intro awaited o opened
      cases opened
      rfl

/-- The braces of an object but the first start objects that are inside it. -/
theorem braces_inside {ms : List (String × Value)} (readable : ∀ ⦃d w⦄, P d w → Readable d w)
    (h : (Value.object ms).Everywhere P d) (bound : d < maxDepth) :
    ∃ t, (Value.object ms).octets = 0x7B :: t ∧ BracesAt (StartsObject P (d + 1)) .between t :=
  bracesAt_object (grows_startsObject P (d + 1)) fun _ mem =>
    framed_value readable (h.inside (List.mem_map_of_mem mem)) bound

end Overseer.Json
