-- SUMMARY: The texts of a JSON value, with any white space between their parts.
import Overseer.Proofs.Json.Printed.Numeral

/-!
# Layouts

A value has many texts: white space may stand between any two parts of a list or an object, the characters
of a string may be escaped, a number may be written in several ways. `Lays` relates a value to all of them.
What may stand for a string or a number is left to their own readers.
-/

namespace Overseer.Json

open Numeral (Ends)

variable {α : Type} {b c t u more : Bytes} {d : UInt8}

-- ---------------------------------------------------------------------------
-- White space
-- ---------------------------------------------------------------------------

/-- White space, or nothing. -/
def Blanks (s : Bytes) : Prop := ∀ b ∈ s, isBlank b

theorem Blanks.nil : Blanks [] := List.forall_mem_nil _

theorem Blanks.cons (blank : isBlank d) (blanks : Blanks b) : Blanks (d :: b) :=
  List.forall_mem_cons.mpr ⟨blank, blanks⟩

theorem Blanks.skip (blanks : Blanks b) (t : Bytes) : skipBlanks (b ++ t) = skipBlanks t :=
  List.dropWhile_append_of_pos blanks

theorem Blanks.skip_cons (blanks : Blanks b) (solid : ¬ isBlank d) (t : Bytes) :
    skipBlanks (b ++ d :: t) = d :: t := by
  rw [blanks.skip]
  exact List.dropWhile_cons_of_neg solid

theorem Blanks.skip_all (blanks : Blanks b) : skipBlanks b = [] := by
  rw [← List.append_nil b, blanks.skip]
  rfl

theorem Blanks.colon (blanks : Blanks b) (t : Bytes) : colon (b ++ 0x3A :: t) = .ok t := by
  rw [Json.colon, blanks.skip_cons (by decide : ¬ isBlank 0x3A)]
  rfl

/-- What ends a value also ends it behind white space. -/
theorem Blanks.ends (blanks : Blanks b) (ends : Ends t) : Ends (b ++ t) := by
  cases b with
  | nil => exact ends
  | cons d b =>
    intro e mem
    obtain rfl := Option.some.inj mem
    exact .inl (blanks d List.mem_cons_self)

theorem Blanks.ends_all (blanks : Blanks b) : Ends b := by
  rw [← List.append_nil b]
  exact blanks.ends nofun

-- ---------------------------------------------------------------------------
-- Lists and objects
-- ---------------------------------------------------------------------------

/-- What stands behind an item of a list or an object: further items, each behind a comma, and what closes
    it. -/
inductive Series (item : α → Bytes → Prop) (close : UInt8) : List α → Bytes → Prop where
  | close {b : Bytes} (blanks : Blanks b) : Series item close [] (b ++ [close])
  | more {a : α} {as : List α} {b c t u : Bytes} (before : Blanks b) (behind : Blanks c) (first : item a t)
      (others : Series item close as u) : Series item close (a :: as) (b ++ 0x2C :: (c ++ (t ++ u)))

/-- What stands behind the opening of a list or an object. -/
inductive Enclosed (item : α → Bytes → Prop) (close : UInt8) : List α → Bytes → Prop where
  | empty {b : Bytes} (blanks : Blanks b) : Enclosed item close [] (b ++ [close])
  | items {a : α} {as : List α} {b t u : Bytes} (before : Blanks b) (first : item a t)
      (others : Series item close as u) : Enclosed item close (a :: as) (b ++ (t ++ u))

/-- Whatever follows, the text is read as this string; it starts behind the opening quote. -/
def Spelled (s : String) (t : Bytes) : Prop := ∀ more, Text.read (t ++ more) = .ok (s, more)

/-- A member of an object: its key, a colon and its value. -/
inductive Member (item : Value → Bytes → Prop) : String × Value → Bytes → Prop where
  | intro {key : String} {v : Value} {k b c t : Bytes} (name : Spelled key k) (before : Blanks b)
      (behind : Blanks c) (value : item v t) :
      Member item (key, v) (0x22 :: (k ++ (b ++ 0x3A :: (c ++ t))))

theorem Series.imp {item other : α → Bytes → Prop} {close : UInt8} {as : List α}
    (imp : ∀ a t, item a t → other a t) (series : Series item close as t) : Series other close as t := by
  induction series with
  | close blanks => exact .close blanks
  | more before behind first _ ih => exact .more before behind (imp _ _ first) ih

theorem Enclosed.imp {item other : α → Bytes → Prop} {close : UInt8} {as : List α}
    (imp : ∀ a t, item a t → other a t) (enclosed : Enclosed item close as t) : Enclosed other close as t := by
  cases enclosed with
  | empty blanks => exact .empty blanks
  | items before first others => exact .items before (imp _ _ first) (others.imp imp)

theorem Series.ends {item : α → Bytes → Prop} {close : UInt8} {as : List α} (series : Series item close as t)
    (closing : close = 0x5D ∨ close = 0x7D) (more : Bytes) : Ends (t ++ more) := by
  cases series with
  | close blanks =>
    rw [List.append_assoc]
    apply blanks.ends
    intro e mem
    obtain rfl := Option.some.inj mem
    exact .inr (.inr closing)
  | more before =>
    rw [List.append_assoc]
    apply before.ends
    intro e mem
    obtain rfl := Option.some.inj mem
    exact .inr (.inl rfl)

-- ---------------------------------------------------------------------------
-- Values
-- ---------------------------------------------------------------------------

/-- How a truth value is written. -/
def boolWord (truth : Bool) : Bytes := if truth then 0x74 :: trueTail else 0x66 :: falseTail

/-- The text is one of the value. -/
inductive Lays : Value → Bytes → Prop where
  | null : Lays .null (0x6E :: nullTail)
  | bool (truth : Bool) : Lays (.bool truth) (boolWord truth)
  | number {n : Number} {t : Bytes} (read : ∀ more, Ends more → Numeral.read (t ++ more) = .ok (n, more)) :
      Lays (.number n) t
  | string {s : String} {t : Bytes} (spelled : Spelled s t) : Lays (.string s) (0x22 :: t)
  | array {vs : List Value} {t : Bytes} (elements : Enclosed Lays 0x5D vs t) : Lays (.array vs) (0x5B :: t)
  | object {ms : List (String × Value)} {t : Bytes} (members : Enclosed (Member Lays) 0x7D ms t) :
      Lays (.object ms) (0x7B :: t)

variable {v : Value}

/-- What holds of scalars, and of a list or an object if it holds of what is in it, holds of every value. -/
theorem Lays.nested {P : Value → Bytes → Prop} (null : P .null (0x6E :: nullTail))
    (bool : ∀ truth, P (.bool truth) (boolWord truth))
    (number : ∀ n t, (∀ more, Ends more → Numeral.read (t ++ more) = .ok (n, more)) → P (.number n) t)
    (string : ∀ s t, Spelled s t → P (.string s) (0x22 :: t))
    (array : ∀ vs t, Enclosed P 0x5D vs t → P (.array vs) (0x5B :: t))
    (object : ∀ ms t, Enclosed (Member P) 0x7D ms t → P (.object ms) (0x7B :: t)) (lays : Lays v t) :
    P v t :=
  @Lays.rec (fun v t _ => P v t) (fun vs t _ => Enclosed P 0x5D vs t) (fun ms t _ => Enclosed (Member P) 0x7D ms t)
    (fun vs t _ => Series P 0x5D vs t) (fun m t _ => Member P m t) (fun ms t _ => Series (Member P) 0x7D ms t)
    null bool (fun read => number _ _ read) (fun spelled => string _ _ spelled)
    (fun _ ih => array _ _ ih) (fun _ ih => object _ _ ih)
    .empty (fun before _ _ first others => .items before first others)
    .empty (fun before _ _ first others => .items before first others)
    .close (fun before behind _ _ first others => .more before behind first others)
    (fun name before behind _ value => .intro name before behind value)
    .close (fun before behind _ _ first others => .more before behind first others) v t lays

/-- The text is one of the value, with any white space around it. -/
inductive Document (v : Value) : Bytes → Prop where
  | intro {b t c : Bytes} (before : Blanks b) (lays : Lays v t) (behind : Blanks c) : Document v (b ++ (t ++ c))

theorem Lays.document (lays : Lays v t) : Document v t := by
  rw [← List.append_nil t]
  exact .intro .nil lays .nil

theorem Document.followed (document : Document v t) (blanks : Blanks b) : Document v (t ++ b) := by
  obtain ⟨before, lays, behind⟩ := document
  rw [List.append_assoc, List.append_assoc]
  exact .intro before lays (List.forall_mem_append.mpr ⟨behind, blanks⟩)

theorem startsNumber_of_read {n : Number} (read : Numeral.read t = .ok (n, u)) :
    ∃ d s, t = d :: s ∧ startsNumber d := by
  cases t with
  | nil => cases read
  | cons d s =>
    refine ⟨d, s, rfl, ?_⟩
    by_cases minus : d = 0x2D
    · simp [startsNumber, minus]
    · by_cases digit : Numeral.isDigit d
      · simp [startsNumber, digit]
      · rw [Numeral.read, if_neg minus, Numeral.unsigned_other digit] at read
        cases read

theorem ne_of_startsNumber {e : UInt8} (number : startsNumber d) (other : startsNumber e = false) : d ≠ e := by
  rintro rfl
  rw [other] at number
  cases number

theorem solid_of_startsNumber (number : startsNumber d) : ¬ isBlank d := by
  intro blank
  rcases Numeral.blank_cases blank with rfl | rfl | rfl | rfl <;> exact absurd number (by decide)

/-- The first octet of a text, which tells whether the value is null. -/
theorem Lays.starts (lays : Lays v t) : ∃ d s, t = d :: s ∧ ¬ isBlank d ∧ (d = 0x6E → v = .null) := by
  cases lays with
  | null => exact ⟨_, _, rfl, by decide, fun _ => rfl⟩
  | bool truth =>
    cases truth with
    | true | false => exact ⟨_, _, rfl, by decide, fun n => absurd n (by decide)⟩
  | string | array | object => exact ⟨_, _, rfl, by decide, fun n => absurd n (by decide)⟩
  | number read =>
    obtain ⟨d, s, rfl, number⟩ := startsNumber_of_read (List.append_nil t ▸ read [] nofun)
    exact ⟨d, s, rfl, solid_of_startsNumber number, fun n => absurd n (ne_of_startsNumber number rfl)⟩

end Overseer.Json
