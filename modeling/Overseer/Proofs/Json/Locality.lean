-- SUMMARY: When an answer of a reader is settled by the octets it consumed, and a refusal by those it saw.
import Mathlib.Data.List.Infix
import Mathlib.Data.List.TakeWhile
import Overseer.Json.Numeral

/-!
# Locality

A reader that is given a text piece by piece must not answer too early. An answer is settled by the
octets that were consumed, or by these and the octet behind them: a number ends where no digit follows.
A refusal is settled unless it says that the text ended too early.

One refusal is not: an integer of 309 digits is too large until a negative exponent follows. `SettledIf` sets
such refusals apart, and `ShortRuns` leaves such texts out.
-/

namespace Overseer.Json

/-- No 309 decimal digits stand in a row. -/
def ShortRuns (s : Bytes) : Prop :=
  ∀ run, run <:+: s → (∀ b ∈ run, Numeral.isDigit b) → run.length < 309

theorem ShortRuns.of_infix {s t : Bytes} (h : ShortRuns s) (part : t <:+: s) : ShortRuns t :=
  fun run inside => h run (inside.trans part)

theorem ShortRuns.right {s t : Bytes} (h : ShortRuns (s ++ t)) : ShortRuns t :=
  h.of_infix (List.suffix_append s t).isInfix

theorem ShortRuns.left {s t : Bytes} (h : ShortRuns (s ++ t)) : ShortRuns s :=
  h.of_infix (List.prefix_append s t).isInfix

theorem shortRuns_of_length {s : Bytes} (h : s.length < 309) : ShortRuns s :=
  fun _ inside _ => lt_of_le_of_lt inside.length_le h

variable {α β : Type}

/-- Every answer is settled by the octets consumed. -/
def Delimited (read : Bytes → Answer α) : Prop :=
  ∀ ⦃s rest : Bytes⦄ ⦃a : α⦄, read s = .ok (a, rest) →
    ∃ used, s = used ++ rest ∧ ∀ more, read (used ++ more) = .ok (a, more)

/-- Every answer is settled by the octets consumed and the one behind them. -/
def Local (read : Bytes → Answer α) : Prop :=
  ∀ ⦃s rest : Bytes⦄ ⦃a : α⦄, read s = .ok (a, rest) →
    ∃ used, s = used ++ rest ∧ ∀ more, more.head? = rest.head? → read (used ++ more) = .ok (a, more)

/-- A refusal of `s` stays one when more octets follow, unless they are what it asks for. -/
def Settled (read : Bytes → Answer α) (s : Bytes) : Prop :=
  ∀ ⦃fault : Fault⦄, read s = .error fault → fault.isUnfinished = false →
    ∀ more, ∃ why, read (s ++ more) = .error why

/-- Whether a fault calls a number too large. -/
def Fault.TooLarge (fault : Fault) : Prop := fault.cause = .malformed .numberOutOfRange

/-- A refusal of `s` is settled, except that numbers which are too large so far may be so for the moment
    unless `bounded`. -/
def SettledIf (bounded : Prop) (read : Bytes → Answer α) (s : Bytes) : Prop :=
  ∀ ⦃fault : Fault⦄, read s = .error fault → fault.isUnfinished = false → (fault.TooLarge → bounded) →
    ∀ more, ∃ why, read (s ++ more) = .error why

theorem Delimited.isLocal {read : Bytes → Answer α} (h : Delimited read) : Local read := by
  intro s rest a eq
  obtain ⟨used, split, takes⟩ := h eq
  exact ⟨used, split, fun more _ => takes more⟩

/-- An answer in front of further octets is not changed by what follows these. -/
theorem Local.append {read : Bytes → Answer α} (h : Local read) {s rest : Bytes} {a : α}
    (eq : read s = .ok (a, rest)) (more : Bytes) (further : rest ≠ []) :
    read (s ++ more) = .ok (a, rest ++ more) := by
  obtain ⟨used, rfl, takes⟩ := h eq
  rw [List.append_assoc]
  exact takes _ (List.head?_append_of_ne_nil rest further)

theorem Delimited.append {read : Bytes → Answer α} (h : Delimited read) {s rest : Bytes} {a : α}
    (eq : read s = .ok (a, rest)) (more : Bytes) : read (s ++ more) = .ok (a, rest ++ more) := by
  obtain ⟨used, rfl, takes⟩ := h eq
  rw [List.append_assoc]
  exact takes _

theorem Local.suffix {read : Bytes → Answer α} (h : Local read) {s rest : Bytes} {a : α}
    (eq : read s = .ok (a, rest)) : rest <:+ s := by
  obtain ⟨used, rfl, -⟩ := h eq
  exact List.suffix_append used rest

theorem Settled.settledIf {bounded : Prop} {read : Bytes → Answer α} {s : Bytes} (h : Settled read s) :
    SettledIf bounded read s :=
  fun _ eq finished _ => h eq finished

theorem SettledIf.settled {bounded : Prop} {read : Bytes → Answer α} {s : Bytes}
    (h : SettledIf bounded read s) (holds : bounded) : Settled read s :=
  fun _ eq finished => h eq finished fun _ => holds

theorem SettledIf.mono {bounded narrower : Prop} {read : Bytes → Answer α} {s : Bytes}
    (h : SettledIf bounded read s) (implies : narrower → bounded) : SettledIf narrower read s :=
  fun _ eq finished large => h eq finished fun big => implies (large big)

/-- Texts that agree in the octet behind `s` agree in the first octet from `s` on. -/
theorem head?_append_congr {s more rest : Bytes} (h : more.head? = rest.head?) :
    (s ++ more).head? = (s ++ rest).head? := by
  rw [List.head?_append, List.head?_append, h]

/-! ## Changed answers -/

theorem map_eq_ok {f : α → β} {answer : Answer α} {a : α} {rest : Bytes}
    (h : answer = .ok (a, rest)) : answer.map f = .ok (f a, rest) := by
  rw [h]; rfl

theorem map_eq_error {f : α → β} {answer : Answer α} {fault : Fault} :
    answer.map f = .error fault ↔ answer = .error fault := by
  match answer with
  | .ok (_, _) => simp [Answer.map]
  | .error _ => simp [Answer.map]

theorem Delimited.map {read : Bytes → Answer α} (h : Delimited read) (f : α → β) :
    Delimited fun s => (read s).map f := by
  intro s rest b eq
  obtain ⟨a, found, rfl⟩ := Answer.map_ok eq
  obtain ⟨used, split, takes⟩ := h found
  exact ⟨used, split, fun more => map_eq_ok (takes more)⟩

theorem Local.map {read : Bytes → Answer α} (h : Local read) (f : α → β) :
    Local fun s => (read s).map f := by
  intro s rest b eq
  obtain ⟨a, found, rfl⟩ := Answer.map_ok eq
  obtain ⟨used, split, takes⟩ := h found
  exact ⟨used, split, fun more same => map_eq_ok (takes more same)⟩

theorem SettledIf.map {bounded : Prop} {read : Bytes → Answer α} {s : Bytes}
    (h : SettledIf bounded read s) (f : α → β) : SettledIf bounded (fun s => (read s).map f) s := by
  intro fault eq finished large more
  obtain ⟨why, refused⟩ := h (map_eq_error.mp eq) finished large more
  exact ⟨why, map_eq_error.mpr refused⟩

/-! ## White space -/

/-- White space is passed over up to an octet that is none, whatever follows that octet. -/
theorem skipBlanks_cons {s t : Bytes} {b : UInt8} (h : skipBlanks s = b :: t) :
    ∃ blanks, s = blanks ++ b :: t ∧ ∀ more, skipBlanks (blanks ++ b :: more) = b :: more := by
  have solid : ¬ isBlank b := by
    have := List.head?_dropWhile_not isBlank s
    rw [← skipBlanks, h] at this
    simpa using this
  refine ⟨s.takeWhile isBlank, ?_, fun more => ?_⟩
  · rw [← h, skipBlanks, List.takeWhile_append_dropWhile]
  · have all : ∀ c ∈ s.takeWhile isBlank, isBlank c := fun c mem => List.mem_takeWhile_imp mem
    rw [skipBlanks, List.dropWhile_append_of_pos all, List.dropWhile_cons_of_neg solid]

theorem skipBlanks_append {s t : Bytes} {b : UInt8} (h : skipBlanks s = b :: t) (more : Bytes) :
    skipBlanks (s ++ more) = b :: (t ++ more) := by
  obtain ⟨blanks, rfl, skips⟩ := skipBlanks_cons h
  rw [List.append_assoc]
  exact skips _

end Overseer.Json
