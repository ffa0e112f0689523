-- SUMMARY: How far the record of an exit tells what the wait status said.
import Overseer.Proofs.Supervision.Verdict

/-!
# Endings

A wait status says that a process ended with a code, that a signal killed it, or neither. The record made of
it keeps codes apart from the signals that have a name. A signal without a name leaves only its status, and
that is also the status of an exit code.
-/

namespace Overseer

-- ---------------------------------------------------------------------------
-- Signals by number
-- ---------------------------------------------------------------------------

namespace Signal

theorem number_bounds (g : Signal) : 1 ≤ g.number ∧ g.number ≤ 31 := by
  cases g <;> decide

theorem ofNumber?_number (g : Signal) : ofNumber? g.number = some g := by
  cases g <;> rfl

theorem ofNumber?_eq_some_iff {n : Int} {g : Signal} : ofNumber? n = some g ↔ n = g.number := by
  constructor
  · intro found
    have same : ((g.number : Nat) : Int) = n := by
      simpa using List.find?_some found
    exact same.symm
  · intro same
    rw [same]
    exact ofNumber?_number g

theorem ofNumber?_eq_some {n : Nat} {g : Signal} : ofNumber? n = some g ↔ n = g.number :=
  ofNumber?_eq_some_iff.trans Int.ofNat_inj

/-- The signals without a name, real-time signals above all. -/
theorem ofNumber?_eq_none {n : Nat} (killed : 1 ≤ n) : ofNumber? n = none ↔ 32 ≤ n := by
  constructor
  · intro missing
    have named : ∀ k ∈ List.range 32, 1 ≤ k → (ofNumber? (k : Nat)).isSome := by decide
    apply Nat.not_lt.mp
    intro small
    have found := named n (List.mem_range.mpr small) killed
    rw [missing] at found
    cases found
  · intro large
    cases found : ofNumber? n with
    | none => rfl
    | some g =>
      have few := (number_bounds g).2
      rw [← ofNumber?_eq_some.mp found] at few
      exact absurd (Nat.le_trans large few) (by decide)

end Signal

-- ---------------------------------------------------------------------------
-- What is said and what is kept
-- ---------------------------------------------------------------------------

/-- What a wait status says about the end of a process. -/
inductive Ending where
  | exited (code : Nat)
  | killed (number : Nat)
  /-- The process did not end: it was only stopped or continued. -/
  | unknown
  deriving DecidableEq, Repr

/-- Two endings whose records are the same. -/
inductive Ending.Confused : Ending → Ending → Prop where
  | nameless {n : Nat} (large : 32 ≤ n) : Confused (.killed n) (.exited (128 + n))
  | unknown : Confused .unknown (.exited 255)

namespace WaitStatus

variable {w : WaitStatus} {n code : Nat}

def ending (w : WaitStatus) : Ending :=
  match w.code?, w.signal? with
  | some code, _ => .exited code
  | none, some number => .killed number
  | none, none => .unknown

theorem ending_eq_exited : w.ending = .exited code ↔ w.code? = some code := by
  unfold ending
  split
  · rename_i byItself
    simp [byItself]
  · rename_i none _
    simp [none]
  · rename_i none _
    simp [none]

theorem ending_eq_killed : w.ending = .killed n ↔ w.signal? = some n := by
  constructor
  · intro killed
    unfold ending at killed
    split at killed
    · cases killed
    · rename_i number
      cases killed
      exact number
    · cases killed
  · intro number
    simp [ending, code?_of_signal? number, number]

/-- All that a wait status can say, with the range of its numbers. -/
theorem ending_cases (w : WaitStatus) :
    (∃ code, w.ending = .exited code ∧ code ≤ 255) ∨
      (∃ n, w.ending = .killed n ∧ 1 ≤ n ∧ n ≤ 126) ∨ w.ending = .unknown := by
  cases said : w.ending with
  | exited code => exact .inl ⟨code, rfl, code?_le (ending_eq_exited.mp said)⟩
  | killed n => exact .inr (.inl ⟨n, rfl, signal?_bounds (ending_eq_killed.mp said)⟩)
  | unknown => exact .inr (.inr rfl)

end WaitStatus

namespace ExitStatus

/-- The record of an ending. -/
def ofEnding : Ending → ExitStatus
  | .exited code => ⟨code, none⟩
  | .killed n => ⟨signalBase + n, Signal.ofNumber? n⟩
  | .unknown => ⟨unknownStatus, none⟩

variable {w v : WaitStatus} {n : Nat}

theorem ofWait_eq (w : WaitStatus) : ofWait w = ofEnding w.ending := by
  unfold ofWait WaitStatus.ending
  split <;> simp_all [ofEnding]

/-- The signal of a record is the one that killed the process. -/
theorem signal_eq_some {g : Signal} :
    (ofWait w).signal = some g ↔ w.signal? = some g.number := by
  rw [ofWait_eq, ← WaitStatus.ending_eq_killed]
  cases w.ending with
  | exited code => simp [ofEnding]
  | killed n => simp [ofEnding, Signal.ofNumber?_eq_some]
  | unknown => simp [ofEnding]

/-- The signal that killed the process is missing from the record if it has no name. -/
theorem signal_eq_none (killed : w.signal? = some n) : (ofWait w).signal = none ↔ 32 ≤ n := by
  have least := (WaitStatus.signal?_bounds killed).1
  rw [ofWait_eq, WaitStatus.ending_eq_killed.mpr killed]
  exact Signal.ofNumber?_eq_none least

theorem ofEnding_confused {e f : Ending} (h : e.Confused f) : ofEnding e = ofEnding f := by
  cases h with
  | @nameless n large =>
    have missing : Signal.ofNumber? n = none :=
      (Signal.ofNumber?_eq_none (Nat.le_trans (by decide) large)).mpr large
    simp [ofEnding, missing, signalBase]
  | unknown => rfl

/-- What is recorded like an exit code is this code or taken for it. -/
theorem confused_of_code {code : Nat} (coded : v.ending = .exited code)
    (same : ofWait w = ofWait v) : w.ending = v.ending ∨ w.ending.Confused v.ending := by
  rw [ofWait_eq, ofWait_eq, coded] at same
  rw [coded]
  cases said : w.ending with
  | exited own =>
    simp only [said, ofEnding, mk.injEq, Int.natCast_inj, and_true] at same
    exact .inl (congrArg _ same)
  | killed n =>
    simp only [said, ofEnding, mk.injEq, signalBase] at same
    obtain ⟨sum, missing⟩ := same
    have least := (WaitStatus.signal?_bounds (WaitStatus.ending_eq_killed.mp said)).1
    have large := (Signal.ofNumber?_eq_none least).mp missing
    have eq : code = 128 + n := by omega
    rw [eq]
    exact .inr (.nameless large)
  | unknown =>
    simp only [said, ofEnding, mk.injEq, unknownStatus, and_true] at same
    have eq : code = 255 := by omega
    rw [eq]
    exact .inr .unknown

/-- Apart from exit codes no two endings have one record. -/
theorem ending_of_uncoded (first : ∀ code, w.ending ≠ .exited code)
    (second : ∀ code, v.ending ≠ .exited code) (same : ofWait w = ofWait v) :
    w.ending = v.ending := by
  have status := congrArg ExitStatus.status same
  rw [ofWait_eq, ofWait_eq] at status
  rcases WaitStatus.ending_cases w with ⟨code, said, -⟩ | ⟨n, said, -, most⟩ | said
  · exact absurd said (first code)
  · rcases WaitStatus.ending_cases v with ⟨code, other, -⟩ | ⟨m, other, -, -⟩ | other
    · exact absurd other (second code)
    · simp only [said, other, ofEnding, signalBase] at status
      have eq : n = m := by omega
      rw [said, other, eq]
    · simp only [said, other, ofEnding, signalBase, unknownStatus] at status
      omega
  · rcases WaitStatus.ending_cases v with ⟨code, other, -⟩ | ⟨m, other, -, most⟩ | other
    · exact absurd other (second code)
    · simp only [said, other, ofEnding, signalBase, unknownStatus] at status
      omega
    · rw [said, other]

/-- Records are the same only if what the wait statuses say is the same or confused. -/
theorem ofWait_eq_iff (w v : WaitStatus) :
    ofWait w = ofWait v ↔
      w.ending = v.ending ∨ w.ending.Confused v.ending ∨ v.ending.Confused w.ending := by
  constructor
  · intro same
    by_cases first : ∃ code, w.ending = .exited code
    · obtain ⟨code, coded⟩ := first
      rcases confused_of_code coded same.symm with equal | confused
      · exact .inl equal.symm
      · exact .inr (.inr confused)
    by_cases second : ∃ code, v.ending = .exited code
    · obtain ⟨code, coded⟩ := second
      rcases confused_of_code coded same with equal | confused
      · exact .inl equal
      · exact .inr (.inl confused)
    · exact .inl (ending_of_uncoded (not_exists.mp first) (not_exists.mp second) same)
  · rintro (same | confused | confused)
    · rw [ofWait_eq, ofWait_eq, same]
    · rw [ofWait_eq, ofWait_eq, ofEnding_confused confused]
    · rw [ofWait_eq, ofWait_eq, ofEnding_confused confused]

end ExitStatus

-- ---------------------------------------------------------------------------
-- Exits
-- ---------------------------------------------------------------------------

/-- What the exits of two wait statuses tell. An exit has the signal that killed the process, if that has a
    name. A status and a signal are those of one ending only, apart from a signal without a name, which is
    taken for the code of its status, and a process that did not end, which is taken for code 255. -/
theorem Exit.tells_endings (w v : WaitStatus) (p q : UInt32) :
    let first := (Exit.ofOutcome p (some w)).exit
    let second := (Exit.ofOutcome q (some v)).exit
    (w.signal?.isSome ↔ 2 ≤ (Int8.ofNat (w.low + 1)).toInt) ∧
    (∀ g, first.signal = some g ↔ w.signal? = some g.number) ∧
    (w.signal?.isSome ∧ first.signal = none ↔ ∃ n, w.signal? = some n ∧ 32 ≤ n) ∧
    ((first.status, first.signal) = (second.status, second.signal) ↔
      w.ending = v.ending ∨ w.ending.Confused v.ending ∨ v.ending.Confused w.ending) := by
  refine ⟨w.signal?_isSome_iff, fun g => ExitStatus.signal_eq_some, ?_, ?_⟩
  · constructor
    · rintro ⟨killed, missing⟩
      obtain ⟨n, number⟩ := Option.isSome_iff_exists.mp killed
      exact ⟨n, number, (ExitStatus.signal_eq_none number).mp missing⟩
    · rintro ⟨n, number, large⟩
      exact ⟨Option.isSome_iff_exists.mpr ⟨n, number⟩, (ExitStatus.signal_eq_none number).mpr large⟩
  · rw [← ExitStatus.ofWait_eq_iff, Prod.mk.injEq, ← ExitStatus.mk.injEq]
    rfl

/-- A real-time signal is not seen, and its exit is that of code 162. -/
theorem Exit.nameless_signal_unseen :
    (WaitStatus.signalled 34).signal? = some 34 ∧
      (Exit.ofOutcome 42 (some (.signalled 34))).exit.signal = none ∧
      (WaitStatus.exited 162).code? = some 162 ∧
      (Exit.ofOutcome 42 (some (.signalled 34))).exit
        = (Exit.ofOutcome 42 (some (.exited 162))).exit := by
  decide

end Overseer
