-- SUMMARY: Pipes lose nothing, keep each stream in order, and come to an end of what is written.
import Mathlib.Tactic.SplitIfs
import Overseer.Runtime.Pipes

/-!
# Pipes

What a pipe holds, followed by what has still to be written to its stream, is all that is owed to the
reader of that stream: a write leaves it as it is, and a read takes what it read off its front. Both
make the debt smaller, so writing and reading come to an end.
-/

namespace Overseer

-- ---------------------------------------------------------------------------
-- Writes by stream
-- ---------------------------------------------------------------------------

namespace Write

variable {stream : OutStream} {w : Write} {rest : List Write}

@[simp] theorem on_nil : on stream [] = [] := rfl

theorem on_cons_self : on w.stream (w :: rest) = w.octets ++ on w.stream rest := by
  simp [on]

theorem on_cons_of_ne (other : stream ≠ w.stream) : on stream (w :: rest) = on stream rest := by
  simp [on, other.symm]

end Write

namespace Pipes

variable {p r : Pipes} {stream : OutStream} {octets : Bytes} {count : Nat}

-- ---------------------------------------------------------------------------
-- Fields
-- ---------------------------------------------------------------------------

@[simp] theorem hold_pending : (p.hold stream octets).pending = p.pending := by cases stream <;> rfl

@[simp] theorem hold_capacity : (p.hold stream octets).capacity = p.capacity := by cases stream <;> rfl

@[simp] theorem held_hold_self : (p.hold stream octets).held stream = octets := by cases stream <;> rfl

theorem held_hold_of_ne {other : OutStream} (ne : other ≠ stream) :
    (p.hold stream octets).held other = p.held other := by
  cases stream <;> cases other <;> first | rfl | exact absurd rfl ne

theorem isEmpty_iff : p.isEmpty ↔ ∀ stream, p.held stream = [] := by
  simp only [isEmpty, Bool.and_eq_true, List.isEmpty_iff]
  constructor
  · rintro ⟨stdout, stderr⟩ (_ | _)
    · exact stdout
    · exact stderr
  · intro empty
    exact ⟨empty .stdout, empty .stderr⟩

-- ---------------------------------------------------------------------------
-- What is owed
-- ---------------------------------------------------------------------------

/-- All that is still to be read of a stream. -/
def owed (p : Pipes) (stream : OutStream) : Bytes := p.held stream ++ Write.on stream p.pending

/-- All that a write can do. -/
theorem write?_cases (h : p.write? = some r) :
    ∃ w rest, p.pending = w :: rest ∧
      (w.octets = [] ∧ r = { p with pending := rest } ∨
        ∃ room, 0 < room ∧ w.octets ≠ [] ∧
          r = ({ p with pending := { w with octets := w.octets.drop room } :: rest }.hold w.stream
            (p.held w.stream ++ w.octets.take room))) := by
  unfold write? at h
  split at h
  · cases h
  · rename_i w rest pending
    dsimp only at h
    split_ifs at h with empty full
    · cases h
      exact ⟨w, rest, pending, .inl ⟨List.isEmpty_iff.mp empty, rfl⟩⟩
    · cases h
      have solid : w.octets ≠ [] := fun nil => empty (List.isEmpty_iff.mpr nil)
      exact ⟨w, rest, pending, .inr ⟨_, Nat.pos_of_ne_zero full, solid, rfl⟩⟩

theorem write?_capacity (h : p.write? = some r) : r.capacity = p.capacity := by
  obtain ⟨w, rest, -, ⟨-, rfl⟩ | ⟨room, -, -, rfl⟩⟩ := write?_cases h
  · rfl
  · exact hold_capacity

theorem write?_owed (h : p.write? = some r) (stream : OutStream) : r.owed stream = p.owed stream := by
  obtain ⟨w, rest, pending, ⟨empty, rfl⟩ | ⟨room, -, -, rfl⟩⟩ := write?_cases h
  · by_cases same : stream = w.stream
    · subst same
      simp [owed, pending, Write.on_cons_self, empty, held]
    · simp [owed, pending, Write.on_cons_of_ne same, held]
  · by_cases same : stream = w.stream
    · subst same
      have cut : Write.on w.stream ({ w with octets := w.octets.drop room } :: rest)
          = w.octets.drop room ++ Write.on w.stream rest :=
        Write.on_cons_self (w := { w with octets := w.octets.drop room })
      simp only [owed, held_hold_self, hold_pending, pending, Write.on_cons_self, cut]
      rw [List.append_assoc, ← List.append_assoc (w.octets.take room), List.take_append_drop]
    · have cut : Write.on stream ({ w with octets := w.octets.drop room } :: rest)
          = Write.on stream rest :=
        Write.on_cons_of_ne (w := { w with octets := w.octets.drop room }) same
      simp only [owed, held_hold_of_ne same, hold_pending, pending, Write.on_cons_of_ne same, cut]
      rfl

/-- A write leaves no more in a pipe than it holds. -/
theorem write?_fits (h : p.write? = some r) (fits : ∀ stream, (p.held stream).length ≤ p.capacity)
    (stream : OutStream) : (r.held stream).length ≤ r.capacity := by
  unfold write? at h
  split at h
  · cases h
  · rename_i w rest pending
    dsimp only at h
    split_ifs at h with empty full
    · cases h
      exact fits stream
    · cases h
      rw [hold_capacity]
      by_cases same : stream = w.stream
      · have room := fits w.stream
        rw [same, held_hold_self, List.length_append, List.length_take]
        dsimp only
        omega
      · rw [held_hold_of_ne same]
        exact fits stream

/-- The pipes of a process that has only this left to write. -/
def only (p : Pipes) (left : List Write) : Pipes := { p with pending := left }

@[simp] theorem only_pending {left : List Write} : (p.only left).pending = left := rfl

@[simp] theorem only_capacity {left : List Write} : (p.only left).capacity = p.capacity := rfl

@[simp] theorem held_only {left : List Write} : (p.only left).held stream = p.held stream := by
  cases stream <;> rfl

/-- What is to be written later has no part in a write. -/
theorem write?_append {early late : List Write} (pending : p.pending = early ++ late) (some : early ≠ []) :
    p.write? = (p.only early).write?.map fun r => { r with pending := r.pending ++ late } := by
  cases early with
  | nil => exact absurd rfl some
  | cons w early =>
    simp only [write?, pending, List.cons_append, only_pending, only_capacity, held_only]
    split_ifs
    · rfl
    · rfl
    · cases w.stream <;> rfl

theorem drop_owed_self (p : Pipes) (stream : OutStream) (count : Nat) :
    (p.held stream).take count ++ (p.drop stream count).owed stream = p.owed stream := by
  simp [owed, drop, ← List.append_assoc]

theorem drop_owed_of_ne {other : OutStream} (ne : other ≠ stream) :
    (p.drop stream count).owed other = p.owed other := by
  simp [owed, drop, held_hold_of_ne ne]

/-- Where nothing is left to be written or read. -/
theorem owed_of_empty (empty : p.isEmpty) (nothing : p.pending = []) : p.owed stream = [] := by
  simp [owed, isEmpty_iff.mp empty, nothing]

-- ---------------------------------------------------------------------------
-- The debt
-- ---------------------------------------------------------------------------

/-- How many octets are in the pipes. -/
def load (p : Pipes) : Nat := p.stdout.length + p.stderr.length

theorem load_hold (p : Pipes) (stream : OutStream) (octets : Bytes) :
    (p.hold stream octets).load + (p.held stream).length = p.load + octets.length := by
  cases stream <;> simp only [load, hold, held] <;> omega

theorem debt_cons {w : Write} {rest : List Write} (pending : p.pending = w :: rest) :
    p.debt = 2 * w.octets.length + 1 + { p with pending := rest }.debt := by
  simp only [debt, pending, List.foldr_cons]
  omega

theorem debt_hold (p : Pipes) (stream : OutStream) (octets : Bytes) :
    (p.hold stream octets).debt + (p.held stream).length = p.debt + octets.length := by
  have load := load_hold p stream octets
  simp only [Pipes.load] at load
  simp only [debt, hold_pending]
  omega

theorem write?_debt (h : p.write? = some r) : r.debt < p.debt := by
  obtain ⟨w, rest, pending, ⟨empty, rfl⟩ | ⟨room, positive, solid, rfl⟩⟩ := write?_cases h
  · rw [debt_cons pending]
    exact Nat.lt_add_of_pos_left (Nat.succ_pos _)
  · let cut : Write := { w with octets := w.octets.drop room }
    have some := List.length_pos_iff.mpr solid
    have shorter : cut.octets.length = w.octets.length - room := List.length_drop
    have before := debt_cons pending
    have between : Pipes.debt { p with pending := cut :: rest }
        = 2 * cut.octets.length + 1 + Pipes.debt { p with pending := rest } := debt_cons rfl
    have same : Pipes.held { p with pending := cut :: rest } w.stream = p.held w.stream := rfl
    have after := debt_hold { p with pending := cut :: rest } w.stream
      (p.held w.stream ++ w.octets.take room)
    rw [same, List.length_append, List.length_take] at after
    change Pipes.debt (Pipes.hold { p with pending := cut :: rest } _ _) < _
    omega

theorem drop_debt (positive : 0 < count) (something : p.held stream ≠ []) :
    (p.drop stream count).debt < p.debt := by
  have after := debt_hold p stream ((p.held stream).drop count)
  have length := List.length_pos_iff.mpr something
  rw [List.length_drop] at after
  simp only [drop]
  omega

/-- A process that has something left to write waits only for room in the pipe that it writes into. -/
theorem write?_eq_none (h : p.write? = none) :
    p.pending = [] ∨ ∃ w rest, p.pending = w :: rest ∧ w.octets ≠ [] ∧
      p.capacity ≤ (p.held w.stream).length := by
  unfold write? at h
  split at h
  · exact .inl ‹p.pending = []›
  · rename_i w rest pending
    dsimp only at h
    split_ifs at h with blank full
    refine .inr ⟨w, rest, pending, fun nil => blank (List.isEmpty_iff.mpr nil), ?_⟩
    exact Nat.le_of_sub_eq_zero full

/-- Into empty pipes a write is always possible. -/
theorem write?_isSome (empty : p.isEmpty) (room : 0 < p.capacity) (something : p.pending ≠ []) :
    p.write?.isSome := by
  cases possible : p.write? with
  | some r => rfl
  | none =>
    rcases write?_eq_none possible with nothing | ⟨w, rest, -, -, full⟩
    · exact absurd nothing something
    · rw [isEmpty_iff.mp empty w.stream, List.length_nil] at full
      exact absurd room (Nat.not_lt.mpr full)

end Pipes

end Overseer
