-- SUMMARY: The starts of the runtime in an uninterrupted call, and what they leave of the world.
import Overseer.CommandLine.World

/-!
# Starts

As long as nobody interrupts the program, every attempt to start a command that can be started is one
start of the runtime: it is put down with its arguments and shows the next behaviour. An attempt that
meets an obstacle leaves the world as it is. `Exposes` follows a part of a call through the starts made in
it: whichever of them came to a bad end, there is trouble.
-/

namespace Overseer

/-- The runtime ends by itself, with a code other than 0 or by a signal. -/
structure Behaviour.EndsBadly (b : Behaviour) : Prop where
  byItself : b.waiting = none
  badly : b.naturalEnd.code? ≠ some 0

namespace CommandLine.World

variable {u v w : World} {c : Command} {n k l : Nat} {trouble : Behaviour → Prop}

/-- Nobody interrupts the program. -/
structure Calm (w : World) : Prop where
  uninterrupted : w.interrupts = false
  live : w.cancelled = false

theorem Calm.cancelTime (calm : w.Calm) : w.cancelTime = .never := by
  simp [World.cancelTime, interruptedBy, calm.uninterrupted, calm.live]

/-- Where nobody interrupts, a start goes on for ever if its runtime waits for a signal. -/
theorem Calm.idles (calm : w.Calm) :
    w.idles c ↔ w.host.obstacle? c = none ∧ w.behaviour.waiting ≠ none := by
  simp [World.idles, EventStream.endless, calm.cancelTime, Option.isSome_iff_ne_none]

/-- The behaviour of a start, counted from 0. -/
def behaviourAt (w : World) (n : Nat) : Behaviour :=
  (w.behaviours[n]?).getD (w.behaviours.getLast?.getD {})

theorem behaviourAt_zero (w : World) : w.behaviourAt 0 = w.behaviour := by
  cases behaviours : w.behaviours <;> simp [behaviourAt, behaviour, behaviours]

-- ---------------------------------------------------------------------------
-- Some starts later
-- ---------------------------------------------------------------------------

/-- `w` is `v` after `k` uninterrupted starts. -/
structure After (v w : World) (k : Nat) : Prop where
  calm : w.Calm
  host : w.host = v.host
  starts : w.starts.length = v.starts.length + k
  behaviours : ∀ n, w.behaviourAt n = v.behaviourAt (k + n)

theorem After.refl (calm : w.Calm) : After w w 0 := ⟨calm, rfl, rfl, fun n => by rw [Nat.zero_add]⟩

theorem After.trans (first : After u v k) (second : After v w l) : After u w (k + l) where
  calm := second.calm
  host := second.host.trans first.host
  starts := by rw [second.starts, first.starts, Nat.add_assoc]
  behaviours n := by rw [second.behaviours, first.behaviours, Nat.add_assoc]

theorem afterStart_blocked (blocked : (w.host.obstacle? c).isSome) : w.afterStart c = w :=
  if_pos blocked

/-- A start is put down, even if the user interrupts the program during it. -/
theorem starts_afterStart (live : w.cancelled = false) (free : w.host.obstacle? c = none) :
    (w.afterStart c).starts = w.starts ++ [c.args] := by
  simp [afterStart, free, live]

/-- A command that can be started is started, once. -/
theorem afterStart_free (calm : w.Calm) (free : w.host.obstacle? c = none) :
    After w (w.afterStart c) 1 ∧ (w.afterStart c).starts = w.starts ++ [c.args] := by
  have quiet : w.interruptedBy w.behaviour = false := by simp [interruptedBy, calm.uninterrupted]
  have starts := starts_afterStart calm.live free
  refine ⟨⟨⟨?_, ?_⟩, ?_, by simp [starts], fun n => ?_⟩, starts⟩
  · simp [afterStart, free, calm.uninterrupted]
  · simp [afterStart, free, calm.live, quiet]
  · simp [afterStart, free]
  -- The last behaviour stays for all further starts.
  · rw [Nat.add_comm 1 n]
    cases behaviours : w.behaviours with
    | nil => simp [behaviourAt, afterStart, free, behaviours]
    | cons b rest =>
      cases rest with
      | nil => cases n <;> simp [behaviourAt, afterStart, free, behaviours]
      | cons next rest => simp [behaviourAt, afterStart, free, behaviours]

-- ---------------------------------------------------------------------------
-- Starts that come to a bad end
-- ---------------------------------------------------------------------------

/-- Between `v` and `w` there were only uninterrupted starts, and there is trouble if one of them came to
    a bad end. -/
def Exposes (v w : World) (trouble : Behaviour → Prop) : Prop :=
  ∃ k, After v w k ∧ ∀ n < k, (v.behaviourAt n).EndsBadly → trouble (v.behaviourAt n)

theorem Exposes.none (calm : w.Calm) : Exposes w w trouble :=
  ⟨0, .refl calm, fun n small => absurd small (Nat.not_lt_zero n)⟩

/-- One attempt to start a command. -/
theorem Exposes.attempt (calm : w.Calm)
    (reported : w.host.obstacle? c = .none → w.behaviour.EndsBadly → trouble w.behaviour) :
    Exposes w (w.afterStart c) trouble := by
  cases free : w.host.obstacle? c with
  | some why =>
    rw [afterStart_blocked (free ▸ rfl)]
    exact .none calm
  | none =>
    refine ⟨1, (afterStart_free calm free).1, fun n small => ?_⟩
    obtain rfl : n = 0 := Nat.lt_one_iff.mp small
    rw [behaviourAt_zero]
    exact reported free

theorem Exposes.trans (first : Exposes u v trouble) (second : Exposes v w trouble) :
    Exposes u w trouble := by
  obtain ⟨k, after, early⟩ := first
  obtain ⟨l, later, late⟩ := second
  refine ⟨k + l, after.trans later, fun n small => ?_⟩
  by_cases before : n < k
  · exact early n before
  · obtain ⟨m, rfl⟩ := Nat.exists_eq_add_of_le (Nat.le_of_not_lt before)
    rw [← after.behaviours]
    exact late m (Nat.lt_of_add_lt_add_left small)

theorem Exposes.mono {worse : Behaviour → Prop} (h : Exposes v w trouble)
    (weaker : ∀ b, trouble b → worse b) : Exposes v w worse := by
  obtain ⟨k, after, troubles⟩ := h
  exact ⟨k, after, fun n small badly => weaker _ (troubles n small badly)⟩

theorem Exposes.calm (h : Exposes v w trouble) : w.Calm := by
  obtain ⟨k, after, -⟩ := h
  exact after.calm

theorem Exposes.report (h : Exposes v w trouble) (started : v.starts.length + n < w.starts.length)
    (badly : (v.behaviourAt n).EndsBadly) : trouble (v.behaviourAt n) := by
  obtain ⟨k, after, troubles⟩ := h
  rw [after.starts] at started
  exact troubles n (Nat.lt_of_add_lt_add_left started) badly

end CommandLine.World

end Overseer
