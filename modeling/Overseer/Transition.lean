-- SUMMARY: Transition systems with executable steps: replay, reachability, scheduled runs.

/-!
# Transition systems

Parties that act concurrently are one state with a partial step function: an action either leads to a
next state or is not possible. Any order of possible actions is a run; a schedule picks one.
-/

namespace Overseer.Transition

variable {State Action : Type}

/-- The state after a list of actions, all of which have to be possible. -/
def replay? (step? : State → Action → Option State) (s : State) : List Action → Option State
  | [] => some s
  | a :: rest =>
    match step? s a with
    | none => none
    | some t => replay? step? t rest

/-- The states that some run from an initial state leads to. -/
inductive Reachable (step? : State → Action → Option State) (initial : State → Prop) :
    State → Prop where
  | start {s : State} (h : initial s) : Reachable step? initial s
  | step {s t : State} {a : Action} (before : Reachable step? initial s) (h : step? s a = some t) :
      Reachable step? initial t

/-- Lets a schedule pick at most `limit` actions, until it picks none or an impossible one. -/
def drive (step? : State → Action → Option State) (schedule : State → Option Action) :
    (limit : Nat) → State → State
  | 0, s => s
  | limit + 1, s =>
    match schedule s with
    | none => s
    | some a =>
      match step? s a with
      | none => s
      | some t => drive step? schedule limit t

end Overseer.Transition
