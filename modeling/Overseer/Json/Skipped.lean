-- SUMMARY: Passing over a JSON value that nobody asked for.
import Overseer.Json.Reader

/-!
# Skipped values

The value of a field that nobody asked for is passed over, not read: it may nest to any depth, its
numbers may have any size, and its strings are not decoded. The open lists and objects are kept on a
stack, innermost first.
-/

namespace Overseer.Json.Skipped

/-- A list or an object that is open. -/
inductive Frame where
  | list
  | object
  deriving DecidableEq, Repr

/-- Where passing over stands. -/
inductive Stage where
  /-- In front of a value. -/
  | value
  /-- Inside the innermost frame, behind its opening bracket. -/
  | opened
  /-- Inside the innermost frame, behind an element or member. -/
  | filled
  deriving DecidableEq, Repr

/-- Passes over the key of a member and its colon; the text starts at the key. -/
def key (s : Bytes) : Except Fault Bytes :=
  match skipBlanks s with
  | [] => .error (.peeked (.ended .object) [])
  | b :: rest =>
    if b = 0x22 then
      match Text.pass rest with
      | .error fault => .error fault
      | .ok after => colon after
    else .error (.peeked .keyNotString (b :: rest))

/-- Goes in front of the next value of a frame. -/
def enter (frame : Frame) (s : Bytes) : Except Fault Bytes :=
  match frame with
  | .list => .ok s
  | .object => key s

theorem key_length {s rest : Bytes} (h : key s = .ok rest) : rest.length < s.length := by
  unfold key at h
  split at h
  · cases h
  rename_i eq
  have := skipBlanks_cons_length eq
  split at h
  · split at h
    · cases h
    rename_i passed
    have := Text.pass_length passed
    have := colon_length h
    omega
  · cases h

theorem enter_length {frame : Frame} {s rest : Bytes} (h : enter frame s = .ok rest) :
    rest.length ≤ s.length := by
  cases frame with
  | list => cases h; exact Nat.le_refl _
  | object => exact Nat.le_of_lt (key_length h)

/-- Passes over a value that is neither list nor object and starts with `b`. -/
def scalar (b : UInt8) (rest : Bytes) : Except Fault Bytes :=
  if b = 0x6E then (word nullTail rest).following
  else if b = 0x74 then (word trueTail rest).following
  else if b = 0x66 then (word falseTail rest).following
  else if startsNumber b then Numeral.pass (b :: rest)
  else if b = 0x22 then Text.pass rest
  else .error (.peeked .expectedValue (b :: rest))

theorem scalar_length {b : UInt8} {s rest : Bytes} (h : scalar b s = .ok rest) :
    rest.length ≤ s.length := by
  unfold scalar at h
  split at h
  · obtain ⟨_, read⟩ := Answer.following_ok h
    exact word_length read
  split at h
  · obtain ⟨_, read⟩ := Answer.following_ok h
    exact word_length read
  split at h
  · obtain ⟨_, read⟩ := Answer.following_ok h
    exact word_length read
  split at h
  · have := Numeral.pass_length h
    rw [List.length_cons] at this
    omega
  split at h
  · exact Nat.le_of_lt (Text.pass_length h)
  · cases h

def Frame.opening (b : UInt8) : Option Frame :=
  if b = 0x5B then some .list else if b = 0x7B then some .object else none

def Frame.closing : Frame → UInt8
  | list => 0x5D
  | object => 0x7D

/-- The complaint about a text that ends inside a frame. -/
def Frame.unfinished : Frame → Malformed
  | list => .ended .list
  | object => .ended .object

/-- The complaint about something else than a comma or the closing bracket behind an element. -/
def Frame.expectedComma : Frame → Malformed
  | list => .expectedListComma
  | object => .expectedObjectComma

/-- Passes over the rest of a value inside the frames of `stack`. -/
def pass (stage : Stage) (stack : List Frame) (s : Bytes) : Except Fault Bytes :=
  match stage with
  | .value =>
    match _at : skipBlanks s with
    | [] => .error (.peeked (.ended .value) [])
    | b :: rest =>
      match Frame.opening b with
      | some frame => pass .opened (frame :: stack) rest
      | none =>
        match _passed : scalar b rest with
        | .error fault => .error fault
        | .ok after => pass .filled stack after
  | .opened =>
    match stack with
    | [] => .ok s
    | frame :: outer =>
      match _at : skipBlanks s with
      | [] => .error (.peeked frame.unfinished [])
      | b :: rest =>
        if b = frame.closing then pass .filled outer rest
        else
          match _entered : enter frame (b :: rest) with
          | .error fault => .error fault
          | .ok start => pass .value (frame :: outer) start
  | .filled =>
    match stack with
    | [] => .ok s
    | frame :: outer =>
      match _at : skipBlanks s with
      | [] => .error (.peeked frame.unfinished [])
      | b :: rest =>
        if b = frame.closing then pass .filled outer rest
        else if b = 0x2C then
          match _entered : enter frame rest with
          | .error fault => .error fault
          | .ok start => pass .value (frame :: outer) start
        else .error (.peeked frame.expectedComma (b :: rest))
termination_by (s.length, if stage = .value then 0 else 1)
decreasing_by
  · have := skipBlanks_cons_length _at
    exact Prod.Lex.left _ _ this
  · have := skipBlanks_cons_length _at
    have := scalar_length _passed
    exact Prod.Lex.left _ _ (by omega)
  · have := skipBlanks_cons_length _at
    exact Prod.Lex.left _ _ this
  · have := skipBlanks_cons_length _at
    have := enter_length _entered
    rw [List.length_cons] at this
    rcases Nat.lt_or_eq_of_le (show start.length ≤ s.length by omega) with lt | eq
    · exact Prod.Lex.left _ _ lt
    · exact eq ▸ Prod.Lex.right _ (by simp)
  · have := skipBlanks_cons_length _at
    exact Prod.Lex.left _ _ this
  · have := skipBlanks_cons_length _at
    have := enter_length _entered
    exact Prod.Lex.left _ _ (by omega)

theorem pass_length {stage : Stage} {stack : List Frame} {s rest : Bytes}
    (h : pass stage stack s = .ok rest) : rest.length ≤ s.length := by
  fun_induction pass stage stack s with
  | case1 | case3 | case6 | case8 | case11 | case13 | case15 => cases h
  | case2 _ _ _ _ at_ _ _ ih =>
    have := ih h
    have := skipBlanks_cons_length at_
    omega
  | case4 _ _ _ _ at_ _ _ passed ih =>
    have := ih h
    have := skipBlanks_cons_length at_
    have := scalar_length passed
    omega
  | case5 | case10 => cases h; exact Nat.le_refl _
  | case7 _ _ _ _ at_ ih | case12 _ _ _ _ at_ ih =>
    have := ih h
    have := skipBlanks_cons_length at_
    omega
  | case9 _ _ _ _ _ at_ _ _ entered ih =>
    have := ih h
    have := skipBlanks_cons_length at_
    have := enter_length entered
    rw [List.length_cons] at this
    omega
  | case14 _ _ _ _ _ entered at_ _ ih =>
    have := ih h
    have := skipBlanks_cons_length at_
    have := enter_length entered
    omega

theorem pass_value_length {stack : List Frame} {s rest : Bytes}
    (h : pass .value stack s = .ok rest) : rest.length < s.length := by
  rw [pass] at h
  split at h
  · cases h
  rename_i eq
  have := skipBlanks_cons_length eq
  split at h
  · have := pass_length h
    omega
  split at h
  · cases h
  · rename_i passed
    have := scalar_length passed
    have := pass_length h
    omega

/-- One value, passed over. -/
def read (s : Bytes) : Answer Unit :=
  match pass .value [] s with
  | .error fault => .error fault
  | .ok rest => .ok ((), rest)

end Overseer.Json.Skipped

namespace Overseer.Json

/-- A value that is passed over. -/
def Reader.skipped : Reader Unit where
  run := Skipped.read
  consumes := by
    intro s rest _ h
    unfold Skipped.read at h
    split at h
    · cases h
    · rename_i passed
      cases h
      exact Skipped.pass_value_length passed

end Overseer.Json
