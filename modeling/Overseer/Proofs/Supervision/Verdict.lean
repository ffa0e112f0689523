-- SUMMARY: Whoever waited for an invocation, its wait status decides alike, and only exit code 0 is a success.
import Overseer.Supervision.Verdict

/-!
# Verdicts

A wait status of 32 bits says one of three things (`ofWait_cases`): the process ended by itself with a
code, a signal killed it, or neither is known. The statuses made of them lie in 0 to 255, and 0 is left to
the first kind; so the test for success, which is on the status and the signal, comes down to the code.
-/

namespace Overseer

-- ---------------------------------------------------------------------------
-- Wait statuses
-- ---------------------------------------------------------------------------

namespace WaitStatus

variable {w : WaitStatus} {n code : Nat}

theorem low_lt (w : WaitStatus) : w.low < 128 := by
  have masked : (w.bits &&& 0x7F).toNat ≤ 127 := by
    rw [UInt32.toNat_and]
    exact Nat.and_le_right
  exact Nat.lt_succ_of_le masked

theorem low_eq_zero_of_code? (h : w.code? = some code) : w.low = 0 := by
  unfold code? at h
  split at h
  · assumption
  · cases h

theorem code?_le (h : w.code? = some code) : code ≤ 255 := by
  simp only [code?, low_eq_zero_of_code? h, if_true] at h
  cases h
  rw [UInt32.toNat_and]
  exact Nat.and_le_right

/-- The signals that can be told from a code and from a process that is only stopped. -/
theorem signal?_bounds (h : w.signal? = some n) : 1 ≤ n ∧ n ≤ 126 := by
  unfold signal? at h
  split at h
  · cases h
  · rename_i killed
    cases h
    have := low_lt w
    omega

/-- A process was killed when the low bits, with 1 added as a signed octet, are at least 2: all seven bits
    set make that sum negative. -/
theorem signal?_isSome_iff (w : WaitStatus) :
    w.signal?.isSome ↔ 2 ≤ (Int8.ofNat (w.low + 1)).toInt := by
  have small := low_lt w
  have killed : w.signal?.isSome ↔ w.low ≠ 0 ∧ w.low ≠ 0x7F := by
    unfold signal?
    split
    · simp; omega
    · simp; omega
  have octet : Int8.size = 256 := rfl
  rw [killed, Int8.toInt_ofNat', Int.bmod_def, octet]
  split
  · omega
  · omega

/-- A status says at most one thing. -/
theorem code?_of_signal? (killed : w.signal? = some n) : w.code? = none := by
  unfold signal? at killed
  unfold code?
  split at killed
  · cases killed
  · rename_i other
    exact if_neg fun zero => other (.inl zero)

end WaitStatus

-- ---------------------------------------------------------------------------
-- Exit statuses
-- ---------------------------------------------------------------------------

namespace ExitStatus

variable {w : WaitStatus}

/-- All that a wait status can say. -/
theorem ofWait_cases (w : WaitStatus) :
    (∃ code : Nat, w.code? = some code ∧ code ≤ 255 ∧ ofWait w = ⟨code, none⟩) ∨
    (∃ n : Nat, w.code? = none ∧ 1 ≤ n ∧ n ≤ 126 ∧
      ofWait w = ⟨signalBase + n, Signal.ofNumber? n⟩) ∨
    (w.code? = none ∧ ofWait w = ⟨unknownStatus, none⟩) := by
  cases byItself : w.code? with
  | some code =>
    exact .inl ⟨code, rfl, WaitStatus.code?_le byItself, by simp [ofWait, byItself]⟩
  | none =>
    cases killed : w.signal? with
    | some n =>
      obtain ⟨least, most⟩ := WaitStatus.signal?_bounds killed
      exact .inr (.inl ⟨n, rfl, least, most, by simp [ofWait, byItself, killed]⟩)
    | none => exact .inr (.inr ⟨rfl, by simp [ofWait, byItself, killed]⟩)

theorem status_range (w : WaitStatus) : 0 ≤ (ofWait w).status ∧ (ofWait w).status ≤ 255 := by
  rcases ofWait_cases w with ⟨code, -, small, eq⟩ | ⟨n, -, -, small, eq⟩ | ⟨-, eq⟩
  · simp only [eq]
    omega
  · simp only [eq, signalBase]
    omega
  · simp only [eq, unknownStatus]
    omega

theorem status_eq_zero_iff (w : WaitStatus) : (ofWait w).status = 0 ↔ w.code? = some 0 := by
  rcases ofWait_cases w with ⟨code, byItself, -, eq⟩ | ⟨n, none, -, -, eq⟩ | ⟨none, eq⟩
  · simp [eq, byItself]
  · simp only [eq, none, signalBase]
    constructor
    · intro zero
      omega
    · intro impossible
      cases impossible
  · simp [eq, none, unknownStatus]

/-- A status of 0 comes without a signal. -/
theorem signal_of_status_zero (h : (ofWait w).status = 0) : (ofWait w).signal = none := by
  have byItself := (status_eq_zero_iff w).mp h
  simp [ofWait, byItself]

theorem success_iff_status (w : WaitStatus) : (ofWait w).success ↔ (ofWait w).status = 0 := by
  constructor
  · intro good
    simp only [success, Bool.and_eq_true, decide_eq_true_eq] at good
    exact good.1
  · intro zero
    simp [success, zero, signal_of_status_zero zero]

theorem success_iff_code (w : WaitStatus) : (ofWait w).success ↔ w.code? = some 0 :=
  (success_iff_status w).trans (status_eq_zero_iff w)

theorem failure_of_code {w : WaitStatus} (other : w.code? ≠ some 0) : (ofWait w).success = false :=
  Bool.eq_false_iff.mpr fun well => other ((success_iff_code w).mp well)

end ExitStatus

-- ---------------------------------------------------------------------------
-- Verdicts
-- ---------------------------------------------------------------------------

namespace Verdict

variable {w : WaitStatus} {program : String} {exit : ExitStatus} {stdout stderr output : Bytes}

theorem ofStatus_good (good : exit.success) : ofStatus program exit output = .ok () := by
  simp [ofStatus, good]

theorem ofStatus_bad (bad : exit.success = false) :
    ofStatus program exit output = .error (.command program exit output.lossyText) := by
  simp [ofStatus, bad]

theorem ofOutput_good (good : (ExitStatus.ofWait w).success) :
    ofOutput program w stdout stderr = .ok stdout := by
  simp [ofOutput, ofStatus_good good]

theorem ofOutput_bad (bad : (ExitStatus.ofWait w).success = false) :
    ofOutput program w stdout stderr
      = .error (.command program (.ofWait w) (stdout ++ stderr).lossyText) := by
  simp [ofOutput, ofStatus_bad bad, bad]

theorem ofOutput_eq_ok {printed : Bytes} :
    ofOutput program w stdout stderr = .ok printed ↔ w.code? = some 0 ∧ printed = stdout := by
  rw [← ExitStatus.success_iff_code]
  cases outcome : (ExitStatus.ofWait w).success with
  | true => simp [ofOutput_good outcome, eq_comm]
  | false => simp [ofOutput_bad outcome]

theorem extractStatus_ofStatus (status : exit.success ↔ exit.status = 0) :
    Failure.extractStatus (ofStatus program exit output) = exit.status := by
  cases outcome : exit.success with
  | true =>
    rw [ofStatus_good outcome, status.mp outcome]
    rfl
  | false =>
    rw [ofStatus_bad outcome]
    rfl

theorem extractStatus_ofOutput :
    Failure.extractStatus (ofOutput program w stdout stderr) = (ExitStatus.ofWait w).status := by
  cases outcome : (ExitStatus.ofWait w).success with
  | true =>
    rw [ofOutput_good outcome, (ExitStatus.success_iff_status w).mp outcome]
    rfl
  | false =>
    rw [ofOutput_bad outcome]
    rfl

/-- Both succeed, or both fail with one and the same failure. -/
theorem ofOutput_ofExit_cases (w : WaitStatus) (program : String) (pid : UInt32)
    (stdout stderr : Bytes) :
    ofOutput program w stdout stderr = .ok stdout ∧
        ofExit program (.ofOutcome pid (some w)) (stdout ++ stderr) = .ok () ∨
      ∃ text, ofOutput program w stdout stderr = .error (.command program (.ofWait w) text) ∧
        ofExit program (.ofOutcome pid (some w)) (stdout ++ stderr)
          = .error (.command program (.ofWait w) text) := by
  cases outcome : (ExitStatus.ofWait w).success with
  | true => exact .inl ⟨ofOutput_good outcome, ofStatus_good outcome⟩
  | false => exact .inr ⟨_, ofOutput_bad outcome, ofStatus_bad outcome⟩

/-- The verdict of a client that waited for the invocation itself and that of one whose supervisor did,
    on the same wait status and the same output. -/
theorem ofOutput_agrees_ofExit (w : WaitStatus) (program : String) (pid : UInt32)
    (stdout stderr : Bytes) :
    let own := ofOutput program w stdout stderr
    let watched := ofExit program (.ofOutcome pid (some w)) (stdout ++ stderr)
    let decoded := ExitStatus.ofWait w
    (own = .ok stdout ∧ watched = .ok () ∨
      ∃ text, own = .error (.command program decoded text) ∧
        watched = .error (.command program decoded text)) ∧
    (∀ printed, own = .ok printed ↔ w.code? = some 0 ∧ printed = stdout) ∧
    (0 ≤ decoded.status ∧ decoded.status ≤ 255) ∧
    (decoded.status = 0 → decoded.signal = none) ∧
    Failure.extractStatus own = decoded.status ∧
    Failure.extractStatus watched = decoded.status ∧
    (decoded.status = 0 ↔ own = .ok stdout) ∧
    decoded.status ≠ Failure.notACommandExit := by
  have range := ExitStatus.status_range w
  have succeeds : (ExitStatus.ofWait w).status = 0 ↔ ofOutput program w stdout stderr = .ok stdout := by
    simp [ExitStatus.status_eq_zero_iff, ofOutput_eq_ok]
  have nonnegative : (ExitStatus.ofWait w).status ≠ Failure.notACommandExit := by
    intro eq
    rw [eq] at range
    exact absurd range.1 (by decide)
  exact ⟨ofOutput_ofExit_cases w program pid stdout stderr, fun _ => ofOutput_eq_ok, range,
    ExitStatus.signal_of_status_zero, extractStatus_ofOutput,
    extractStatus_ofStatus (ExitStatus.success_iff_status w), succeeds, nonnegative⟩

end Verdict

end Overseer
