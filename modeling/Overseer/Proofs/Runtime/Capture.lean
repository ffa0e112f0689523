-- SUMMARY: A capture returns the first octets that were written, and none of the runtime's are missing if its reader is prompt.
import Mathlib.Data.List.Induction
import Overseer.Proofs.Supervision.Verdict
import Overseer.Proofs.Transition
import Overseer.Runtime.Capture
import Overseer.Supervision.Monitored

/-!
# Captured output

What was written is what was collected, followed by what is still in the pipe. A reader is told to stop a
grace period after the end of the runtime was reported. If it is prompt, with less time between its last two
looks than that, it has looked for octets behind the report, and what it leaves in the pipe was written by
others. A reader that is held up between the two looks can leave octets of the runtime behind.
-/

namespace Overseer.Capture

open Transition (replay? replay?_cons replay?_concat replay?_preserves)

-- ---------------------------------------------------------------------------
-- Steps
-- ---------------------------------------------------------------------------

/-- All that a step can do. -/
inductive Move (s : State) : Action → State → Prop where
  -- The writers.
  | wrote {octets : Bytes} (running : s.exitMark = none) : Move s (.write octets) (s.append octets)
  | wroteBehind {octets : Bytes} : Move s (.writeBehind octets) (s.append octets)
  | handedOver : Move s .handOver { s with held := true }
  | letGo : Move s .letGo { s with held := false }
  | exited (running : s.exitMark = none) : Move s .exit { s with exitMark := some s.written.length }
  -- The client.
  | reported (ended : s.exitMark.isSome) (first : s.reported = none) :
      Move s .report { s with reported := some 0 }
  | requested {elapsed : Nat} (reported : s.reported = some elapsed) (passed : grace ≤ elapsed) :
      Move s .requestStop { s with stopRequested := true }
  | delivered (finished : s.finished) : Move s .deliver { s with result := some s.collected }
  -- The reader.
  | read {count : Nat} (reads : s.finished = false) :
      Move s (.read count) { s with
        pipe := s.pipe.drop count, collected := s.collected ++ s.pipe.take count }
  | ended (reads : s.finished = false) (empty : s.pipe = []) (ended : s.exitMark.isSome) :
      Move s .readEnd { s with finished := true }
  | looked (reads : s.finished = false) (empty : s.pipe = []) : Move s .look { s with looked := some 0 }
  | stopped {since : Nat} (looked : s.looked = some since) (requested : s.stopRequested) :
      Move s .stop { s with looked := none, finished := true }
  | waited : Move s .wait { s with looked := none }
  | failed : Move s .fail { s with finished := true, failed := true }
  -- Time.
  | ticked {milliseconds : Nat} : Move s (.tick milliseconds) { s with
      reported := s.reported.map (· + milliseconds), looked := s.looked.map (· + milliseconds) }

variable {s t : State} {a : Action} {actions : List Action} {mark : Nat} {out : Bytes}

theorem finished_of_reads (h : s.reads) : s.finished = false := by
  simp only [State.reads, Bool.and_eq_true, Bool.not_eq_true'] at h
  exact h.1

theorem step?_move (h : step? s a = some t) : Move s a t := by
  cases a with
  | write =>
    obtain ⟨running, ⟨⟩⟩ := Option.ite_none_right_eq_some.mp h
    exact .wrote (Option.isNone_iff_eq_none.mp running)
  | handOver =>
    obtain ⟨-, ⟨⟩⟩ := Option.ite_none_right_eq_some.mp h
    exact .handedOver
  | writeBehind =>
    obtain ⟨-, ⟨⟩⟩ := Option.ite_none_right_eq_some.mp h
    exact .wroteBehind
  | letGo =>
    obtain ⟨-, ⟨⟩⟩ := Option.ite_none_right_eq_some.mp h
    exact .letGo
  | exit =>
    obtain ⟨running, ⟨⟩⟩ := Option.ite_none_right_eq_some.mp h
    exact .exited (Option.isNone_iff_eq_none.mp running)
  | report =>
    obtain ⟨possible, ⟨⟩⟩ := Option.ite_none_right_eq_some.mp h
    simp only [State.running, Bool.and_eq_true, Bool.not_eq_true', Option.isNone_eq_false_iff,
      Option.isNone_iff_eq_none] at possible
    exact .reported possible.1 possible.2
  | tick =>
    cases h
    exact .ticked
  | requestStop =>
    simp only [step?] at h
    split at h
    · rename_i reported
      obtain ⟨passed, ⟨⟩⟩ := Option.ite_none_right_eq_some.mp h
      exact .requested reported passed.1
    · cases h
  | read =>
    obtain ⟨possible, ⟨⟩⟩ := Option.ite_none_right_eq_some.mp h
    simp only [Bool.and_eq_true] at possible
    exact .read (finished_of_reads possible.1.1.1)
  | readEnd =>
    obtain ⟨possible, ⟨⟩⟩ := Option.ite_none_right_eq_some.mp h
    simp only [State.closed, State.running, Bool.and_eq_true, List.isEmpty_iff, Bool.not_eq_true',
      Option.isNone_eq_false_iff] at possible
    exact .ended (finished_of_reads possible.1.1) possible.1.2 possible.2.1
  | look =>
    obtain ⟨possible, ⟨⟩⟩ := Option.ite_none_right_eq_some.mp h
    simp only [Bool.and_eq_true, List.isEmpty_iff] at possible
    exact .looked (finished_of_reads possible.1.1) possible.1.2
  | stop =>
    obtain ⟨possible, ⟨⟩⟩ := Option.ite_none_right_eq_some.mp h
    simp only [Bool.and_eq_true, Option.isSome_iff_exists] at possible
    obtain ⟨⟨since, looked⟩, requested⟩ := possible
    exact .stopped looked requested
  | wait =>
    obtain ⟨-, ⟨⟩⟩ := Option.ite_none_right_eq_some.mp h
    exact .waited
  | fail =>
    obtain ⟨-, ⟨⟩⟩ := Option.ite_none_right_eq_some.mp h
    exact .failed
  | deliver =>
    obtain ⟨possible, ⟨⟩⟩ := Option.ite_none_right_eq_some.mp h
    simp only [Bool.and_eq_true] at possible
    exact .delivered possible.1.1

-- ---------------------------------------------------------------------------
-- What was collected
-- ---------------------------------------------------------------------------

/-- Everything that the pipe held when the runtime ended was collected. -/
def State.Covered (s : State) : Prop := ∃ mark, s.exitMark = some mark ∧ mark ≤ s.collected.length

structure Kept (s : State) : Prop where
  balance : s.written = s.collected ++ s.pipe
  marked : ∀ mark, s.exitMark = some mark → mark ≤ s.written.length
  reported : s.reported.isSome → s.exitMark.isSome
  requested : s.stopRequested → ∃ elapsed, s.reported = some elapsed ∧ grace ≤ elapsed
  /-- The reader found nothing since the end was reported. -/
  looked : ∀ since elapsed, s.looked = some since → s.reported = some elapsed → since < elapsed → s.Covered
  result : ∀ out, s.result = some out → s.finished ∧ out = s.collected

theorem kept_initial : Kept {} where
  balance := rfl
  marked := nofun
  reported := nofun
  requested := nofun
  looked := nofun
  result := nofun

/-- An empty pipe behind the end of the runtime. -/
theorem Kept.covered (inv : Kept s) (empty : s.pipe = []) (ended : s.exitMark.isSome) : s.Covered := by
  obtain ⟨mark, eq⟩ := Option.isSome_iff_exists.mp ended
  have most := inv.marked mark eq
  rw [inv.balance, empty, List.append_nil] at most
  exact ⟨mark, eq, most⟩

theorem Kept.append (inv : Kept s) (octets : Bytes) : Kept (s.append octets) where
  balance := by simp [State.append, inv.balance]
  marked mark eq := by
    have := inv.marked mark eq
    simp only [State.append, List.length_append]
    omega
  reported := inv.reported
  requested := inv.requested
  looked := inv.looked
  result := inv.result

theorem Kept.unreported (inv : Kept s) (running : s.exitMark = none) : s.reported = none := by
  cases eq : s.reported with
  | none => rfl
  | some elapsed =>
    have := inv.reported (by rw [eq]; rfl)
    rw [running] at this
    cases this

theorem State.Covered.ended (h : s.Covered) : s.exitMark ≠ none := by
  obtain ⟨mark, eq, -⟩ := h
  rw [eq]
  nofun

theorem State.Covered.read (h : s.Covered) (count : Nat) :
    State.Covered { s with
      pipe := s.pipe.drop count, collected := s.collected ++ s.pipe.take count } := by
  obtain ⟨mark, eq, most⟩ := h
  refine ⟨mark, eq, ?_⟩
  rw [List.length_append]
  exact Nat.le_add_right_of_le most

theorem Kept.step (inv : Kept s) (h : step? s a = some t) : Kept t := by
  cases step?_move h with
  | wrote | wroteBehind => exact inv.append _
  | handedOver | letGo => exact { inv with }
  | exited running =>
    exact { inv with
      marked := fun mark eq => by cases eq; exact Nat.le_refl _
      reported := fun _ => rfl
      looked := fun _ _ _ reported => by rw [inv.unreported running] at reported; cases reported }
  | reported ended first =>
    refine { inv with reported := fun _ => ended, requested := fun requested => ?_, looked := ?_ }
    · obtain ⟨elapsed, reported, -⟩ := inv.requested requested
      rw [first] at reported
      cases reported
    · rintro since elapsed - ⟨⟩ later
      exact absurd later (Nat.not_lt_zero since)
  | requested reported passed => exact { inv with requested := fun _ => ⟨_, reported, passed⟩ }
  | delivered finished =>
    exact { inv with result := fun out eq => by cases eq; exact ⟨finished, rfl⟩ }
  | @read count reads =>
    exact { inv with
      balance := by rw [List.append_assoc, List.take_append_drop]; exact inv.balance
      looked := fun since elapsed looked reported later =>
        (inv.looked since elapsed looked reported later).read count
      result := fun out eq => absurd (inv.result out eq).1 (by rw [reads]; nofun) }
  | looked reads empty =>
    refine { inv with looked := ?_ }
    rintro since elapsed - reported -
    exact inv.covered empty (inv.reported (by rw [reported]; rfl))
  | ended | failed => exact { inv with result := fun out eq => ⟨rfl, (inv.result out eq).2⟩ }
  | stopped => exact { inv with looked := nofun, result := fun out eq => ⟨rfl, (inv.result out eq).2⟩ }
  | waited => exact { inv with looked := nofun }
  | @ticked milliseconds =>
    refine { inv with reported := ?_, requested := fun requested => ?_, looked := ?_ }
    · simpa using inv.reported
    · obtain ⟨elapsed, reported, passed⟩ := inv.requested requested
      exact ⟨elapsed + milliseconds, by simp [reported], Nat.le_add_right_of_le passed⟩
    · intro since elapsed looked reported later
      obtain ⟨before, lookedBefore, rfl⟩ := Option.map_eq_some_iff.mp looked
      obtain ⟨earlier, reportedBefore, rfl⟩ := Option.map_eq_some_iff.mp reported
      exact inv.looked before earlier lookedBefore reportedBefore (Nat.lt_of_add_lt_add_right later)

theorem Kept.of_replay (run : replay? step? {} actions = some t) : Kept t :=
  replay?_preserves run kept_initial fun _ inv taken => inv.step taken

/-- What a reader returns. -/
theorem Kept.returned (inv : Kept s) (returned : s.result = some out) : s.written = out ++ s.pipe := by
  obtain ⟨-, rfl⟩ := inv.result out returned
  exact inv.balance

-- ---------------------------------------------------------------------------
-- Prompt readers
-- ---------------------------------------------------------------------------

/-- The milliseconds that go by. -/
def Action.milliseconds : Action → Nat
  | .tick milliseconds => milliseconds
  | _ => 0

/-- How many milliseconds some actions take. -/
def duration : List Action → Nat
  | [] => 0
  | a :: rest => a.milliseconds + duration rest

theorem duration_concat (actions : List Action) (a : Action) :
    duration (actions ++ [a]) = duration actions + a.milliseconds := by
  induction actions with
  | nil => exact Nat.add_comm _ _
  | cons b rest ih => rw [List.cons_append, duration, ih, duration, Nat.add_assoc]

/-- When the reader stops, it has last found nothing to read less than a grace period before. -/
def Prompt (actions : List Action) : Prop :=
  ∀ before between after, actions = before ++ .look :: between ++ .stop :: after → .wait ∉ between →
    duration between < grace

theorem Prompt.front {before after : List Action} (prompt : Prompt (before ++ after)) : Prompt before := by
  rintro front between back rfl awake
  exact prompt front between (back ++ after) (by simp) awake

/-- Whether a reader that has finished without a failure has collected all that it had to. -/
def State.Complete (s : State) : Prop := s.finished → s.failed = false → s.Covered

/-- Stopping is the only step that depends on how long it took. -/
theorem State.Complete.step (complete : s.Complete) (inv : Kept s) (h : step? s a = some t)
    (brief : a = .stop → ∀ since, s.looked = some since → since < grace) : t.Complete := by
  cases step?_move h with
  | wrote | wroteBehind | handedOver | letGo | reported | requested | delivered | looked | waited
  | ticked => exact complete
  | exited running => exact fun finished intact => absurd running (complete finished intact).ended
  | @read count => exact fun finished intact => (complete finished intact).read count
  | ended reads empty ended => exact fun _ _ => inv.covered empty ended
  | @stopped since looked requested =>
    -- The request is older than the look, so the look was behind the report.
    obtain ⟨elapsed, reported, passed⟩ := inv.requested requested
    have later : since < elapsed := Nat.lt_of_lt_of_le (brief rfl since looked) passed
    exact fun _ _ => inv.looked since elapsed looked reported later
  | failed => exact nofun

/-- A step keeps a look in mind, begins with one, or puts an end to it. -/
theorem looked_step {since : Nat} (h : step? s a = some t) (looked : t.looked = some since) :
    (∃ before, s.looked = some before ∧ a ≠ .wait ∧ since = before + a.milliseconds) ∨
      a = .look ∧ since = 0 := by
  cases step?_move h with
  | looked =>
    cases looked
    exact .inr ⟨rfl, rfl⟩
  | stopped | waited => cases looked
  | @ticked milliseconds =>
    obtain ⟨before, earlier, rfl⟩ := Option.map_eq_some_iff.mp looked
    exact .inl ⟨before, earlier, nofun, rfl⟩
  | _ => exact .inl ⟨since, looked, nofun, rfl⟩

/-- How long ago a look was is how long the actions behind it took. -/
theorem looked_replay {since : Nat} (run : replay? step? {} actions = some t)
    (looked : t.looked = some since) :
    ∃ before between, actions = before ++ .look :: between ∧ .wait ∉ between ∧
      since = duration between := by
  induction actions using List.reverseRecOn generalizing t since with
  | nil =>
    cases run
    cases looked
  | append_singleton actions a ih =>
    obtain ⟨s, earlier, last⟩ := replay?_concat.mp run
    rcases looked_step last looked with ⟨before, kept, awake, rfl⟩ | ⟨rfl, rfl⟩
    · obtain ⟨front, between, rfl, others, rfl⟩ := ih earlier kept
      refine ⟨front, between ++ [a], by simp, ?_, (duration_concat between a).symm⟩
      rw [List.mem_append, List.mem_singleton, not_or]
      exact ⟨others, awake.symm⟩
    · exact ⟨actions, [], rfl, List.not_mem_nil, rfl⟩

theorem complete_replay (prompt : Prompt actions) (run : replay? step? {} actions = some t) :
    t.Complete := by
  induction actions using List.reverseRecOn generalizing t with
  | nil =>
    cases run
    exact nofun
  | append_singleton actions a ih =>
    obtain ⟨s, earlier, last⟩ := replay?_concat.mp run
    refine (ih prompt.front earlier).step (Kept.of_replay earlier) last ?_
    rintro rfl since looked
    obtain ⟨front, between, rfl, awake, rfl⟩ := looked_replay earlier looked
    exact prompt front between [] rfl awake

-- ---------------------------------------------------------------------------
-- What was written
-- ---------------------------------------------------------------------------

/-- What a step adds to the pipe. -/
def Action.added : Action → Bytes
  | .write octets | .writeBehind octets => octets
  | _ => []

/-- What the runtime adds to the pipe. -/
def Action.own : Action → Bytes
  | .write octets => octets
  | _ => []

theorem written_step (h : step? s a = some t) : t.written = s.written ++ a.added := by
  cases step?_move h with
  | wrote | wroteBehind => rfl
  | _ => exact (List.append_nil _).symm

theorem written_replay (run : replay? step? s actions = some t) :
    t.written = s.written ++ actions.flatMap Action.added := by
  induction actions generalizing s with
  | nil =>
    cases run
    exact (List.append_nil _).symm
  | cons a actions ih =>
    obtain ⟨m, first, later⟩ := replay?_cons.mp run
    rw [ih later, written_step first, List.flatMap_cons, List.append_assoc]

theorem exitMark_step (h : step? s a = some t) :
    t.exitMark = s.exitMark ∨ a = .exit ∧ s.exitMark = none ∧ t.exitMark = some s.written.length := by
  cases step?_move h with
  | exited running => exact .inr ⟨rfl, running, rfl⟩
  | _ => exact .inl rfl

theorem own_step (ended : s.exitMark ≠ none) (h : step? s a = some t) : a.own = [] := by
  cases step?_move h with
  | wrote running => exact absurd running ended
  | _ => rfl

/-- The runtime ends once, and writes nothing afterwards. -/
theorem ended_replay (ended : s.exitMark = some mark) (run : replay? step? s actions = some t) :
    t.exitMark = some mark ∧ actions.flatMap Action.own = [] := by
  induction actions generalizing s with
  | nil =>
    cases run
    exact ⟨ended, rfl⟩
  | cons a actions ih =>
    obtain ⟨m, first, later⟩ := replay?_cons.mp run
    have nothing : a.own = [] := own_step (by rw [ended]; nofun) first
    rcases exitMark_step first with same | ⟨-, running, -⟩
    · obtain ⟨still, rest⟩ := ih (same.trans ended) later
      exact ⟨still, by rw [List.flatMap_cons, nothing, rest]; rfl⟩
    · rw [running] at ended
      cases ended

/-- A run in which the runtime ended is cut at its end, where everything before the mark was written. -/
theorem split_at_exit (running : s.exitMark = none) (run : replay? step? s actions = some t)
    (ended : t.exitMark = some mark) :
    ∃ before after, actions = before ++ .exit :: after ∧
      mark = (s.written ++ before.flatMap Action.added).length ∧ after.flatMap Action.own = [] := by
  induction actions generalizing s with
  | nil =>
    cases run
    rw [running] at ended
    cases ended
  | cons a actions ih =>
    obtain ⟨m, first, later⟩ := replay?_cons.mp run
    rcases exitMark_step first with same | ⟨rfl, -, marked⟩
    · obtain ⟨before, after, rfl, length, silent⟩ := ih (same.trans running) later
      refine ⟨a :: before, after, rfl, ?_, silent⟩
      rw [length, written_step first, List.flatMap_cons, List.append_assoc]
    · obtain ⟨still, silent⟩ := ended_replay marked later
      rw [ended] at still
      cases still
      exact ⟨[], actions, rfl, by rw [List.flatMap_nil, List.append_nil], silent⟩

theorem added_eq_own (alone : ∀ octets, Action.writeBehind octets ∉ actions) :
    actions.flatMap Action.added = actions.flatMap Action.own := by
  simp only [List.flatMap_def]
  refine congrArg List.flatten (List.map_congr_left fun a mem => ?_)
  cases a with
  | writeBehind octets => exact absurd mem (alone octets)
  | _ => rfl

-- ---------------------------------------------------------------------------
-- Runs
-- ---------------------------------------------------------------------------

theorem captured_usual (writes : List Write) :
    ((({} : Wiring).captured writes).flatten) = writes.flatMap (·.octets) := by
  have both : writes.filter (fun w => ({} : Wiring).mode w.stream = .captured) = writes :=
    List.filter_eq_self.mpr fun w _ => by cases stream : w.stream <;> rfl
  rw [Wiring.captured, both, List.flatMap_def]

theorem output_front (run : replay? step? {} actions = some t) (returned : t.result = some out) :
    out <+: actions.flatMap Action.added := by
  have balance := (Kept.of_replay run).returned returned
  rw [written_replay run] at balance
  change actions.flatMap Action.added = out ++ t.pipe at balance
  exact balance ▸ List.prefix_append out t.pipe

/-- What a prompt reader returns to which no read failed has all that was written before the runtime
    ended. -/
theorem output_complete (prompt : Prompt actions) (run : replay? step? {} actions = some t)
    (returned : t.result = some out) (intact : t.failed = false) :
    ∃ before after, actions = before ++ .exit :: after ∧ before.flatMap Action.added <+: out ∧
      after.flatMap Action.own = [] := by
  obtain ⟨finished, same⟩ := (Kept.of_replay run).result out returned
  obtain ⟨mark, ended, most⟩ := complete_replay prompt run finished intact
  obtain ⟨before, after, split, length, silent⟩ := split_at_exit rfl run ended
  refine ⟨before, after, split, ?_, silent⟩
  refine List.prefix_of_prefix_length_le ?_ (output_front run returned) ?_
  · rw [split, List.flatMap_append]
    exact List.prefix_append _ _
  · rw [length, ← same] at most
    exact most

/-- If nobody else writes, everything is the runtime's, and it is returned to the last octet. -/
theorem output_alone (prompt : Prompt actions) (run : replay? step? {} actions = some t)
    (returned : t.result = some out) (intact : t.failed = false)
    (alone : ∀ octets, Action.writeBehind octets ∉ actions) :
    out = actions.flatMap Action.own := by
  obtain ⟨before, after, split, front, silent⟩ := output_complete prompt run returned intact
  have start := output_front run returned
  have others (octets : Bytes) : Action.writeBehind octets ∉ before :=
    fun mem => alone octets (split ▸ List.mem_append_left _ mem)
  have all : actions.flatMap Action.own = before.flatMap Action.added := by
    rw [added_eq_own others, split, List.flatMap_append, List.flatMap_cons, silent]
    exact List.append_nil _
  rw [added_eq_own alone, all] at start
  rw [all]
  exact start.eq_of_length_le front.length_le

/-- The verdict on the reported end of a runtime whose output is captured as usual. -/
theorem run_ended {monitor : Monitor} {program : String} {c : Command} {pid : UInt32} {exit : Exit}
    (notice : Monitored.Notice) (out : Bytes) (reports : monitor c = .ended pid exit) :
    (Monitored.run monitor program c {} notice out).result =
      if exit.exit.success then .ok exit
      else .error (.command program exit.exit out.lossyText) := by
  simp only [Monitored.run, reports, Monitored.attend]
  cases outcome : exit.exit.success with
  | true => simp [Verdict.ofExit, Verdict.ofStatus_good outcome]
  | false => simp [Verdict.ofExit, Verdict.ofStatus_bad outcome, Wiring.captures]

/-- A capture returns the first octets written to the pipe. If no read failed and the reader is prompt, all
    that were written before the runtime ended are among them. If moreover nobody else wrote, these are the
    runtime's writes to both streams in their order, and the text of all of them is what a failure shows. -/
theorem output_captured (run : replay? step? {} actions = some t) (returned : t.result = some out) :
    out <+: actions.flatMap Action.added ∧
    (t.failed = false → Prompt actions →
      (∃ before after, actions = before ++ .exit :: after ∧ before.flatMap Action.added <+: out ∧
        after.flatMap Action.own = []) ∧
      ∀ writes : List Write, actions.flatMap Action.own = (({} : Wiring).captured writes).flatten →
        (∀ octets, Action.writeBehind octets ∉ actions) →
        out = writes.flatMap (·.octets) ∧
        ∀ (monitor : Monitor) (program : String) (c : Command) (notice : Monitored.Notice) (pid : UInt32)
          (exit : Exit), monitor c = .ended pid exit →
          (Monitored.run monitor program c {} notice out).result =
            if exit.exit.success then .ok exit
            else .error (.command program exit.exit (Bytes.lossyText (writes.flatMap (·.octets))))) := by
  refine ⟨output_front run returned, fun intact prompt => ⟨output_complete prompt run returned intact, ?_⟩⟩
  intro writes pieces alone
  have whole : out = writes.flatMap (·.octets) := by
    rw [output_alone prompt run returned intact alone, pieces, captured_usual]
  refine ⟨whole, fun monitor program c notice pid exit reports => ?_⟩
  rw [run_ended notice out reports, whole]

/-- A character is written in two halves, to one stream each; the reader looks in between, and stops 249
    milliseconds behind its last look because another process holds the pipe. -/
def heldOpen : List Action :=
  [.write [0x61, 0xC3], .read 2, .look, .handOver, .write [0xA9], .exit, .wait, .report, .tick 1, .read 1,
    .look, .tick 249, .requestStop, .stop, .deliver]

theorem prompt_heldOpen : Prompt heldOpen := by
  intro before between after split awake
  -- Between the first look and the stop there is a wait, so it is the second.
  have last : between = [.tick 249, .requestStop] := by
    simp [heldOpen, List.cons_eq_append_iff, List.append_eq_cons_iff] at split
    grind
  subst last
  decide

theorem output_captured_split_character :
    ∃ t, replay? step? {} heldOpen = some t ∧ t.result = some [0x61, 0xC3, 0xA9] ∧ t.failed = false ∧
      (Monitored.run (fun _ => .ended 7 ⟨7, ⟨3, none⟩⟩) "crun" ⟨"crun", []⟩ {} .unwanted
        [0x61, 0xC3, 0xA9]).result = .error (.command "crun" ⟨3, none⟩ "a\u00e9") := by
  have run : replay? step? {} heldOpen = some _ := rfl
  have verdict := (((output_captured run rfl).2 rfl prompt_heldOpen).2
    [⟨.stdout, [0x61, 0xC3]⟩, ⟨.stderr, [0xA9]⟩] rfl (by simp [heldOpen])).2
    (fun _ => .ended 7 ⟨7, ⟨3, none⟩⟩) "crun" ⟨"crun", []⟩ .unwanted 7 ⟨7, ⟨3, none⟩⟩ rfl
  refine ⟨_, run, rfl, rfl, ?_⟩
  have text : Bytes.lossyText [0x61, 0xC3, 0xA9] = "a\u00e9" := by decide +kernel
  rw [← text]
  exact verdict

/-- The reader finds nothing, and is held up for a grace period before it looks whether it has to stop. -/
def heldUp : List Action :=
  [.write [0x61], .read 1, .look, .write [0x62], .exit, .report, .tick 250, .requestStop, .stop, .deliver]

/-- What the runtime writes meanwhile is lost, although it is in the pipe when the runtime ends. -/
theorem output_lost_between_looks :
    ∃ t before after, replay? step? {} heldUp = some t ∧ t.result = some [0x61] ∧ t.failed = false ∧
      heldUp = before ++ .exit :: after ∧ before.flatMap Action.own = [0x61, 0x62] ∧
      ∀ octets, Action.writeBehind octets ∉ heldUp := by
  refine ⟨_, [.write [0x61], .read 1, .look, .write [0x62]],
    [.report, .tick 250, .requestStop, .stop, .deliver], rfl, rfl, rfl, rfl, rfl, ?_⟩
  simp [heldUp]

end Overseer.Capture
