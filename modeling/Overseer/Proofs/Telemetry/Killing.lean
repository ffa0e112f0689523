-- SUMMARY: When the task behind an event stream asks for its process to be killed: as the pump stops, and never later.
import Overseer.Proofs.Telemetry.Abandonment
import Overseer.Telemetry.Watch

/-!
# Killing the process behind a stream

The task decides once whether its process is to be killed, when the pump stops. A cancellation makes the
pump stop for a reason other than the end of the stream, and so gets the process killed, unless that end
is being read or has been read. From then on only an event that is still to be sent would make the pump
look for a cancellation, and after the pump has stopped nothing does: a process that goes on behind the
end of its output is then waited for, however long it takes.
-/

namespace Overseer.Telemetry

open Transition (drive drive_replicate drive_settles replay? replay?_preserves)

-- ---------------------------------------------------------------------------
-- The pump of a cancelled stream
-- ---------------------------------------------------------------------------

namespace Pump

variable {s t : State} {a : Action}

/-- Only the pump moves from stage to stage. -/
theorem stage_step (other : a ≠ .pump) (h : step? s a = some t) : t.stage = s.stage := by
  cases step?_move h with
  | arrived | closed | cancelled | received | dropped => rfl
  | decoded | passed | exhausted | completed | sent | called | hungUp | failed | woken | fed | ended =>
    exact absurd rfl other

theorem end?_eq_some {why : End} : s.end? = some why ↔ s.stage = .stopped why := by
  unfold State.end?
  cases s.stage <;> simp

/-- Whether the end of the stream is being read or has been read. -/
def State.AtEnd (s : State) : Prop :=
  s.sawEnd ∨ s.stage = .reading ∧ s.ready = [] ∧ s.closing = some .eof

/-- A cancelled pump begins no further read, so it does not come to an end that it is not yet at. -/
theorem atEnd_step (sound : Sound s) (cancelled : s.cancelled) (h : step? s a = some t)
    (atEnd : t.AtEnd) : s.AtEnd := by
  cases step?_move h with
  | decoded | exhausted | completed | sent | called | hungUp | failed | fed =>
    rcases atEnd with saw | ⟨reading, -⟩
    · exact .inl saw
    · cases reading
  | passed stage =>
    rcases atEnd with saw | ⟨reading, -⟩
    · exact .inl saw
    · exact absurd (stage.symm.trans reading) nofun
  | woken stage something live => exact absurd (live.symm.trans cancelled) nofun
  | ended stage none closing => exact .inr ⟨stage, none, closing⟩
  | arrived =>
    rcases atEnd with saw | ⟨-, none, -⟩
    · exact .inl saw
    · exact absurd none (List.append_ne_nil_of_right_ne_nil _ (List.cons_ne_nil _ _))
  | closed opened =>
    rcases atEnd with saw | ⟨reading, none, -⟩
    · exact .inl saw
    · rcases sound.awake reading with something | closing
      · exact absurd none something
      · exact absurd opened closing
  | cancelled | received | dropped => exact atEnd

/-- A pump that stopped at the end of its stream has read that end. -/
theorem Sound.atEnd (inv : Sound s) (stopped : s.stage = .stopped .eof) : s.AtEnd := by
  have whole := inv.accounts.2
  simp only [stopped] at whole
  exact .inl whole.2

/-- A cancelled pump waits for nothing. -/
theorem Sound.runs (inv : Sound s) (cancelled : s.cancelled) (running : s.end? = none) :
    ∃ t, advance? s = some t := by
  cases stage : s.stage with
  | decoding =>
    simp only [advance?, stage]
    split <;> exact ⟨_, rfl⟩
  | sending e =>
    simp only [advance?, stage, cancelled, if_true]
    exact ⟨_, rfl⟩
  | waiting =>
    simp only [advance?, stage, cancelled, if_true]
    exact ⟨_, rfl⟩
  | reading =>
    have something := inv.awake stage
    simp only [advance?, stage]
    split
    · exact ⟨_, rfl⟩
    · exact ⟨_, rfl⟩
    · exact ⟨_, rfl⟩
    · rename_i none silent
      rcases something with some | closing
      · exact absurd none some
      · exact absurd silent closing
  | stopped why =>
    rw [end?_eq_some.mpr stage] at running
    cases running

end Pump

-- ---------------------------------------------------------------------------
-- Steps
-- ---------------------------------------------------------------------------

namespace Watch

/-- All that a step can do. -/
inductive Move (s : State) : Action → State → Prop where
  | pumped {pump : Pump.State} (stage : s.stage = .pumping) (running : s.pump.end? = none)
      (step : Pump.step? s.pump .pump = some pump) : Move s .task { s with pump }
  | left {why : Pump.End} (stage : s.stage = .pumping) (stopped : s.pump.stage = .stopped why) :
      Move s .task { s with
        stage := .reaping why, killRequested := s.killRequested || decide (why ≠ .eof) }
  | reaped {why : Pump.End} {status : WaitStatus} {complaint : Option ExitStatus}
      (stage : s.stage = .reaping why) (ended : s.ended = some status) :
      Move s .task { s with stage := .finished, complaint }
  | around {a : Pump.Action} {pump : Pump.State} (other : a ≠ .pump)
      (step : Pump.step? s.pump a = some pump) : Move s (.around a) { s with pump }
  | exited {status : WaitStatus} (runs : s.ended = none) :
      Move s (.exit status) { s with ended := some status }

variable {s t : State} {a : Action}

theorem task?_move (h : task? s = some t) : Move s .task t := by
  unfold task? at h
  split at h
  · rename_i stage
    split at h
    · rename_i stopped
      cases h
      exact .left stage (Pump.end?_eq_some.mp stopped)
    · rename_i running
      obtain ⟨pump, step, rfl⟩ := Option.map_eq_some_iff.mp h
      exact .pumped stage running step
  · rename_i stage
    split at h
    · cases h
    · rename_i ended
      cases h
      exact .reaped stage ended
  · cases h

theorem step?_around {a : Pump.Action} (other : a ≠ .pump) :
    step? s (.around a) = (Pump.step? s.pump a).map fun pump => { s with pump } := by
  cases a with
  | pump => exact absurd rfl other
  | arrive | close | cancel | receive | dropReceiver => rfl

theorem step?_move (h : step? s a = some t) : Move s a t := by
  cases a with
  | task => exact task?_move h
  | around a =>
    have other : a ≠ .pump := by
      rintro rfl
      cases h
    rw [step?_around other] at h
    obtain ⟨pump, step, rfl⟩ := Option.map_eq_some_iff.mp h
    exact .around other step
  | exit status =>
    simp only [step?] at h
    split_ifs at h with runs
    cases h
    exact .exited (Option.isNone_iff_eq_none.mp runs)

-- ---------------------------------------------------------------------------
-- The decision
-- ---------------------------------------------------------------------------

/-- The states in which a task begins. -/
def Initial (s : State) : Prop := ∃ pump, Pump.Initial pump ∧ s = { pump }

/-- The process is to be killed exactly if the pump is over and stopped before the end of the stream. -/
structure Kept (s : State) : Prop where
  pump : Pump.Sound s.pump
  undecided : s.stage = .pumping → s.killRequested = false
  decided : s.stage ≠ .pumping →
    ∃ why, s.pump.stage = .stopped why ∧ s.killRequested = decide (why ≠ .eof)

theorem kept_initial (h : Initial s) : Kept s := by
  obtain ⟨pump, begins, rfl⟩ := h
  exact ⟨Pump.sound_initial begins, fun _ => rfl, fun past => absurd rfl past⟩

theorem Kept.step (inv : Kept s) (h : step? s a = some t) : Kept t := by
  cases step?_move h with
  | pumped stage running step =>
    exact ⟨inv.pump.step step, inv.undecided, fun past => absurd stage past⟩
  | @left why stage stopped =>
    refine ⟨inv.pump, nofun, fun _ => ⟨why, stopped, ?_⟩⟩
    simp only [inv.undecided stage, Bool.false_or]
  | reaped stage ended =>
    exact ⟨inv.pump, nofun, fun _ => inv.decided (stage ▸ nofun)⟩
  | around other step =>
    refine ⟨inv.pump.step step, inv.undecided, fun past => ?_⟩
    obtain ⟨why, stopped, killed⟩ := inv.decided past
    exact ⟨why, (Pump.stage_step other step).trans stopped, killed⟩
  | exited => exact ⟨inv.pump, inv.undecided, inv.decided⟩

/-- What was decided about the process is not changed any more. -/
theorem decided_step (past : s.stage ≠ .pumping) (h : step? s a = some t) :
    t.stage ≠ .pumping ∧ t.killRequested = s.killRequested := by
  cases step?_move h with
  | pumped stage => exact absurd stage past
  | left stage => exact absurd stage past
  | reaped => exact ⟨nofun, rfl⟩
  | around | exited => exact ⟨past, rfl⟩

theorem decided_replay {later : List Action} (past : s.stage ≠ .pumping)
    (run : replay? step? s later = some t) : t.killRequested = s.killRequested := by
  have holds : t.stage ≠ .pumping ∧ t.killRequested = s.killRequested := by
    refine replay?_preserves (P := fun u => u.stage ≠ .pumping ∧ u.killRequested = s.killRequested)
      run ⟨past, rfl⟩ fun _ holds taken => ?_
    obtain ⟨still, same⟩ := decided_step holds.1 taken
    exact ⟨still, same.trans holds.2⟩
  exact holds.2

-- ---------------------------------------------------------------------------
-- Cancelled before the end
-- ---------------------------------------------------------------------------

/-- A task that was cancelled before its pump was at the end of the stream. -/
structure Doomed (s : State) : Prop extends Kept s where
  cancelled : s.pump.cancelled
  early : ¬ s.pump.AtEnd

theorem Doomed.step (inv : Doomed s) (h : step? s a = some t) : Doomed t := by
  refine { inv.toKept.step h with cancelled := ?_, early := ?_ }
  · cases step?_move h with
    | pumped stage running step => exact (Pump.cancelled_step inv.cancelled step).1
    | around other step => exact (Pump.cancelled_step inv.cancelled step).1
    | left | reaped | exited => exact inv.cancelled
  · intro atEnd
    apply inv.early
    cases step?_move h with
    | pumped stage running step => exact Pump.atEnd_step inv.pump inv.cancelled step atEnd
    | around other step => exact Pump.atEnd_step inv.pump inv.cancelled step atEnd
    | left | reaped | exited => exact atEnd

theorem Doomed.killed (inv : Doomed s) (past : s.stage ≠ .pumping) : s.killRequested := by
  obtain ⟨why, stopped, killed⟩ := inv.decided past
  have other : why ≠ .eof := by
    rintro rfl
    exact inv.early (inv.pump.atEnd stopped)
  rw [killed]
  exact decide_eq_true other

/-- More than the steps that the task of a cancelled stream takes until its process is to be killed. -/
def State.toil (s : State) : Nat := s.pump.toil + (if s.stage = .pumping then 1 else 0)

theorem Doomed.advances (inv : Doomed s) (spared : s.killRequested = false) :
    ∃ t, step? s .task = some t ∧ t.toil < s.toil := by
  have pumping : s.stage = .pumping := by
    by_contra past
    exact absurd (spared.symm.trans (inv.killed past)) nofun
  cases stopped : s.pump.end? with
  | some why =>
    have taken : step? s .task = some { s with
        stage := .reaping why, killRequested := s.killRequested || decide (why ≠ .eof) } := by
      simp only [step?, task?, pumping, stopped]
    refine ⟨_, taken, ?_⟩
    simp [State.toil, pumping]
  | none =>
    obtain ⟨pump, step⟩ := inv.pump.runs inv.cancelled stopped
    have unsent : pump.delivered = s.pump.delivered :=
      (Pump.cancelled_step (a := .pump) inv.cancelled step).2
    refine ⟨{ s with pump }, ?_, ?_⟩
    · simp only [step?, task?, pumping, stopped, step, Option.map_some]
    · have nearer : pump.toil < s.pump.toil := inv.pump.accounts.toil step unsent
      simp only [State.toil, pumping, if_true]
      omega

/-- The task's next step while its process is spared. -/
def untilKill (s : State) : Option Action := if s.killRequested then none else some .task

/-- The task of a stream that was cancelled before its end needs nobody else to have its process killed. -/
theorem Doomed.settles (inv : Doomed s) :
    ∃ n t, replay? step? s (List.replicate n .task) = some t ∧ t.killRequested := by
  have keeps : ∀ {u : State} {b : Action}, Doomed u → untilKill u = some b →
      ∃ v, step? u b = some v ∧ Doomed v ∧ v.toil < u.toil := by
    intro u b inv picked
    simp only [untilKill] at picked
    split_ifs at picked with killed
    cases picked
    obtain ⟨v, taken, less⟩ := inv.advances (Bool.eq_false_iff.mpr killed)
    exact ⟨v, taken, inv.step taken, less⟩
  have only : ∀ u b, untilKill u = some b → b = .task := by
    intro u b picked
    simp only [untilKill] at picked
    split_ifs at picked
    cases picked
    rfl
  obtain ⟨n, run⟩ := drive_replicate only s.toil s
  have rests := (drive_settles State.toil keeps inv (Nat.le_refl s.toil)).2
  refine ⟨n, _, run, ?_⟩
  by_contra spared
  rw [untilKill, if_neg spared] at rests
  cases rests

-- ---------------------------------------------------------------------------
-- Runs
-- ---------------------------------------------------------------------------

/-- A run of the task, in any order of output, its end, the end of the process, cancellation and loss of
    the receiver. Once the pump is over the process is to be killed exactly if the pump stopped before the
    end of the stream, and that is final. A stream that is cancelled before its end is being read gets
    its process killed: never is its pump over without that, and the task comes there by itself. -/
theorem cancelled_stream {actions : List Action} (begins : Initial s)
    (run : replay? step? s actions = some t) :
    (t.stage ≠ .pumping →
      (∃ why, t.pump.stage = .stopped why ∧ (t.killRequested ↔ why ≠ .eof)) ∧
      ∀ later u, replay? step? t later = some u → u.killRequested = t.killRequested) ∧
    (t.pump.cancelled → ¬ t.pump.AtEnd →
      (∀ later u, replay? step? t later = some u → u.stage ≠ .pumping → u.killRequested) ∧
      ∃ n u, replay? step? t (List.replicate n .task) = some u ∧ u.killRequested) := by
  have kept : Kept t := replay?_preserves run (kept_initial begins) fun _ inv taken => inv.step taken
  constructor
  · intro past
    obtain ⟨why, stopped, killed⟩ := kept.decided past
    refine ⟨⟨why, stopped, ?_⟩, fun later u further => decided_replay past further⟩
    rw [killed]
    exact decide_eq_true_iff
  · intro cancelled early
    have doomed : Doomed t := { kept with cancelled, early }
    refine ⟨fun later u further past => ?_, doomed.settles⟩
    have still : Doomed u := replay?_preserves further doomed fun _ inv taken => inv.step taken
    exact still.killed past

/-- Cancelled while an event waits to be sent, the process having ended already: the task comes by itself
    to ask for a kill. -/
theorem cancelled_stream_before_send :
    ∃ t, replay? step?
        { pump := { ready := [Bytes.ofString "\x7b\"type\":\"oom\",\"id\":\"a\"\x7d"], closing := some .eof } }
        [.task, .task, .task, .task, .exit (.exited 0), .around .cancel] = some t ∧
      t.pump.received = [] ∧ ¬ t.pump.AtEnd ∧
      ∃ n u, replay? step? t (List.replicate n .task) = some u ∧ u.killRequested := by
  have ends : (replay? step?
        { pump := { ready := [Bytes.ofString "\x7b\"type\":\"oom\",\"id\":\"a\"\x7d"], closing := some .eof } }
        [.task, .task, .task, .task, .exit (.exited 0), .around .cancel]).map
        (fun t => (t.pump.received, t.pump.stage, t.pump.sawEnd, t.pump.cancelled))
      = some ([], .sending ⟨.oom, "a", none⟩, false, true) := by
    decide +kernel
  obtain ⟨t, run, eq⟩ := Option.map_eq_some_iff.mp ends
  simp only [Prod.mk.injEq] at eq
  obtain ⟨received, stage, goesOn, cancelled⟩ := eq
  have early : ¬ t.pump.AtEnd := by simp [Pump.State.AtEnd, goesOn, stage]
  have begins : Initial
      { pump := { ready := [Bytes.ofString "\x7b\"type\":\"oom\",\"id\":\"a\"\x7d"], closing := some .eof } } :=
    ⟨_, ⟨_, _, _, _, _, rfl⟩, rfl⟩
  exact ⟨t, run, received, early, ((cancelled_stream begins run).2 cancelled early).2⟩

/-- A task that was cancelled and leaves its process alone for good: its pump is over, the process goes on,
    there is nothing for the task to do, and no kill is requested, whatever comes. -/
structure Unheard (s : State) : Prop where
  cancelled : s.pump.cancelled
  goesOn : s.ended = none
  past : s.stage ≠ .pumping
  stuck : step? s .task = none
  spared : ∀ later u, replay? step? s later = some u → u.killRequested = false

theorem unheard_reaping {why : Pump.End} (cancelled : s.pump.cancelled) (goesOn : s.ended = none)
    (stage : s.stage = .reaping why) (spared : s.killRequested = false) : Unheard s where
  cancelled := cancelled
  goesOn := goesOn
  past := stage ▸ nofun
  stuck := by simp [step?, task?, stage, goesOn]
  spared _ _ further := (decided_replay (stage ▸ nofun) further).trans spared

/-- A cancellation that comes while the end of the stream is being read goes unheard, and so does one that
    comes behind it. -/
theorem late_cancellation_unheard :
    (∃ t, replay? step? { pump := { closing := some .eof } }
        [.task, .task, .around .cancel, .task, .task, .task] = some t ∧ Unheard t) ∧
    ∃ t, replay? step? { pump := { closing := some .eof } }
        [.task, .task, .task, .task, .task, .around .cancel] = some t ∧ Unheard t := by
  have during : (replay? step? { pump := { closing := some .eof } }
        [.task, .task, .around .cancel, .task, .task, .task]).map
        (fun t => (t.pump.cancelled, t.ended, t.stage, t.killRequested))
      = some (true, none, .reaping .eof, false) := by
    decide +kernel
  have behind : (replay? step? { pump := { closing := some .eof } }
        [.task, .task, .task, .task, .task, .around .cancel]).map
        (fun t => (t.pump.cancelled, t.ended, t.stage, t.killRequested))
      = some (true, none, .reaping .eof, false) := by
    decide +kernel
  constructor
  · obtain ⟨t, run, eq⟩ := Option.map_eq_some_iff.mp during
    simp only [Prod.mk.injEq] at eq
    obtain ⟨cancelled, goesOn, stage, spared⟩ := eq
    exact ⟨t, run, unheard_reaping cancelled goesOn stage spared⟩
  · obtain ⟨t, run, eq⟩ := Option.map_eq_some_iff.mp behind
    simp only [Prod.mk.injEq] at eq
    obtain ⟨cancelled, goesOn, stage, spared⟩ := eq
    exact ⟨t, run, unheard_reaping cancelled goesOn stage spared⟩

end Watch

end Overseer.Telemetry
