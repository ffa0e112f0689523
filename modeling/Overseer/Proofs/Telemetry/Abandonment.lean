-- SUMMARY: What becomes of a pump whose consumer is gone: only its next event tells it so.
import Overseer.Proofs.Telemetry.Channel

/-!
# Abandoned streams

Only a send tells the pump that its receiver is gone. So the one thing that ends a pump for this reason is
an event that is found and cannot be delivered. Without such an event the pump of an abandoned stream
goes on to the end of the stream or to a failed read, and as long as its reader is silent it waits.
-/

namespace Overseer.Telemetry.Pump

open Transition (drive drive_replicate drive_settles replay? replay?_preserves)

variable {s t : State} {a : Action}

-- ---------------------------------------------------------------------------
-- Why a pump has stopped
-- ---------------------------------------------------------------------------

/-- What a stopped pump gives as its reason is so. -/
structure Explained (s : State) : Prop where
  called : s.stage = .stopped .cancelled → s.cancelled
  hungUp : s.stage = .stopped .receiverDropped →
    s.receiverDropped ∧ ∃ e, s.delivered ++ [e] <+: s.found
  failed : s.stage = .stopped .readFailed → s.delivered = s.found

theorem explained_running (running : ∀ why, s.stage ≠ .stopped why) : Explained s where
  called stage := absurd stage (running .cancelled)
  hungUp stage := absurd stage (running .receiverDropped)
  failed stage := absurd stage (running .readFailed)

theorem Explained.step (inv : Explained s) (accounts : Accounts s) (h : step? s a = some t) :
    Explained t := by
  obtain ⟨-, accounts⟩ := accounts
  cases step?_move h with
  | decoded | exhausted | sent | woken | fed | ended => exact explained_running nofun
  | passed stage => exact explained_running (by rw [stage]; nofun)
  | completed => exact ⟨nofun, nofun, nofun⟩
  | called stage cancelled => exact ⟨fun _ => cancelled, nofun, nofun⟩
  | @hungUp e stage gone =>
    simp only [stage] at accounts
    have further : s.delivered ++ [e] <+: s.found :=
      ⟨Intake.events s.intake.drain.1, by rw [← accounts.1, List.append_assoc]; rfl⟩
    exact ⟨nofun, fun _ => ⟨gone, e, further⟩, nofun⟩
  | failed stage none closing =>
    simp only [stage] at accounts
    exact ⟨nofun, nofun, fun _ => accounts.1⟩
  | @received e rest queue =>
    have same : s.received ++ [e] ++ rest = s.delivered := by simp [State.delivered, queue]
    refine ⟨inv.called, fun stage => ?_, fun stage => ?_⟩
    · simp only [State.delivered, same]
      exact inv.hungUp stage
    · simp only [State.delivered, same]
      exact inv.failed stage
  | arrived | closed => exact ⟨inv.called, inv.hungUp, inv.failed⟩
  | cancelled => exact ⟨fun _ => rfl, inv.hungUp, inv.failed⟩
  | dropped => exact ⟨inv.called, fun stage => ⟨rfl, (inv.hungUp stage).2⟩, inv.failed⟩

/-- A read is under way only when there is something to be read. -/
def Awake (s : State) : Prop := s.stage = .reading → s.ready ≠ [] ∨ s.closing ≠ none

theorem Awake.step (inv : Awake s) (h : step? s a = some t) : Awake t := by
  cases step?_move h with
  | woken stage something => exact fun _ => something
  | passed stage =>
    intro reading
    exact absurd (stage.symm.trans reading) nofun
  | arrived => exact fun _ => .inl (List.append_ne_nil_of_right_ne_nil _ (List.cons_ne_nil _ _))
  | closed => exact fun _ => .inr nofun
  | decoded | exhausted | completed | sent | called | hungUp | failed | fed | ended => exact nofun
  | cancelled | received | dropped => exact inv

/-- What holds of a pump at any time. -/
structure Sound (s : State) : Prop where
  accounts : Accounts s
  endsRead : EndsRead s
  explained : Explained s
  awake : Awake s

theorem sound_initial (h : Initial s) : Sound s := by
  have decoding : s.stage = .decoding := by
    obtain ⟨ready, closing, capacity, cancelled, receiverDropped, rfl⟩ := h
    rfl
  refine ⟨accounts_initial h, endsRead_initial h, explained_running (decoding ▸ nofun), ?_⟩
  intro reading
  exact absurd (decoding.symm.trans reading) nofun

theorem Sound.step (inv : Sound s) (h : step? s a = some t) : Sound t :=
  ⟨inv.accounts.step h, inv.endsRead.step h, inv.explained.step inv.accounts h, inv.awake.step h⟩

-- ---------------------------------------------------------------------------
-- Without its receiver
-- ---------------------------------------------------------------------------

/-- Once the receiver is gone, nothing more is sent, and it does not come back. -/
theorem dropped_step (dropped : s.receiverDropped) (h : step? s a = some t) :
    t.receiverDropped ∧ t.delivered = s.delivered := by
  cases step?_move h with
  | sent stage live held room =>
    rw [held] at dropped
    cases dropped
  | received queue => exact ⟨dropped, by simp [State.delivered, queue]⟩
  | dropped => exact ⟨rfl, rfl⟩
  | decoded | passed | exhausted | completed | called | hungUp | failed | woken | fed | ended | arrived
  | closed | cancelled => exact ⟨dropped, rfl⟩

theorem dropped_replay {later : List Action} (dropped : s.receiverDropped)
    (run : replay? step? s later = some t) : t.delivered = s.delivered := by
  have holds : t.receiverDropped ∧ t.delivered = s.delivered := by
    refine replay?_preserves (P := fun u => u.receiverDropped ∧ u.delivered = s.delivered) run
      ⟨dropped, rfl⟩ fun _ holds taken => ?_
    obtain ⟨still, same⟩ := dropped_step holds.1 taken
    exact ⟨still, same.trans holds.2⟩
  exact holds.2

theorem uncancelled_step (live : s.cancelled = false) (other : a ≠ .cancel)
    (h : step? s a = some t) : t.cancelled = false := by
  cases step?_move h with
  | cancelled => exact absurd rfl other
  | decoded | passed | exhausted | completed | sent | called | hungUp | failed | woken | fed | ended
  | arrived | closed | received | dropped => exact live

/-- A pump that nobody cancelled and nobody listens to. -/
structure Abandoned (s : State) : Prop extends Sound s where
  live : s.cancelled = false
  dropped : s.receiverDropped

/-- Why an abandoned pump has stopped: what it found next it could not deliver, or its stream is over and
    everything was delivered before. -/
theorem Abandoned.reason {why : End} (inv : Abandoned s) (stopped : s.stage = .stopped why) :
    (why = .receiverDropped ∧ ∃ e, s.delivered ++ [e] <+: s.found) ∨
      (why = .readFailed ∧ s.delivered = s.found) ∨
      (why = .eof ∧ s.delivered = s.found ∧ s.ready = []) := by
  cases why with
  | receiverDropped => exact .inl ⟨rfl, (inv.explained.hungUp stopped).2⟩
  | readFailed => exact .inr (.inl ⟨rfl, inv.explained.failed stopped⟩)
  | cancelled =>
    have called := inv.explained.called stopped
    rw [inv.live] at called
    cases called
  | eof =>
    have whole := inv.accounts.2
    simp only [stopped] at whole
    exact .inr (.inr ⟨rfl, whole.1, (inv.endsRead whole.2).1⟩)

theorem Abandoned.pump (inv : Abandoned s) (h : step? s .pump = some t) : Abandoned t :=
  { inv.toSound.step h with
    live := uncancelled_step inv.live (fun eq => by cases eq) h
    dropped := (dropped_step inv.dropped h).1 }

-- ---------------------------------------------------------------------------
-- The pump left alone
-- ---------------------------------------------------------------------------

/-- The next step of a pump whose rivals do nothing any more. -/
def alone (s : State) : Option Action := (advance? s).map fun _ => .pump

theorem alone_eq_none : alone s = none ↔ advance? s = none := Option.map_eq_none_iff

/-- More than the steps that a pump takes from its stage until it reads on or stops. -/
def Stage.weight : Stage → Nat
  | .decoding => 3
  | .waiting => 2
  | .sending _ | .reading => 1
  | .stopped _ => 0

/-- More than the steps that a pump which sends nothing takes if nothing further arrives. -/
def State.toil (s : State) : Nat :=
  4 * (s.intake.buffer.length + s.ready.flatten.length + s.ready.length)
    + (if s.sawEnd then 0 else 4) + s.stage.weight

/-- Every step of the pump that sends nothing gets it nearer to where it stops or waits. -/
theorem Accounts.toil (inv : Accounts s) (h : step? s .pump = some t)
    (unsent : t.delivered = s.delivered) : t.toil < s.toil := by
  obtain ⟨-, accounts⟩ := inv
  cases step?_move h with
  | decoded stage next =>
    have shorter := Intake.next_length next nofun
    simp only [State.toil, stage, Stage.weight]
    omega
  | passed stage next =>
    have shorter := Intake.next_length next nofun
    simp only [State.toil, stage, Stage.weight]
    omega
  | exhausted stage next =>
    have shorter := (Intake.next_takes next).suffix.length_le
    simp only [State.toil, stage, Stage.weight]
    omega
  | completed stage next =>
    have shorter := (Intake.next_takes next).suffix.length_le
    simp only [State.toil, stage, Stage.weight]
    omega
  | sent => simp [State.delivered] at unsent
  | called stage =>
    rcases stage with ⟨e, stage⟩ | stage
    · simp only [State.toil, stage, Stage.weight]
      omega
    · simp only [State.toil, stage, Stage.weight]
      omega
  | hungUp stage | failed stage | woken stage =>
    simp only [State.toil, stage, Stage.weight]
    omega
  | fed stage ready =>
    simp only [State.toil, stage, ready, Stage.weight, Intake.feed, List.length_append,
      List.flatten_cons, List.length_cons]
    omega
  | ended stage =>
    simp only [stage] at accounts
    simp only [State.toil, stage, accounts.2.2, Stage.weight, Intake.finish, if_true,
      Bool.false_eq_true, if_false]
    omega

/-- Where an uncancelled pump can do nothing: it has stopped, or waits for room, or for its reader. -/
theorem Sound.stuck (inv : Sound s) (live : s.cancelled = false) (stuck : advance? s = none) :
    (∃ why, s.stage = .stopped why) ∨
      (∃ e, s.stage = .sending e ∧ s.receiverDropped = false ∧ s.capacity ≤ s.queue.length) ∨
      s.stage = .waiting ∧ s.ready = [] ∧ s.closing = none ∧ s.delivered = s.found := by
  have accounts := inv.accounts.2
  have awake := inv.awake
  unfold advance? at stuck
  split at stuck
  · split at stuck <;> cases stuck
  · rename_i e stage
    simp only [live, Bool.false_eq_true, if_false] at stuck
    split_ifs at stuck with dropped room
    exact .inr (.inl ⟨e, stage, Bool.eq_false_iff.mpr dropped, Nat.not_lt.mp room⟩)
  · rename_i stage
    simp only [stage] at accounts
    simp only [live, Bool.false_eq_true, if_false] at stuck
    split_ifs at stuck with nothing
    simp only [Bool.and_eq_true, List.isEmpty_iff, Option.isNone_iff_eq_none] at nothing
    exact .inr (.inr ⟨stage, nothing.1, nothing.2, accounts.1⟩)
  · rename_i stage
    split at stuck
    · cases stuck
    · cases stuck
    · cases stuck
    · rename_i none silent
      rcases awake stage with something | something
      · exact absurd none something
      · exact absurd silent something
  · rename_i why stage
    exact .inl ⟨why, stage⟩

/-- Where an abandoned pump can do nothing more: it has stopped, or its reader keeps silent. -/
theorem Abandoned.stuck (inv : Abandoned s) (stuck : advance? s = none) :
    (∃ why, s.stage = .stopped why) ∨
      s.stage = .waiting ∧ s.ready = [] ∧ s.closing = none ∧ s.delivered = s.found := by
  rcases inv.toSound.stuck inv.live stuck with stopped | ⟨e, -, held, -⟩ | waits
  · exact .inl stopped
  · have dropped := inv.dropped
    rw [held] at dropped
    cases dropped
  · exact .inr waits

/-- An abandoned pump that is left alone gets stuck. -/
theorem Abandoned.settles (inv : Abandoned s) :
    ∃ n t, replay? step? s (List.replicate n .pump) = some t ∧ Abandoned t ∧ advance? t = none := by
  have keeps : ∀ {u : State} {b : Action}, Abandoned u → alone u = some b →
      ∃ v, step? u b = some v ∧ Abandoned v ∧ v.toil < u.toil := by
    intro u b inv picked
    obtain ⟨v, advanced, rfl⟩ := Option.map_eq_some_iff.mp picked
    have taken : step? u .pump = some v := advanced
    exact ⟨v, taken, inv.pump taken, inv.accounts.toil taken (dropped_step inv.dropped taken).2⟩
  have only : ∀ u b, alone u = some b → b = .pump := by
    intro u b picked
    obtain ⟨-, -, eq⟩ := Option.map_eq_some_iff.mp picked
    exact eq.symm
  obtain ⟨n, run⟩ := drive_replicate only s.toil s
  obtain ⟨abandoned, rests⟩ := drive_settles State.toil keeps inv (Nat.le_refl s.toil)
  exact ⟨n, _, run, abandoned, alone_eq_none.mp rests⟩

-- ---------------------------------------------------------------------------
-- Runs
-- ---------------------------------------------------------------------------

/-- A run without cancellation that leaves the pump without its receiver: nothing more is ever sent. The
    pump gives up for want of a receiver only when it has found a further event; otherwise it ends with
    its stream, all events delivered before. Left alone, it stops or waits for a reader that keeps
    silent. -/
theorem abandoned_pump {actions : List Action} (begins : Initial s) (live : s.cancelled = false)
    (uncancelled : .cancel ∉ actions) (run : replay? step? s actions = some t)
    (dropped : t.receiverDropped) :
    (∀ later u, replay? step? t later = some u → u.received ++ u.queue = t.received ++ t.queue) ∧
    (∀ why, t.stage = .stopped why →
      (why = .receiverDropped ∧ ∃ e, t.received ++ t.queue ++ [e] <+: t.found) ∨
      (why = .readFailed ∧ t.received ++ t.queue = t.found) ∨
      (why = .eof ∧ t.received ++ t.queue = t.found ∧ t.taken = s.ready ++ arrivals actions)) ∧
    ∃ n u, replay? step? t (List.replicate n .pump) = some u ∧
      ((∃ why, u.stage = .stopped why) ∨
        u.stage = .waiting ∧ u.ready = [] ∧ u.closing = none ∧ u.received ++ u.queue = u.found ∧
          step? u .pump = none) := by
  have sound : Sound t := replay?_preserves run (sound_initial begins) fun _ inv taken => inv.step taken
  have stillLive : t.cancelled = false :=
    replay?_preserves (P := fun u => u.cancelled = false) run live fun mem live taken =>
      uncancelled_step live (fun eq => uncancelled (eq ▸ mem)) taken
  have abandoned : Abandoned t := { sound with live := stillLive, dropped }
  refine ⟨fun later u further => dropped_replay dropped further, fun why stopped => ?_, ?_⟩
  · rcases abandoned.reason stopped with hungUp | failed | ⟨rfl, all, empty⟩
    · exact .inl hungUp
    · exact .inr (.inl failed)
    · have fresh : s.taken = [] := by
        obtain ⟨ready, closing, capacity, cancelled, receiverDropped, rfl⟩ := begins
        rfl
      have chunks := chunks_replay run
      rw [fresh, empty, List.append_nil, List.nil_append] at chunks
      exact .inr (.inr ⟨rfl, all, chunks⟩)
  · obtain ⟨n, u, further, inv, stuck⟩ := abandoned.settles
    refine ⟨n, u, further, ?_⟩
    rcases inv.stuck stuck with stopped | ⟨waiting, nothing, silent, all⟩
    · exact .inl stopped
    · exact .inr ⟨waiting, nothing, silent, all, stuck⟩

/-- Noise does not tell the pump that its receiver is gone, the event behind it does. -/
theorem abandoned_pump_further_event :
    ∃ t, replay? step?
        { ready := [Bytes.ofString "###", Bytes.ofString "\x7b\"type\":\"oom\",\"id\":\"a\"\x7d"] }
        (.dropReceiver :: List.replicate 9 .pump) = some t ∧
      t.skipped.length = 1 ∧ t.stage = .stopped .receiverDropped ∧
      ∃ e, t.received ++ t.queue ++ [e] <+: t.found := by
  have ends : (replay? step?
        { ready := [Bytes.ofString "###", Bytes.ofString "\x7b\"type\":\"oom\",\"id\":\"a\"\x7d"] }
        (.dropReceiver :: List.replicate 9 .pump)).map
        (fun t => (t.skipped.length, t.stage, t.receiverDropped))
      = some (1, .stopped .receiverDropped, true) := by
    decide +kernel
  obtain ⟨t, run, eq⟩ := Option.map_eq_some_iff.mp ends
  simp only [Prod.mk.injEq] at eq
  obtain ⟨skipped, stopped, dropped⟩ := eq
  have uncancelled : Action.cancel ∉ .dropReceiver :: List.replicate 9 .pump := by
    simp
  refine ⟨t, run, skipped, stopped, ?_⟩
  rcases (abandoned_pump ⟨_, _, _, _, _, rfl⟩ rfl uncancelled run dropped).2.1 _ stopped with
    ⟨-, further⟩ | ⟨other, -⟩ | ⟨other, -⟩
  · exact further
  · cases other
  · cases other

/-- A receiver that is dropped at the very start goes unnoticed if the stream ends behind mere noise, and
    if its reader is silent the pump waits. -/
theorem dropped_receiver_unnoticed :
    (∃ t, replay? step? { ready := [Bytes.ofString "###"], closing := some .eof }
        (.dropReceiver :: List.replicate 8 .pump) = some t ∧
      t.receiverDropped ∧ t.stage = .stopped .eof) ∧
    ∃ t, replay? step? {} [.dropReceiver, .pump] = some t ∧
      t.receiverDropped ∧ t.stage = .waiting ∧ step? t .pump = none := by
  have noise : (replay? step? { ready := [Bytes.ofString "###"], closing := some .eof }
        (.dropReceiver :: List.replicate 8 .pump)).map (fun t => (t.receiverDropped, t.stage))
      = some (true, .stopped .eof) := by
    decide +kernel
  obtain ⟨t, run, eq⟩ := Option.map_eq_some_iff.mp noise
  simp only [Prod.mk.injEq] at eq
  exact ⟨⟨t, run, eq.1, eq.2⟩, _, rfl, rfl, rfl, rfl⟩

end Overseer.Telemetry.Pump
