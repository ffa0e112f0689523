-- SUMMARY: Reading up to the first event answers what a pump on the same reader delivers first, or why it ends.
import Overseer.Proofs.Telemetry.Abandonment
import Overseer.Proofs.Telemetry.First

/-!
# One shot

A question needs the first event of a stream only, so it reads on its own and stops there; the pump goes on to
the end. Both see the same chunks. A pump that nobody stops ends with its stream or with its reader, and then it
has delivered all there was, the answer to the question first.
-/

namespace Overseer.Telemetry.Pump

open Transition (exists_settled replay? replay?_preserves)

variable {s t : State} {a : Action} {actions : List Action}

-- ---------------------------------------------------------------------------
-- Pumps that nobody stops
-- ---------------------------------------------------------------------------

/-- A pump gives its reader up only when that fails, behind the chunks. -/
def FailsRead (s : State) : Prop :=
  s.stage = .stopped .readFailed → s.ready = [] ∧ s.closing = some .failed

theorem FailsRead.step (inv : FailsRead s) (h : step? s a = some t) : FailsRead t := by
  cases step?_move h with
  | failed stage none closing => exact fun _ => ⟨none, closing⟩
  | passed stage =>
    intro failed
    exact absurd (stage.symm.trans failed) nofun
  | arrived opened | closed opened =>
    intro failed
    have closing := (inv failed).2
    rw [opened] at closing
    cases closing
  | decoded | exhausted | completed | sent | called | hungUp | woken | fed | ended => exact nofun
  | cancelled | received | dropped => exact inv

/-- A pump whose receiver is there and whose caller leaves it alone. -/
structure Attended (s : State) : Prop extends Sound s where
  failsRead : FailsRead s
  live : s.cancelled = false
  held : s.receiverDropped = false

theorem attended_initial (begins : Initial s) (live : s.cancelled = false)
    (held : s.receiverDropped = false) : Attended s := by
  refine { sound_initial begins with failsRead := ?_, live, held }
  obtain ⟨ready, closing, capacity, cancelled, receiverDropped, rfl⟩ := begins
  exact nofun

theorem held_step (held : s.receiverDropped = false) (other : a ≠ .dropReceiver)
    (h : step? s a = some t) : t.receiverDropped = false := by
  cases step?_move h with
  | dropped => exact absurd rfl other
  | decoded | passed | exhausted | completed | sent | called | hungUp | failed | woken | fed | ended
  | arrived | closed | cancelled | received => exact held

theorem Attended.step (inv : Attended s) (goesOn : a ≠ .cancel) (stays : a ≠ .dropReceiver)
    (h : step? s a = some t) : Attended t :=
  { inv.toSound.step h with
    failsRead := inv.failsRead.step h
    live := uncancelled_step inv.live goesOn h
    held := held_step inv.held stays h }

theorem Attended.replay (inv : Attended s) (goesOn : .cancel ∉ actions)
    (stays : .dropReceiver ∉ actions) (run : replay? step? s actions = some t) : Attended t :=
  replay?_preserves run inv fun mem inv taken =>
    inv.step (fun eq => goesOn (eq ▸ mem)) (fun eq => stays (eq ▸ mem)) taken

/-- How such a pump ends: with its stream or with its reader, and everything found was delivered. -/
theorem Attended.over {why : End} (inv : Attended s) (stopped : s.stage = .stopped why) :
    s.ready = [] ∧
      ((why = .eof ∧ s.closing = some .eof ∧ s.delivered = Intake.events (Intake.session s.taken).1) ∨
        (why = .readFailed ∧ s.closing = some .failed ∧
          s.delivered = Intake.events (Intake.feedAll {} s.taken).1)) := by
  cases why with
  | eof =>
    have whole := inv.accounts.2
    simp only [stopped] at whole
    obtain ⟨none, closing⟩ := inv.endsRead whole.2
    refine ⟨none, .inl ⟨rfl, closing, ?_⟩⟩
    simpa [State.found, State.decoded, whole.2] using whole.1
  | readFailed =>
    obtain ⟨none, closing⟩ := inv.failsRead stopped
    have unended : s.sawEnd = false := by
      by_contra sawEnd
      have other := (inv.endsRead (Bool.eq_true_of_not_eq_false sawEnd)).2
      rw [closing] at other
      cases other
    refine ⟨none, .inr ⟨rfl, closing, ?_⟩⟩
    simpa [State.found, State.decoded, unended] using inv.explained.failed stopped
  | cancelled =>
    have called := inv.explained.called stopped
    rw [inv.live] at called
    cases called
  | receiverDropped =>
    have gone := (inv.explained.hungUp stopped).1
    rw [inv.held] at gone
    cases gone

-- ---------------------------------------------------------------------------
-- Consumers that take everything
-- ---------------------------------------------------------------------------

/-- A consumer that takes each event as soon as it can, and a pump that works in between. -/
def served (s : State) : Option Action :=
  if s.queue.isEmpty then alone s else some .receive

theorem served_cases (picked : served s = some a) : a = .pump ∨ a = .receive := by
  unfold served at picked
  split_ifs at picked with empty
  · obtain ⟨-, -, rfl⟩ := Option.map_eq_some_iff.mp picked
    exact .inl rfl
  · exact .inr (Option.some.inj picked).symm

theorem served_eq_none (rests : served s = none) : s.queue = [] ∧ advance? s = none := by
  unfold served at rests
  split_ifs at rests with empty
  exact ⟨List.isEmpty_iff.mp empty, alone_eq_none.mp rests⟩

/-- What an event in the hand of the pump still costs. -/
def Stage.hand : Stage → Nat
  | .sending _ => 4
  | _ => 0

/-- More than the steps of a pump and its consumer if nothing further arrives. -/
def State.chores (s : State) : Nat := s.toil + s.queue.length + s.stage.hand

/-- To take an event in hand costs an octet, and to send it makes up for the decoding that begins again. -/
theorem Accounts.chores (inv : Accounts s) (h : step? s .pump = some t) : t.chores < s.chores := by
  have toil := inv.toil h
  cases step?_move h with
  | decoded stage next =>
    have shorter := Intake.next_length next nofun
    simp only [State.chores, State.toil, stage, Stage.weight, Stage.hand]
    omega
  | sent stage =>
    simp only [State.chores, State.toil, stage, Stage.weight, Stage.hand, List.length_append,
      List.length_singleton]
    omega
  | passed stage | exhausted stage | completed stage | called stage | hungUp stage | failed stage
  | woken stage | fed stage | ended stage =>
    have less := toil rfl
    simp only [State.chores, stage, Stage.hand] at less ⊢
    omega

theorem chores_receive (taken : step? s .receive = some t) : t.chores < s.chores := by
  cases step?_move taken with
  | received queue =>
    simp only [State.chores, State.toil, queue, List.length_cons]
    omega

/-- What such a consumer and its pump take up is possible and gets them on. -/
theorem Sound.gets_on (inv : Sound s) (held : s.receiverDropped = false) (picked : served s = some a) :
    ∃ t, step? s a = some t ∧ t.chores < s.chores := by
  unfold served at picked
  split_ifs at picked with empty
  · obtain ⟨t, advanced, rfl⟩ := Option.map_eq_some_iff.mp picked
    have taken : step? s .pump = some t := advanced
    exact ⟨t, taken, inv.accounts.chores taken⟩
  · obtain ⟨e, rest, queue⟩ := List.exists_cons_of_ne_nil fun none => empty (List.isEmpty_iff.mpr none)
    cases picked
    have taken : ∃ t, step? s .receive = some t := ⟨_, by simp only [step?, queue, held]; rfl⟩
    obtain ⟨t, taken⟩ := taken
    exact ⟨t, taken, chores_receive taken⟩

/-- A pump that is served comes to a state in which it can do nothing and the channel is empty. -/
theorem served_settles {P : State → Prop} (sound : ∀ {u}, P u → Sound u ∧ u.receiverDropped = false)
    (keeps : ∀ {u b v}, P u → b = .pump ∨ b = .receive → step? u b = some v → P v) (holds : P s) :
    ∃ later t, (∀ a ∈ later, a = .pump ∨ a = .receive) ∧ replay? step? s later = some t ∧
      P t ∧ t.queue = [] ∧ advance? t = none := by
  have less : ∀ {u : State} {b : Action}, P u → served u = some b →
      ∃ v, step? u b = some v ∧ P v ∧ v.chores < u.chores := by
    intro u b holds picked
    obtain ⟨inv, held⟩ := sound holds
    obtain ⟨v, taken, less⟩ := inv.gets_on held picked
    exact ⟨v, taken, keeps holds (served_cases picked) taken, less⟩
  obtain ⟨later, t, run, picks, still, rests⟩ := exists_settled State.chores less holds
  refine ⟨later, t, fun a mem => ?_, run, still, served_eq_none rests⟩
  obtain ⟨u, picked⟩ := picks a mem
  exact served_cases picked

/-- What is decided about the end of the stream stays so. -/
theorem closing_step {how : Closing} (closed : s.closing = some how) (h : step? s a = some t) :
    t.closing = some how := by
  cases step?_move h with
  | arrived opened | closed opened =>
    rw [closed] at opened
    cases opened
  | decoded | passed | exhausted | completed | sent | called | hungUp | failed | woken | fed | ended
  | cancelled | received | dropped => exact closed

/-- Served by its consumer, such a pump comes to the end of its stream, and then the channel is empty. -/
theorem Attended.settles {how : Closing} (inv : Attended s) (closed : s.closing = some how)
    (room : 0 < s.capacity) :
    ∃ later t why, (∀ a ∈ later, a = .pump ∨ a = .receive) ∧ replay? step? s later = some t ∧
      t.stage = .stopped why ∧ t.queue = [] := by
  have keeps : ∀ {u v : State} {b : Action}, (Attended u ∧ u.closing = some how ∧ 0 < u.capacity) →
      b = .pump ∨ b = .receive → step? u b = some v →
      Attended v ∧ v.closing = some how ∧ 0 < v.capacity := by
    rintro u v b ⟨inv, closed, room⟩ ours taken
    have mild : b ≠ .cancel ∧ b ≠ .dropReceiver := by
      rcases ours with rfl | rfl <;> exact ⟨nofun, nofun⟩
    exact ⟨inv.step mild.1 mild.2 taken, closing_step closed taken, capacity_step taken ▸ room⟩
  obtain ⟨later, t, only, run, ⟨attended, stillClosed, stillRoom⟩, empty, stuck⟩ :=
    served_settles (fun holds => ⟨holds.1.toSound, holds.1.held⟩) keeps ⟨inv, closed, room⟩
  rcases attended.toSound.stuck attended.live stuck with ⟨why, stopped⟩ | ⟨e, -, -, full⟩ | ⟨-, -, silent, -⟩
  · exact ⟨later, _, why, only, run, stopped, empty⟩
  · rw [empty] at full
    exact absurd full (Nat.not_le.mpr stillRoom)
  · rw [stillClosed] at silent
    cases silent

-- ---------------------------------------------------------------------------
-- Runs
-- ---------------------------------------------------------------------------

/-- The chunks that the reader has got in a run are those that the pump has read and those at hand. -/
theorem chunks_initial (begins : Initial s) (run : replay? step? s actions = some t) :
    t.taken ++ t.ready = s.ready ++ arrivals actions := by
  have fresh : s.taken = [] := by
    obtain ⟨ready, closing, capacity, cancelled, receiverDropped, rfl⟩ := begins
    rfl
  have chunks := chunks_replay run
  rwa [fresh, List.nil_append] at chunks

/-- A run of the pump that nobody cancels and whose receiver stays, and a reader of the first event that is
    given the same chunks and the same end. Once the pump has stopped, it has done so with the stream or
    with the reader. The first event that it delivered is what the reader of the first event answers, and
    if it delivered none, the answer says how the stream ended. From anywhere in the run a consumer that
    takes every event gets the pump to stop. -/
theorem first_agrees (begins : Initial s) (live : s.cancelled = false) (held : s.receiverDropped = false)
    (goesOn : .cancel ∉ actions) (stays : .dropReceiver ∉ actions)
    (run : replay? step? s actions = some t) (id : String) (error : SystemError) :
    (∀ why, t.stage = .stopped why → ∃ how, t.closing = some how ∧
      (why = .eof ∧ how = .eof ∨ why = .readFailed ∧ how = .failed) ∧
      (First.ofChunks (s.ready ++ arrivals actions) (how = .failed)).answer id error =
        match t.received ++ t.queue, how with
        | e :: _, _ => .ok (some e)
        | [], .eof => .ok none
        | [], .failed => .error (First.unreadable id error)) ∧
    (0 < s.capacity → t.closing ≠ none →
      ∃ later u why, (∀ a ∈ later, a = .pump ∨ a = .receive) ∧ replay? step? t later = some u ∧
        u.stage = .stopped why ∧ u.queue = []) := by
  have attended := (attended_initial begins live held).replay goesOn stays run
  have chunks := chunks_initial begins run
  refine ⟨fun why stopped => ?_, fun room closed => ?_⟩
  · obtain ⟨none, ends⟩ := attended.over stopped
    rw [none, List.append_nil] at chunks
    rw [chunks] at ends
    obtain ⟨rfl, closing, all⟩ | ⟨rfl, closing, all⟩ := ends
    · refine ⟨.eof, closing, .inl ⟨rfl, rfl⟩, (Intake.answer_ended _ id error).trans ?_⟩
      rw [← all, State.delivered]
      cases t.received ++ t.queue with
      | nil => rfl
      | cons e rest => rfl
    · refine ⟨.failed, closing, .inr ⟨rfl, rfl⟩, (Intake.answer_failed _ id error).trans ?_⟩
      rw [← all, State.delivered]
      cases t.received ++ t.queue with
      | nil => rfl
      | cons e rest => rfl
  · obtain ⟨how, closing⟩ := Option.ne_none_iff_exists'.mp closed
    have capacity : t.capacity = s.capacity :=
      replay?_preserves (P := fun u => u.capacity = s.capacity) run rfl
        fun _ same taken => (capacity_step taken).trans same
    exact attended.settles closing (capacity ▸ room)

/-- A reader that fails behind an event ends the pump, and whoever asks for the first event never learns. -/
theorem first_agrees_unseen_failure :
    ∃ t, replay? step?
        { ready := [Bytes.ofString "\x7b\"type\":\"oom\",\"id\":\"a\"\x7d"], closing := some .failed }
        (List.replicate 8 .pump) = some t ∧
      t.stage = .stopped .readFailed ∧
      (First.ofChunks [Bytes.ofString "\x7b\"type\":\"oom\",\"id\":\"a\"\x7d"] true).answer "c1" (.number 5)
        = .ok (some ⟨.oom, "a", none⟩) := by
  have ends : (replay? step?
        { ready := [Bytes.ofString "\x7b\"type\":\"oom\",\"id\":\"a\"\x7d"], closing := some .failed }
        (List.replicate 8 .pump)).map (fun t => (t.stage, t.received ++ t.queue))
      = some (.stopped .readFailed, [⟨.oom, "a", none⟩]) := by
    decide +kernel
  obtain ⟨t, run, eq⟩ := Option.map_eq_some_iff.mp ends
  simp only [Prod.mk.injEq] at eq
  obtain ⟨stopped, delivered⟩ := eq
  obtain ⟨how, -, ⟨eof, -⟩ | ⟨-, rfl⟩, agrees⟩ :=
    (first_agrees ⟨_, _, _, _, _, rfl⟩ rfl rfl (by simp) (by simp) run "c1" (.number 5)).1 _ stopped
  · cases eof
  · simp only [delivered] at agrees
    exact ⟨t, run, stopped, agrees⟩

end Overseer.Telemetry.Pump
