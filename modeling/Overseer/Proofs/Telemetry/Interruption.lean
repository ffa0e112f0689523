-- SUMMARY: What a pump still delivers, and what it ends with, if it is cancelled in the middle of a read.
import Overseer.Proofs.Telemetry.Killing
import Overseer.Proofs.Telemetry.OneShot

/-!
# Interrupted reads

The pump looks for a cancellation before it sends and before it reads, but not while a read is under way.
A read that completes all the same is decoded, and nothing of it is sent. What the pump ends with is then
decided (`State.fate`): a further event or a further read tells it of the cancellation, and without
either it ends with its stream.
-/

namespace Overseer.Telemetry.Pump

open Transition (exists_settled replay? replay?_cons replay?_preserves)

variable {s t : State} {a : Action} {actions : List Action} {k : Nat}

-- ---------------------------------------------------------------------------
-- What is decided
-- ---------------------------------------------------------------------------

/-- What the pump ends with on the rest of a stream that has ended: with a cancellation if there is an
    event to be sent. -/
def lastEnd (i : Intake) : End :=
  if (Intake.events i.drain.1).isEmpty then .eof else .cancelled

/-- What a cancelled pump stops with whose receiver stays. -/
def State.fate (s : State) : End :=
  match s.stage with
  | .stopped why => why
  | .sending _ | .waiting => .cancelled
  | .decoding => if s.sawEnd then lastEnd s.intake else .cancelled
  | .reading =>
    match s.ready, s.closing with
    | [], some .eof => lastEnd s.intake.finish
    | [], some .failed => .readFailed
    | _, _ => .cancelled

/-- A cancelled pump whose receiver is there. -/
structure Interrupted (s : State) : Prop extends Sound s where
  cancelled : s.cancelled
  held : s.receiverDropped = false

theorem Interrupted.step (inv : Interrupted s) (stays : a ≠ .dropReceiver) (h : step? s a = some t) :
    Interrupted t :=
  { inv.toSound.step h with
    cancelled := (cancelled_step inv.cancelled h).1
    held := held_step inv.held stays h }

/-- As long as a chunk is at hand, the pump reads on after the read that is under way. -/
theorem fate_of_ready (stage : s.stage = .reading) (something : s.ready ≠ []) :
    s.fate = .cancelled := by
  simp only [State.fate, stage]
  split
  · rename_i none _
    exact absurd none something
  · rename_i none _
    exact absurd none something
  · rfl

/-- No step changes what a cancelled pump stops with. -/
theorem Interrupted.fate_step (inv : Interrupted s) (h : step? s a = some t) : t.fate = s.fate := by
  obtain ⟨ended, accounts⟩ := inv.accounts
  have awake := inv.awake
  cases step?_move h with
  | decoded stage next =>
    have drained := Intake.drain_more next nofun
    simp [State.fate, stage, lastEnd, drained, Intake.events_cons, Outcome.event?]
  | passed stage next =>
    have drained := Intake.drain_more next (Intake.malformed_ne_needMore _)
    simp [State.fate, stage, lastEnd, drained, Intake.events_cons, Outcome.event?]
  | exhausted stage next goesOn =>
    have unended : s.sawEnd = false := ended.symm.trans goesOn
    simp [State.fate, stage, unended]
  | completed stage next atEnd =>
    have sawEnd : s.sawEnd = true := ended.symm.trans atEnd
    simp [State.fate, stage, sawEnd, lastEnd, Intake.drain_needMore next, Intake.events]
  | sent stage live | woken stage something live =>
    cases live.symm.trans inv.cancelled
  | called stage =>
    rcases stage with ⟨e, stage⟩ | stage
    · simp only [State.fate, stage]
    · simp only [State.fate, stage]
  | hungUp stage gone => cases inv.held.symm.trans gone
  | failed stage none closing => simp only [State.fate, stage, none, closing]
  | fed stage ready =>
    simp only [stage] at accounts
    rw [fate_of_ready stage (ready ▸ List.cons_ne_nil _ _)]
    simp only [State.fate, accounts.2.2, Bool.false_eq_true, if_false]
  | ended stage none closing => simp only [State.fate, stage, none, closing, if_true]
  | arrived opened =>
    cases stage : s.stage with
    | reading =>
      have something : s.ready ≠ [] := (awake stage).resolve_right fun closing => closing opened
      rw [fate_of_ready stage something]
      exact fate_of_ready rfl (List.append_ne_nil_of_left_ne_nil something _)
    | decoding | sending | waiting | stopped => simp only [State.fate, stage]
  | closed opened =>
    cases stage : s.stage with
    | reading =>
      have something : s.ready ≠ [] := (awake stage).resolve_right fun closing => closing opened
      rw [fate_of_ready stage something]
      exact fate_of_ready rfl something
    | decoding | sending | waiting | stopped => simp only [State.fate, stage]
  | cancelled | received | dropped => rfl

theorem Interrupted.replay (inv : Interrupted s) (stays : .dropReceiver ∉ actions)
    (run : replay? step? s actions = some t) : Interrupted t ∧ t.fate = s.fate :=
  replay?_preserves (P := fun u => Interrupted u ∧ u.fate = s.fate) run ⟨inv, rfl⟩
    fun mem holds taken =>
      ⟨holds.1.step (fun eq => stays (eq ▸ mem)) taken, (holds.1.fate_step taken).trans holds.2⟩

theorem fate_stopped {why : End} (stopped : s.stage = .stopped why) : s.fate = why := by
  simp only [State.fate, stopped]

/-- What the stage of a read says about the end: whether it is a chunk that is being read, the end of the
    stream, or a failure of the reader. -/
theorem Sound.fate_reading (inv : Sound s) (stage : s.stage = .reading) :
    (s.ready ≠ [] ∧ s.fate = .cancelled) ∨
      (s.ready = [] ∧ s.closing = some .eof ∧ s.fate = lastEnd s.intake.finish) ∨
      (s.ready = [] ∧ s.closing = some .failed ∧ s.fate = .readFailed) := by
  by_cases none : s.ready = []
  · have closed := (inv.awake stage).resolve_left fun some => some none
    obtain ⟨how, closing⟩ := Option.ne_none_iff_exists'.mp closed
    cases how with
    | eof => exact .inr (.inl ⟨none, closing, by simp only [State.fate, stage, none, closing]⟩)
    | failed => exact .inr (.inr ⟨none, closing, by simp only [State.fate, stage, none, closing]⟩)
  · exact .inl ⟨none, fate_of_ready stage none⟩

-- ---------------------------------------------------------------------------
-- From the cancellation to the end
-- ---------------------------------------------------------------------------

/-- Served by its consumer, a cancelled pump stops, and then the channel is empty. -/
theorem Interrupted.settles (inv : Interrupted s) :
    ∃ later t why, (∀ a ∈ later, a = .pump ∨ a = .receive) ∧ replay? step? s later = some t ∧
      t.stage = .stopped why ∧ t.queue = [] := by
  have keeps : ∀ {u v : State} {b : Action}, Interrupted u → b = .pump ∨ b = .receive →
      step? u b = some v → Interrupted v := by
    intro u v b inv ours taken
    apply inv.step _ taken
    rcases ours with rfl | rfl <;> exact nofun
  obtain ⟨later, t, only, run, interrupted, empty, stuck⟩ :=
    served_settles (fun inv => ⟨inv.toSound, inv.held⟩) keeps inv
  cases ended : t.end? with
  | none =>
    obtain ⟨u, advanced⟩ := interrupted.toSound.runs interrupted.cancelled ended
    rw [stuck] at advanced
    cases advanced
  | some why => exact ⟨later, t, why, only, run, end?_eq_some.mp ended, empty⟩

-- ---------------------------------------------------------------------------
-- From the start to a read
-- ---------------------------------------------------------------------------

/-- A pump on its way to read number `k`, counted from 0, of a stream that has as many chunks. -/
structure Underway (k : Nat) (s : State) : Prop extends Attended s where
  running : ∀ why, s.stage ≠ .stopped why
  goesOn : s.sawEnd = false
  few : s.taken.length ≤ k
  enough : k ≤ s.taken.length + s.ready.length
  closed : s.closing ≠ none
  room : 0 < s.capacity

/-- A consumer that takes everything and a pump that works in between, up to read number `k`. -/
def untilRead (k : Nat) (s : State) : Option Action :=
  if s.stage = .reading ∧ s.taken.length = k then none else served s

theorem untilRead_cases (picked : untilRead k s = some a) :
    (a = .pump ∨ a = .receive) ∧ (s.stage = .reading → s.taken.length ≠ k) ∧ served s = some a := by
  unfold untilRead at picked
  split_ifs at picked with there
  exact ⟨served_cases picked, fun stage same => there ⟨stage, same⟩, picked⟩

theorem untilRead_eq_none (rests : untilRead k s = none) :
    (s.stage = .reading ∧ s.taken.length = k) ∨ (s.queue = [] ∧ advance? s = none) := by
  unfold untilRead at rests
  split_ifs at rests with there
  · exact .inl there
  · exact .inr (served_eq_none rests)

/-- Before the read the stream does not end: as many chunks are at hand. -/
theorem Underway.something (inv : Underway k s) (before : s.taken.length ≠ k) : s.ready ≠ [] := by
  intro none
  have enough := inv.enough
  rw [none, List.length_nil] at enough
  exact before (Nat.le_antisymm inv.few enough)

theorem Underway.step (inv : Underway k s) (picked : untilRead k s = some a)
    (h : step? s a = some t) : Underway k t := by
  obtain ⟨ours, before, -⟩ := untilRead_cases picked
  have attended : Attended t := by
    rcases ours with rfl | rfl
    · exact inv.toAttended.step (a := .pump) nofun nofun h
    · exact inv.toAttended.step (a := .receive) nofun nofun h
  have room : 0 < t.capacity := capacity_step h ▸ inv.room
  have running := inv.running
  have few := inv.few
  have enough := inv.enough
  cases step?_move h with
  | decoded | exhausted | sent | woken =>
    exact { attended with running := nofun, goesOn := inv.goesOn, few, enough, closed := inv.closed, room }
  | passed | received =>
    exact { attended with running, goesOn := inv.goesOn, few, enough, closed := inv.closed, room }
  | completed stage next ended =>
    exact absurd (inv.goesOn.symm.trans (inv.accounts.1.symm.trans ended)) nofun
  | called stage cancelled => exact absurd (inv.live.symm.trans cancelled) nofun
  | hungUp stage gone => exact absurd (inv.held.symm.trans gone) nofun
  | failed stage none | ended stage none => exact absurd none (inv.something (before stage))
  | @fed chunk rest stage ready =>
    have less : s.taken.length < k := Nat.lt_of_le_of_ne few (before stage)
    have one : (s.taken ++ [chunk]).length = s.taken.length + 1 := List.length_append
    have further : k ≤ (s.taken ++ [chunk]).length + rest.length := by
      rw [ready, List.length_cons] at enough
      omega
    exact { attended with
      running := nofun, goesOn := inv.goesOn, few := one ▸ less, enough := further
      closed := inv.closed, room }
  | arrived | closed | cancelled | dropped => rcases ours with impossible | impossible <;> cases impossible

theorem Underway.gets_on (inv : Underway k s) (picked : untilRead k s = some a) :
    ∃ t, step? s a = some t ∧ Underway k t ∧ t.chores < s.chores := by
  obtain ⟨t, taken, less⟩ := inv.toSound.gets_on inv.held (untilRead_cases picked).2.2
  exact ⟨t, taken, inv.step picked taken, less⟩

/-- Served by its consumer, the pump comes to every read of its stream. -/
theorem Underway.settles (inv : Underway k s) :
    ∃ before t, (∀ a ∈ before, a = .pump ∨ a = .receive) ∧ replay? step? s before = some t ∧
      t.stage = .reading ∧ t.taken.length = k := by
  obtain ⟨before, t, run, picks, underway, rests⟩ := exists_settled State.chores Underway.gets_on inv
  have only : ∀ a ∈ before, a = .pump ∨ a = .receive := by
    intro a mem
    obtain ⟨u, picked⟩ := picks a mem
    exact (untilRead_cases picked).1
  refine ⟨before, t, only, run, ?_⟩
  rcases untilRead_eq_none rests with there | ⟨empty, stuck⟩
  · exact there
  · rcases underway.toSound.stuck underway.live stuck with ⟨why, stopped⟩ | ⟨e, -, -, full⟩ | ⟨-, -, silent, -⟩
    · exact absurd stopped (underway.running why)
    · rw [empty] at full
      exact absurd full (Nat.not_le.mpr underway.room)
    · exact absurd silent underway.closed

-- ---------------------------------------------------------------------------
-- Runs
-- ---------------------------------------------------------------------------

theorem underway_initial (begins : Initial s) (live : s.cancelled = false)
    (held : s.receiverDropped = false) (inside : k ≤ s.ready.length) (closed : s.closing ≠ none)
    (room : 0 < s.capacity) : Underway k s := by
  have attended := attended_initial begins live held
  obtain ⟨ready, closing, capacity, cancelled, receiverDropped, rfl⟩ := begins
  have enough : k ≤ ([] : List Bytes).length + ready.length := by
    rw [List.length_nil, Nat.zero_add]
    exact inside
  exact { attended with
    running := nofun, goesOn := rfl, few := Nat.zero_le k, enough, closed, room }

theorem arrivals_append (before after : List Action) :
    arrivals (before ++ after) = arrivals before ++ arrivals after :=
  List.filterMap_append

/-- Nothing arrives behind what the reader has closed. -/
theorem closing_replay {how : Closing} (closed : s.closing = some how)
    (run : replay? step? s actions = some t) : t.closing = some how ∧ arrivals actions = [] := by
  induction actions generalizing s with
  | nil =>
    cases run
    exact ⟨closed, rfl⟩
  | cons a actions ih =>
    obtain ⟨m, first, later⟩ := replay?_cons.mp run
    obtain ⟨still, none⟩ := ih (closing_step closed first) later
    refine ⟨still, ?_⟩
    rw [← List.singleton_append, arrivals_append, none, List.append_nil]
    cases step?_move first with
    | arrived opened =>
      rw [closed] at opened
      cases opened
    | decoded | passed | exhausted | completed | sent | called | hungUp | failed | woken | fed | ended
    | closed | cancelled | received | dropped => rfl

/-- A run of the pump with its reader and its consumer, cancelled while read number `k` is under way; the end
    of the stream counts as the last read. From then on the consumer has got, or finds in the channel, the
    events of the chunks before number `k`, whatever the read brings. If it brings a chunk, the pump ends
    with the cancellation; a failure is reported as one; and at the end of the stream it depends on whether
    the rest still holds an event. Served by its consumer the pump comes to every read of its stream, and
    from the cancellation to its end. -/
theorem interrupted_read (begins : Initial s) (live : s.cancelled = false)
    (held : s.receiverDropped = false) :
    (∀ k ≤ s.ready.length, s.closing ≠ none → 0 < s.capacity →
      ∃ before t, (∀ a ∈ before, a = .pump ∨ a = .receive) ∧ replay? step? s before = some t ∧
        t.stage = .reading ∧ t.taken.length = k) ∧
    ∀ before t after u, .cancel ∉ before → .dropReceiver ∉ before ++ after →
      replay? step? s before = some t → t.stage = .reading →
      replay? step? t (.cancel :: after) = some u →
      let chunks := s.ready ++ arrivals (before ++ after)
      let k := t.taken.length
      k ≤ chunks.length ∧
      u.received ++ u.queue = Intake.events (Intake.feedAll {} (chunks.take k)).1 ∧
      (∀ why, u.stage = .stopped why →
        (k < chunks.length ∧ why = .cancelled) ∨
        (k = chunks.length ∧ u.closing = some .failed ∧ why = .readFailed) ∨
        (k = chunks.length ∧ u.closing = some .eof ∧
          why = if (Intake.events (Intake.feedAll {} chunks).2.finish.drain.1).isEmpty then .eof
            else .cancelled)) ∧
      ∃ later v why, (∀ a ∈ later, a = .pump ∨ a = .receive) ∧ replay? step? u later = some v ∧
        v.stage = .stopped why ∧ v.received = Intake.events (Intake.feedAll {} (chunks.take k)).1 := by
  refine ⟨fun k inside closed room => (underway_initial begins live held inside closed room).settles, ?_⟩
  intro before t after u uncancelled stays run reading further chunks k
  rw [List.mem_append, not_or] at stays
  have attended := (attended_initial begins live held).replay uncancelled stays.1 run
  obtain ⟨c, cancelling, later⟩ := replay?_cons.mp further
  cases cancelling
  have interrupted : Interrupted { t with cancelled := true } :=
    { attended.toSound.step (a := .cancel) rfl with cancelled := rfl, held := attended.held }
  obtain ⟨still, fate⟩ := interrupted.replay stays.2 later
  have read := chunks_initial begins run
  have all : chunks = t.taken ++ (t.ready ++ arrivals after) := by
    rw [← List.append_assoc, read, List.append_assoc, ← arrivals_append]
  have before_read : chunks.take k = t.taken := by rw [all, List.take_left]
  have length : chunks.length = k + (t.ready ++ arrivals after).length := by rw [all, List.length_append]
  obtain ⟨-, accounts⟩ := attended.accounts
  simp only [reading] at accounts
  obtain ⟨delivered, intake, goesOn⟩ := accounts
  have decoded : t.decoded = Intake.feedAll {} t.taken := by simp [State.decoded, goesOn]
  have got : u.delivered = Intake.events (Intake.feedAll {} (chunks.take k)).1 := by
    rw [before_read, ← decoded]
    exact (cancelled_replay rfl later).2.trans delivered
  refine ⟨by omega, got, fun why stopped => ?_, ?_⟩
  · rw [fate_stopped stopped] at fate
    subst fate
    rcases attended.toSound.fate_reading reading with
      ⟨something, eq⟩ | ⟨none, closing, eq⟩ | ⟨none, closing, eq⟩
    · have more : 0 < (t.ready ++ arrivals after).length :=
        List.length_pos_iff.mpr (List.append_ne_nil_of_left_ne_nil something _)
      exact .inl ⟨by omega, eq⟩
    · obtain ⟨closed, silent⟩ := closing_replay (s := { t with cancelled := true }) closing later
      rw [none, silent] at all length
      refine .inr (.inr ⟨length.symm, closed, eq.trans ?_⟩)
      rw [lastEnd, intake, decoded, all, List.append_nil, List.append_nil]
    · obtain ⟨closed, silent⟩ := closing_replay (s := { t with cancelled := true }) closing later
      rw [none, silent] at length
      exact .inr (.inl ⟨length.symm, closed, eq⟩)
  · obtain ⟨rest, v, why, only, onward, stopped, empty⟩ := still.settles
    have same : v.delivered = u.delivered := (cancelled_replay still.cancelled onward).2
    rw [State.delivered, empty, List.append_nil] at same
    exact ⟨rest, v, why, only, onward, stopped, same.trans got⟩

/-- Cancelled while the end of the stream is being read, behind a record that an unclosed bracket hides until
    then: the pump finds the record, and by it the cancellation. -/
theorem interrupted_read_leftover :
    ∃ t u, replay? step?
        { ready := [Bytes.ofString "[\x7b\"type\":\"oom\",\"id\":\"a\"\x7d"], closing := some .eof }
        (List.replicate 5 .pump) = some t ∧
      t.stage = .reading ∧ t.taken.length = 1 ∧
      replay? step? t (.cancel :: List.replicate 4 .pump) = some u ∧
      u.received ++ u.queue = [] ∧ u.stage = .stopped .cancelled ∧
      (Intake.events (Intake.feedAll {}
        [Bytes.ofString "[\x7b\"type\":\"oom\",\"id\":\"a\"\x7d"]).2.finish.drain.1).isEmpty = false := by
  have ends : ((replay? step?
        { ready := [Bytes.ofString "[\x7b\"type\":\"oom\",\"id\":\"a\"\x7d"], closing := some .eof }
        (List.replicate 5 .pump)).bind fun t =>
        (replay? step? t (.cancel :: List.replicate 4 .pump)).map fun u =>
          (t.stage, t.taken.length, u.stage, u.received ++ u.queue))
      = some (.reading, 1, .stopped .cancelled, []) := by
    decide +kernel
  obtain ⟨t, run, rest⟩ := Option.bind_eq_some_iff.mp ends
  obtain ⟨u, further, eq⟩ := Option.map_eq_some_iff.mp rest
  simp only [Prod.mk.injEq] at eq
  obtain ⟨reading, count, stopped, delivered⟩ := eq
  obtain ⟨-, -, reason, -⟩ :=
    (interrupted_read ⟨_, _, _, _, _, rfl⟩ rfl rfl).2 _ t _ u (by simp) (by simp) run reading further
  refine ⟨t, u, run, reading, count, further, delivered, stopped, ?_⟩
  rcases reason _ stopped with ⟨early, -⟩ | ⟨-, -, other⟩ | ⟨-, -, verdict⟩
  · rw [count] at early
    exact absurd early (by simp [arrivals])
  · cases other
  · apply Bool.eq_false_iff.mpr
    intro empty
    cases verdict.trans (if_pos empty)

end Overseer.Telemetry.Pump
