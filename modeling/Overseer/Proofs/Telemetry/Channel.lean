-- SUMMARY: What goes through the event channel is what an intake finds in the chunks read, nothing lost or doubled.
import Overseer.Proofs.Telemetry.Session
import Overseer.Proofs.Transition
import Overseer.Telemetry.Pump

/-!
# The event channel

Every event that an intake finds in the chunks read so far is in one place: with the consumer, in the
channel, in the hand of the pump, or still in the buffer. `Accounts` says so for each stage of the pump;
only a pump that gives up drops what it holds, and then what was delivered is a prefix.
-/

namespace Overseer.Telemetry

namespace Pump

open Transition (Reachable replay? replay?_cons replay?_preserves)

-- ---------------------------------------------------------------------------
-- Steps
-- ---------------------------------------------------------------------------

/-- All that a step can do. -/
inductive Move (s : State) : Action → State → Prop where
  | decoded {e : Event} {i : Intake} (stage : s.stage = .decoding)
      (next : s.intake.next = (.event e, i)) :
      Move s .pump { s with intake := i, stage := .sending e }
  | passed {why : Noise} {i : Intake} (stage : s.stage = .decoding)
      (next : s.intake.next = (.malformed why, i)) :
      Move s .pump { s with intake := i, skipped := s.skipped ++ [why] }
  | exhausted {i : Intake} (stage : s.stage = .decoding) (next : s.intake.next = (.needMore, i))
      (goesOn : s.intake.ended = false) : Move s .pump { s with intake := i, stage := .waiting }
  | completed {i : Intake} (stage : s.stage = .decoding) (next : s.intake.next = (.needMore, i))
      (ended : s.intake.ended) : Move s .pump { s with intake := i, stage := .stopped .eof }
  | sent {e : Event} (stage : s.stage = .sending e) (live : s.cancelled = false)
      (held : s.receiverDropped = false) (room : s.queue.length < s.capacity) :
      Move s .pump { s with queue := s.queue ++ [e], stage := .decoding }
  | called (stage : (∃ e, s.stage = .sending e) ∨ s.stage = .waiting) (cancelled : s.cancelled) :
      Move s .pump { s with stage := .stopped .cancelled }
  | hungUp {e : Event} (stage : s.stage = .sending e) (gone : s.receiverDropped) :
      Move s .pump { s with stage := .stopped .receiverDropped }
  | failed (stage : s.stage = .reading) (none : s.ready = []) (closing : s.closing = some .failed) :
      Move s .pump { s with stage := .stopped .readFailed }
  | woken (stage : s.stage = .waiting) (something : s.ready ≠ [] ∨ s.closing ≠ none)
      (live : s.cancelled = false) : Move s .pump { s with stage := .reading }
  | fed {chunk : Bytes} {rest : List Bytes} (stage : s.stage = .reading)
      (ready : s.ready = chunk :: rest) :
      Move s .pump { s with
        intake := s.intake.feed chunk, stage := .decoding, ready := rest,
        taken := s.taken ++ [chunk] }
  | ended (stage : s.stage = .reading) (none : s.ready = []) (closing : s.closing = some .eof) :
      Move s .pump { s with intake := s.intake.finish, stage := .decoding, sawEnd := true }
  | arrived {chunk : Bytes} (opened : s.closing = none) :
      Move s (.arrive chunk) { s with ready := s.ready ++ [chunk] }
  | closed {how : Closing} (opened : s.closing = none) :
      Move s (.close how) { s with closing := some how }
  | cancelled : Move s .cancel { s with cancelled := true }
  | received {e : Event} {rest : List Event} (queue : s.queue = e :: rest) :
      Move s .receive { s with queue := rest, received := s.received ++ [e] }
  | dropped : Move s .dropReceiver { s with receiverDropped := true }

variable {s t : State} {a : Action}

theorem advance?_move (h : advance? s = some t) : Move s .pump t := by
  unfold advance? at h
  split at h
  · rename_i stage
    split at h
    · rename_i next
      cases h
      exact .decoded stage next
    · rename_i next
      cases h
      exact .passed stage next
    · rename_i next
      cases ended : s.intake.ended with
      | true =>
        simp only [ended, if_true] at h
        cases h
        exact .completed stage next ended
      | false =>
        simp only [ended, Bool.false_eq_true, if_false] at h
        cases h
        exact .exhausted stage next ended
  · rename_i stage
    split_ifs at h with stop gone room
    · cases h
      exact .called (.inl ⟨_, stage⟩) stop
    · cases h
      exact .hungUp stage gone
    · cases h
      exact .sent stage (Bool.eq_false_iff.mpr stop) (Bool.eq_false_iff.mpr gone) room
  · rename_i stage
    split_ifs at h with stop nothing
    · cases h
      exact .called (.inr stage) stop
    · cases h
      refine .woken stage ?_ (Bool.eq_false_iff.mpr stop)
      simpa [Bool.and_eq_true, ← not_and_or] using nothing
  · rename_i stage
    split at h
    · rename_i ready
      cases h
      exact .fed stage ready
    · rename_i none closing
      cases h
      exact .ended stage none closing
    · rename_i none closing
      cases h
      exact .failed stage none closing
    · cases h
  · cases h

theorem step?_move (h : step? s a = some t) : Move s a t := by
  cases a with
  | pump => exact advance?_move h
  | arrive chunk =>
    simp only [step?] at h
    split_ifs at h with possible
    cases h
    simp only [Bool.and_eq_true, Option.isNone_iff_eq_none] at possible
    exact .arrived possible.1.1
  | close how =>
    simp only [step?] at h
    split_ifs at h with opened
    cases h
    exact .closed (Option.isNone_iff_eq_none.mp opened)
  | cancel =>
    cases h
    exact .cancelled
  | receive =>
    simp only [step?] at h
    split at h
    · rename_i queue
      split_ifs at h
      cases h
      exact .received queue
    · cases h
  | dropReceiver =>
    cases h
    exact .dropped

-- ---------------------------------------------------------------------------
-- Where the events are
-- ---------------------------------------------------------------------------

/-- The states in which a pump begins: any capacity, any chunks at hand, and nothing decoded yet. -/
def Initial (s : State) : Prop :=
  ∃ ready closing capacity cancelled receiverDropped,
    s = { ready, closing, capacity, cancelled, receiverDropped }

/-- All outcomes of an intake that is given what was read so far, and the intake behind them. -/
def State.decoded (s : State) : List Outcome × Intake :=
  if s.sawEnd then Intake.session s.taken else Intake.feedAll {} s.taken

/-- The events that an intake finds in what was read so far. -/
def State.found (s : State) : List Event := Intake.events s.decoded.1

/-- The events that were sent into the channel. -/
def State.delivered (s : State) : List Event := s.received ++ s.queue

/-- What was delivered, what is in the hand of the pump and what is still in the buffer make up what there
    is to be found. -/
def Accounts (s : State) : Prop :=
  s.intake.ended = s.sawEnd ∧
  match s.stage with
  | .decoding => s.delivered ++ Intake.events s.intake.drain.1 = s.found ∧ s.intake.drain.2 = s.decoded.2
  | .sending e =>
    s.delivered ++ e :: Intake.events s.intake.drain.1 = s.found ∧ s.intake.drain.2 = s.decoded.2
  | .waiting | .reading => s.delivered = s.found ∧ s.intake = s.decoded.2 ∧ s.sawEnd = false
  | .stopped .eof => s.delivered = s.found ∧ s.sawEnd = true
  | .stopped _ => s.delivered <+: s.found

theorem accounts_initial (h : Initial s) : Accounts s := by
  obtain ⟨ready, closing, capacity, cancelled, receiverDropped, rfl⟩ := h
  have blank : Intake.next {} = (.needMore, {}) := rfl
  have drained : Intake.drain {} = ([], {}) := Intake.drain_needMore blank
  refine ⟨rfl, ?_, ?_⟩
  · simp only [State.delivered, drained]
    rfl
  · simp only [drained]
    rfl

theorem Accounts.delivered_prefix (inv : Accounts s) : s.delivered <+: s.found := by
  obtain ⟨-, inv⟩ := inv
  cases stage : s.stage with
  | decoding =>
    simp only [stage] at inv
    exact inv.1 ▸ List.prefix_append _ _
  | sending e =>
    simp only [stage] at inv
    exact inv.1 ▸ List.prefix_append _ _
  | waiting | reading =>
    simp only [stage] at inv
    exact inv.1 ▸ List.prefix_rfl
  | stopped why =>
    cases why with
    | eof =>
      simp only [stage] at inv
      exact inv.1 ▸ List.prefix_rfl
    | readFailed | cancelled | receiverDropped =>
      simp only [stage] at inv
      exact inv

/-- While the stream goes on, what is found in a further chunk comes behind what was found before. -/
theorem feedAll_taken {chunk : Bytes} (goesOn : s.sawEnd = false) :
    Intake.feedAll {} (s.taken ++ [chunk])
      = (s.decoded.1 ++ (s.decoded.2.feed chunk).drain.1, (s.decoded.2.feed chunk).drain.2) := by
  simp [State.decoded, goesOn, Intake.feedAll_concat]

theorem session_taken (goesOn : s.sawEnd = false) :
    Intake.session s.taken
      = (s.decoded.1 ++ s.decoded.2.finish.drain.1, s.decoded.2.finish.drain.2) := by
  simp [State.decoded, goesOn, Intake.session]

theorem Accounts.step (inv : Accounts s) (h : step? s a = some t) : Accounts t := by
  have delivered_prefix := inv.delivered_prefix
  obtain ⟨ended, inv⟩ := inv
  cases step?_move h with
  | decoded stage next =>
    simp only [stage, Intake.drain_more next nofun] at inv
    exact ⟨(Intake.next_ended next).trans ended, inv⟩
  | passed stage next =>
    simp only [stage, Intake.drain_more next nofun] at inv
    refine ⟨(Intake.next_ended next).trans ended, ?_⟩
    simp only [stage]
    exact inv
  | exhausted stage next goesOn =>
    simp only [stage, Intake.drain_needMore next] at inv
    obtain ⟨sum, same⟩ := inv
    have all : s.delivered = s.found := by simpa [Intake.events] using sum
    exact ⟨(Intake.next_ended next).trans ended, all, same, ended.symm.trans goesOn⟩
  | completed stage next atEnd =>
    simp only [stage, Intake.drain_needMore next] at inv
    have all : s.delivered = s.found := by simpa [Intake.events] using inv.1
    exact ⟨(Intake.next_ended next).trans ended, all, ended.symm.trans atEnd⟩
  | @sent e stage live held room =>
    simp only [stage] at inv
    obtain ⟨sum, same⟩ := inv
    refine ⟨ended, ?_, same⟩
    change s.received ++ (s.queue ++ [e]) ++ _ = s.found
    rw [← sum]
    simp [State.delivered]
  | called | hungUp | failed => exact ⟨ended, delivered_prefix⟩
  | woken stage something =>
    simp only [stage] at inv
    exact ⟨ended, inv⟩
  | @fed chunk rest stage ready =>
    simp only [stage] at inv
    obtain ⟨sum, intake, goesOn⟩ := inv
    have grown : Intake.feedAll {} (s.taken ++ [chunk])
        = (s.decoded.1 ++ (s.intake.feed chunk).drain.1, (s.intake.feed chunk).drain.2) :=
      intake ▸ feedAll_taken goesOn
    have decoded : State.decoded
        { s with
          intake := s.intake.feed chunk, stage := .decoding, ready := rest,
          taken := s.taken ++ [chunk] }
        = Intake.feedAll {} (s.taken ++ [chunk]) := by
      simp [State.decoded, goesOn]
    refine ⟨ended, ?_, ?_⟩
    · simp only [State.found, decoded, grown, Intake.events_append]
      exact congrArg (· ++ _) sum
    · simp only [decoded, grown]
  | ended stage none closing =>
    simp only [stage] at inv
    obtain ⟨sum, intake, goesOn⟩ := inv
    have grown : Intake.session s.taken
        = (s.decoded.1 ++ s.intake.finish.drain.1, s.intake.finish.drain.2) :=
      intake ▸ session_taken goesOn
    refine ⟨rfl, ?_, ?_⟩
    · change s.delivered ++ _ = Intake.events (Intake.session s.taken).1
      rw [grown, Intake.events_append, sum]
      rfl
    · change _ = (Intake.session s.taken).2
      rw [grown]
  | @received e rest queue =>
    have same : s.received ++ [e] ++ rest = s.delivered := by simp [State.delivered, queue]
    refine ⟨ended, ?_⟩
    simp only [State.delivered, same]
    exact inv
  | arrived | closed | cancelled | dropped => exact ⟨ended, inv⟩

-- ---------------------------------------------------------------------------
-- What is read
-- ---------------------------------------------------------------------------

/-- The chunks that the reader gets in a run. -/
def arrivals (actions : List Action) : List Bytes :=
  actions.filterMap fun a => match a with
    | .arrive chunk => some chunk
    | _ => none

/-- Once the pump has seen the end, nothing is left to be read and nothing follows. -/
def EndsRead (s : State) : Prop := s.sawEnd → s.ready = [] ∧ s.closing = some .eof

theorem endsRead_initial (h : Initial s) : EndsRead s := by
  obtain ⟨ready, closing, capacity, cancelled, receiverDropped, rfl⟩ := h
  intro impossible
  cases impossible

theorem EndsRead.step (inv : EndsRead s) (h : step? s a = some t) : EndsRead t := by
  cases step?_move h with
  | fed stage ready =>
    intro atEnd
    have none := (inv atEnd).1
    rw [ready] at none
    cases none
  | ended stage none closing => exact fun _ => ⟨none, closing⟩
  | arrived opened =>
    intro atEnd
    have closing := (inv atEnd).2
    rw [opened] at closing
    cases closing
  | closed opened =>
    intro atEnd
    have closing := (inv atEnd).2
    rw [opened] at closing
    cases closing
  | decoded | passed | exhausted | completed | sent | called | hungUp | failed | woken | cancelled
  | received | dropped => exact inv

/-- No step loses a chunk or moves one before another. -/
theorem chunks_step (h : step? s a = some t) :
    t.taken ++ t.ready = s.taken ++ s.ready ++ arrivals [a] := by
  cases step?_move h with
  | fed stage ready => simp [arrivals, ready]
  | arrived opened => simp [arrivals]
  | decoded | passed | exhausted | completed | sent | called | hungUp | failed | woken | ended | closed
  | cancelled | received | dropped => simp [arrivals]

theorem chunks_replay {actions : List Action} (run : replay? step? s actions = some t) :
    t.taken ++ t.ready = s.taken ++ s.ready ++ arrivals actions := by
  induction actions generalizing s with
  | nil =>
    cases run
    simp [arrivals]
  | cons a actions ih =>
    obtain ⟨m, first, later⟩ := replay?_cons.mp run
    have split : arrivals (a :: actions) = arrivals [a] ++ arrivals actions := by
      simp only [arrivals, ← List.filterMap_append, List.singleton_append]
    rw [ih later, chunks_step first, split, List.append_assoc]

-- ---------------------------------------------------------------------------
-- The queue
-- ---------------------------------------------------------------------------

/-- The channel holds no more than it has room for. -/
def Fits (s : State) : Prop := s.queue.length ≤ s.capacity

theorem fits_initial (h : Initial s) : Fits s := by
  obtain ⟨ready, closing, capacity, cancelled, receiverDropped, rfl⟩ := h
  exact Nat.zero_le capacity

theorem Fits.step (inv : Fits s) (h : step? s a = some t) : Fits t := by
  cases step?_move h with
  | sent stage live held room =>
    simp only [Fits, List.length_append, List.length_singleton]
    exact room
  | received queue =>
    simp only [Fits, queue, List.length_cons] at inv ⊢
    exact Nat.le_of_succ_le inv
  | decoded | passed | exhausted | completed | called | hungUp | failed | woken | fed | ended | arrived
  | closed | cancelled | dropped => exact inv

theorem capacity_step (h : step? s a = some t) : t.capacity = s.capacity := by
  cases step?_move h <;> rfl

/-- A cancelled pump sends nothing more, and it stays cancelled. -/
theorem cancelled_step (cancelled : s.cancelled) (h : step? s a = some t) :
    t.cancelled ∧ t.delivered = s.delivered := by
  cases step?_move h with
  | sent stage live held room =>
    rw [live] at cancelled
    cases cancelled
  | received queue => exact ⟨cancelled, by simp [State.delivered, queue]⟩
  | cancelled => exact ⟨rfl, rfl⟩
  | decoded | passed | exhausted | completed | called | hungUp | failed | woken | fed | ended | arrived
  | closed | dropped => exact ⟨cancelled, rfl⟩

theorem cancelled_replay {actions : List Action} (cancelled : s.cancelled)
    (run : replay? step? s actions = some t) : t.cancelled ∧ t.delivered = s.delivered :=
  replay?_preserves (P := fun u => u.cancelled ∧ u.delivered = s.delivered) run ⟨cancelled, rfl⟩
    fun _ holds taken =>
      have step := cancelled_step holds.1 taken
      ⟨step.1, step.2.trans holds.2⟩

-- ---------------------------------------------------------------------------
-- Runs
-- ---------------------------------------------------------------------------

/-- A run of the pump, its reader, its consumer and the caller who may cancel: what the consumer got and
    what the channel holds are the first of the events found in the chunks read, which are the first of
    the stream's. A pump that reached the end has delivered every event of the stream. -/
theorem channel_faithful {actions : List Action} (begins : Initial s)
    (run : replay? step? s actions = some t) :
    t.received ++ t.queue <+: t.found ∧
    t.taken <+: s.ready ++ arrivals actions ∧
    t.queue.length ≤ s.capacity ∧
    (t.cancelled → ∀ later u, replay? step? t later = some u →
      u.received ++ u.queue = t.received ++ t.queue) ∧
    (t.stage = .stopped .eof →
      t.received ++ t.queue = Intake.events (Intake.session (s.ready ++ arrivals actions)).1) := by
  have accounts : Accounts t :=
    replay?_preserves run (accounts_initial begins) fun _ inv taken => inv.step taken
  have endsRead : EndsRead t :=
    replay?_preserves run (endsRead_initial begins) fun _ inv taken => inv.step taken
  have fits : Fits t := replay?_preserves run (fits_initial begins) fun _ inv taken => inv.step taken
  have capacity : t.capacity = s.capacity :=
    replay?_preserves (P := fun u => u.capacity = s.capacity) run rfl
      fun _ same taken => (capacity_step taken).trans same
  have fresh : s.taken = [] := by
    obtain ⟨ready, closing, capacity, cancelled, receiverDropped, rfl⟩ := begins
    rfl
  have chunks := chunks_replay run
  rw [fresh, List.nil_append] at chunks
  refine ⟨accounts.delivered_prefix, chunks ▸ List.prefix_append _ _, capacity ▸ fits, ?_, ?_⟩
  · intro cancelled later u further
    exact (cancelled_replay cancelled further).2
  · intro stopped
    obtain ⟨-, whole⟩ := accounts
    simp only [stopped] at whole
    obtain ⟨all, sawEnd⟩ := whole
    have everything : t.taken = s.ready ++ arrivals actions := by
      rw [← chunks, (endsRead sawEnd).1, List.append_nil]
    rw [← everything]
    simpa [State.found, State.decoded, sawEnd, State.delivered] using all

/-- Room for one event: the second one waits until the consumer has taken the first. -/
theorem channel_faithful_full_queue :
    ∃ t, replay? step?
        { ready := [Bytes.ofString "\x7b\"type\":\"oom\",\"id\":\"a\"\x7d"], capacity := 1 }
        [.pump, .pump, .pump, .pump, .pump, .pump,
          .arrive (Bytes.ofString "\x7b\"type\":\"oom\",\"id\":\"b\"\x7d"), .close .eof,
          .pump, .pump, .pump, .receive, .pump, .pump, .pump, .pump, .pump] = some t ∧
      t.received = [⟨.oom, "a", none⟩] ∧ t.queue = [⟨.oom, "b", none⟩] ∧
      t.received ++ t.queue = Intake.events (Intake.session
        [Bytes.ofString "\x7b\"type\":\"oom\",\"id\":\"a\"\x7d",
          Bytes.ofString "\x7b\"type\":\"oom\",\"id\":\"b\"\x7d"]).1 := by
  have ends : (replay? step?
        { ready := [Bytes.ofString "\x7b\"type\":\"oom\",\"id\":\"a\"\x7d"], capacity := 1 }
        [.pump, .pump, .pump, .pump, .pump, .pump,
          .arrive (Bytes.ofString "\x7b\"type\":\"oom\",\"id\":\"b\"\x7d"), .close .eof,
          .pump, .pump, .pump, .receive, .pump, .pump, .pump, .pump, .pump]).map
        (fun t => (t.received, t.queue, t.stage))
      = some ([⟨.oom, "a", none⟩], [⟨.oom, "b", none⟩], .stopped .eof) := by
    decide +kernel
  obtain ⟨t, run, eq⟩ := Option.map_eq_some_iff.mp ends
  simp only [Prod.mk.injEq] at eq
  obtain ⟨received, queue, stopped⟩ := eq
  exact ⟨t, run, received, queue,
    (channel_faithful ⟨_, _, _, _, _, rfl⟩ run).2.2.2.2 stopped⟩

end Pump

end Overseer.Telemetry
