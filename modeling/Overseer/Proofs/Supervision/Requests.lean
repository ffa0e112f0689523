-- SUMMARY: Which signals a supervision asks for, when, and what becomes of them.
import Overseer.Proofs.Supervision.Report

/-!
# Requests

Cancellation leads to at most two requests: the graceful signal, and the kill when the time limit has
passed. The canceller's stage determines how many of them were made (`Course`), and until the process
is reaped each request is either delivered or queued (`Queued`).
-/

namespace Overseer.Supervision

variable {s t : State} {a : Action} {e : Escalation}

/-! ## The course of an escalation -/

/-- Requests, with their times, that an escalation may consist of. -/
inductive Allowed (e : Escalation) : List (Signal × Nat) → Prop where
  | nothing : Allowed e []
  | first (time : Nat) : Allowed e [(e.graceful.getD .kill, time)]
  | both {g : Signal} {time later : Nat} (graceful : e.graceful = some g)
      (limited : 0 < e.killTimeout) (passed : time + e.killTimeout ≤ later) :
      Allowed e [(g, time), (.kill, later)]

/-- The graceful signal was asked for, and a kill is to follow. -/
def Warned (s : State) (time : Nat) : Prop :=
  0 < s.escalation.killTimeout ∧
    ∃ g, s.escalation.graceful = some g ∧ s.asked = [(g, time)]

/-- What has been asked for agrees with the canceller's stage. -/
def Course (s : State) : Prop :=
  match s.canceller with
  | .watching | .attending => s.asked = []
  | .asking signal =>
    s.asked = [] ∧ signal = s.escalation.graceful.getD .kill ∨
      signal = .kill ∧ ∃ time, Warned s time ∧ time + s.escalation.killTimeout ≤ s.clock
  | .arming => ∃ time, Warned s time ∧ time ≤ s.clock
  | .timing deadline | .expecting deadline =>
    ∃ time, Warned s time ∧ time + s.escalation.killTimeout ≤ deadline
  | .stopped => Allowed s.escalation s.asked

variable {requests : List (Signal × Nat)}

theorem Allowed.graceful {g : Signal} (h : Allowed e requests) (graceful : e.graceful = some g) :
    requests.map Prod.fst <+: [g, .kill] := by
  cases h with
  | nothing => exact List.nil_prefix
  | first time =>
    rw [graceful]
    exact List.prefix_append [g] [.kill]
  | both found =>
    obtain rfl := Option.some.inj (graceful.symm.trans found)
    exact List.prefix_refl _

theorem Allowed.immediate (h : Allowed e requests) (none : e.graceful = none) :
    requests.map Prod.fst <+: [.kill] := by
  cases h with
  | nothing => exact List.nil_prefix
  | first time =>
    rw [none]
    exact List.prefix_refl _
  | both found =>
    rw [none] at found
    cases found

/-- A second request takes a time limit, and that time. -/
theorem Allowed.delayed {first second : Signal × Nat} (h : Allowed e [first, second]) :
    0 < e.killTimeout ∧ first.2 + e.killTimeout ≤ second.2 := by
  cases h with
  | both _ limited passed => exact ⟨limited, passed⟩

theorem Allowed.length_le (h : Allowed e requests) : requests.length ≤ 2 := by
  cases h with
  | nothing => exact Nat.zero_le _
  | first => exact Nat.le_succ 1
  | both => exact Nat.le_refl 2

theorem Warned.length_eq {time : Nat} (h : Warned s time) : s.asked.length = 1 := by
  obtain ⟨-, _, -, asked⟩ := h
  rw [asked]
  rfl

theorem Warned.allowed {time : Nat} (h : Warned s time) : Allowed s.escalation s.asked := by
  obtain ⟨-, g, graceful, asked⟩ := h
  have first := Allowed.first (e := s.escalation) time
  rw [graceful, Option.getD_some] at first
  rw [asked]
  exact first

theorem Course.allowed (inv : Course s) : Allowed s.escalation s.asked := by
  cases stage : s.canceller <;> simp only [Course, stage] at inv
  case watching | attending =>
    rw [inv]
    exact .nothing
  case asking =>
    rcases inv with ⟨none, -⟩ | ⟨-, _, warned, -⟩
    · rw [none]
      exact .nothing
    · exact warned.allowed
  case arming | timing | expecting =>
    obtain ⟨_, warned, -⟩ := inv
    exact warned.allowed
  case stopped => exact inv

theorem Course.asked_of_watching (inv : Course s) (stage : s.canceller = .watching) :
    s.asked = [] := by
  simp only [Course, stage] at inv
  exact inv

/-- At most one request was made before a look for the announcement. -/
theorem Course.length_of_looks (inv : Course s) (looks : s.canceller.looks) :
    s.asked.length ≤ 1 := by
  cases stage : s.canceller with
  | watching =>
    rw [inv.asked_of_watching stage]
    exact Nat.zero_le 1
  | timing =>
    simp only [Course, stage] at inv
    obtain ⟨_, warned, -⟩ := inv
    exact Nat.le_of_eq warned.length_eq
  | attending | asking | arming | expecting | stopped =>
    rw [stage] at looks
    cases looks

/-- At most one request was made before another one. -/
theorem Course.length_of_asking {signal : Signal} (inv : Course s)
    (stage : s.canceller = .asking signal) : s.asked.length ≤ 1 := by
  simp only [Course, stage] at inv
  rcases inv with ⟨none, -⟩ | ⟨-, _, warned, -⟩
  · rw [none]
    exact Nat.zero_le 1
  · exact Nat.le_of_eq warned.length_eq

/-- A request takes the escalation to its next stage, whether or not it is queued. -/
theorem Course.ask {signal : Signal} (inv : Course s) (stage : s.canceller = .asking signal)
    (queue : List Signal) :
    Course { s with
      asked := s.asked ++ [(signal, s.clock)], queue, canceller := s.afterAsking } := by
  simp only [Course, stage] at inv
  unfold State.afterAsking
  rcases inv with ⟨none, rfl⟩ | ⟨rfl, time, ⟨limited, g, graceful, asked⟩, passed⟩
  · split
    next continues =>
      obtain ⟨g, graceful⟩ := Option.isSome_iff_exists.mp continues.2.1
      exact ⟨s.clock, ⟨continues.2.2, g, graceful, by rw [none, graceful]; rfl⟩, Nat.le_refl _⟩
    next =>
      change Allowed s.escalation _
      rw [none]
      exact .first s.clock
  · have last : ¬ s.continues := fun continues => by
      rw [State.continues, asked] at continues
      exact absurd continues.1 nofun
    rw [if_neg last]
    change Allowed s.escalation _
    rw [asked]
    exact .both graceful limited passed

theorem Course.step (inv : Course s) (h : step? s a = some t) : Course t := by
  cases step?_move h with
  | sawDone stage done => exact inv.allowed
  | attended stage quiet | rewatched stage =>
    simp only [Course, stage] at inv
    exact inv
  | obeyed stage cancelled =>
    simp only [Course, stage] at inv
    exact .inl ⟨inv, rfl⟩
  | asked stage gone => exact inv.ask stage s.queue
  | queued stage room => exact inv.ask stage _
  | armed stage =>
    simp only [Course, stage] at inv
    obtain ⟨time, warned, past⟩ := inv
    exact ⟨time, warned, Nat.add_le_add_right past _⟩
  | expected stage _ | retimed stage =>
    simp only [Course, stage] at inv
    exact inv
  | expired stage passed =>
    simp only [Course, stage] at inv
    obtain ⟨time, warned, inTime⟩ := inv
    exact .inr ⟨rfl, time, warned, Nat.le_trans inTime passed⟩
  | ticked =>
    cases stage : s.canceller <;> simp only [Course, stage] at inv ⊢
    case asking =>
      rcases inv with none | ⟨kill, time, warned, passed⟩
      · exact .inl none
      · exact .inr ⟨kill, time, warned, Nat.le_trans passed (Nat.le_add_right _ _)⟩
    case arming =>
      obtain ⟨time, warned, past⟩ := inv
      exact ⟨time, warned, Nat.le_trans past (Nat.le_add_right _ _)⟩
    all_goals exact inv
  | waited | listened | delivered | relooked | woken | reported | announced | closed
  | cancelled | dropped | ended => exact inv

theorem Course.of_reachable (h : Transition.Reachable step? Initial s) : Course s := by
  refine h.invariant (fun s init => ?_) fun inv taken => inv.step taken
  obtain ⟨_, _, rfl⟩ := init
  rfl

/-! ## Why something is asked for -/

/-- Only cancellation makes the canceller ask. -/
structure Caused (s : State) : Prop where
  asked : s.asked ≠ [] → s.cancelled
  asking : ∀ signal, s.canceller = .asking signal → s.cancelled

theorem Caused.step (course : Course s) (inv : Caused s) (h : step? s a = some t) : Caused t := by
  cases step?_move h with
  | obeyed stage cancelled => exact ⟨inv.asked, fun _ _ => cancelled⟩
  | asked stage _ | queued stage _ =>
    have cancelled := inv.asking _ stage
    exact ⟨fun _ => cancelled, fun _ _ => cancelled⟩
  | expired stage passed =>
    -- A kill falls due only after a first request.
    simp only [Course, stage] at course
    obtain ⟨_, ⟨_, _, _, asked⟩, _⟩ := course
    have cancelled := inv.asked (by rw [asked]; nofun)
    exact ⟨fun _ => cancelled, fun _ _ => cancelled⟩
  | sawDone | attended | armed | expected | rewatched | retimed => exact ⟨inv.asked, nofun⟩
  | cancelled => exact ⟨fun _ => rfl, fun _ _ => rfl⟩
  | waited | listened | delivered | relooked | woken | reported | announced | closed
  | dropped | ended | ticked => exact ⟨inv.asked, inv.asking⟩

theorem Caused.of_reachable (h : Transition.Reachable step? Initial s) : Caused s := by
  have both : Course s ∧ Caused s := by
    refine h.invariant (P := fun s => Course s ∧ Caused s) (fun s init => ?_) ?_
    · obtain ⟨_, _, rfl⟩ := init
      exact ⟨rfl, fun some => absurd rfl some, nofun⟩
    · rintro s t a ⟨course, inv⟩ taken
      exact ⟨course.step taken, inv.step course taken⟩
  exact both.2

theorem cancelled_step (other : a ≠ .cancel) (h : step? s a = some t) :
    t.cancelled = s.cancelled := by
  cases step?_move h with
  | cancelled => exact absurd rfl other
  | _ => rfl

/-- Nothing is asked for in a run without cancellation. -/
theorem asked_nil_of_uncancelled {pid : UInt32} {actions : List Action}
    (h : Transition.replay? step? (start pid e) actions = some s) (never : .cancel ∉ actions) :
    s.asked = [] := by
  have quiet : s.cancelled = false := by
    refine Transition.replay?_preserves (P := fun s => s.cancelled = false) h rfl ?_
    intro s t a mem quiet taken
    rw [cancelled_step (fun eq => never (eq ▸ mem)) taken]
    exact quiet
  have begun : Transition.Reachable step? Initial (start pid e) := .start ⟨pid, e, rfl⟩
  by_cases none : s.asked = []
  · exact none
  · have cancelled := (Caused.of_reachable (begun.replay h)).asked none
    rw [quiet] at cancelled
    cases cancelled

/-! ## What becomes of the requests -/

/-- Until the process is reaped, every request is delivered or queued, in order. -/
structure Queued (s : State) : Prop where
  order : s.child.isReaped = false →
    s.delivered.map Prod.fst ++ s.queue = s.asked.map Prod.fst
  bound : s.queue.length ≤ s.asked.length

theorem Reported.reaped (inv : Reported s) (stage : s.reaper = .closing ∨ s.reaper = .finished) :
    s.child.isReaped := by
  rcases stage with stage | stage <;> simp only [Reported, stage] at inv <;>
    obtain ⟨_, reaped, _⟩ := inv <;> rw [reaped] <;> rfl

theorem Queued.step (reported : Reported s) (inv : Queued s) (h : step? s a = some t) :
    Queued t := by
  cases step?_move h with
  | waited => exact ⟨nofun, inv.bound⟩
  | delivered stage queued =>
    refine ⟨fun unreaped => ?_, ?_⟩
    · have order := inv.order unreaped
      rw [queued] at order
      rw [List.map_append, List.append_assoc]
      exact order
    · have bound := inv.bound
      rw [queued] at bound
      exact Nat.le_of_succ_le bound
  | closed stage =>
    have reaped := reported.reaped (.inl stage)
    exact ⟨fun unreaped => absurd reaped (Bool.eq_false_iff.mp unreaped), Nat.zero_le _⟩
  | asked stage gone =>
    have reaped := reported.reaped (.inr gone)
    refine ⟨fun unreaped => absurd reaped (Bool.eq_false_iff.mp unreaped), ?_⟩
    rw [List.length_append]
    exact Nat.le_trans inv.bound (Nat.le_add_right _ _)
  | queued stage room =>
    refine ⟨fun unreaped => ?_, ?_⟩
    · rw [List.map_append, ← inv.order unreaped, List.append_assoc]
      rfl
    · rw [List.length_append, List.length_append]
      exact Nat.add_le_add_right inv.bound 1
  | ended running => exact ⟨fun _ => inv.order (by rw [running]; rfl), inv.bound⟩
  | listened | relooked | woken | reported | announced | sawDone | attended | obeyed | armed
  | expected | expired | rewatched | retimed | cancelled | dropped | ticked =>
    exact ⟨inv.order, inv.bound⟩

theorem Queued.of_reachable (h : Transition.Reachable step? Initial s) : Queued s := by
  have both : Reported s ∧ Queued s := by
    refine h.invariant (P := fun s => Reported s ∧ Queued s) (fun s init => ?_) ?_
    · refine ⟨reported_initial init, ?_⟩
      obtain ⟨_, _, rfl⟩ := init
      exact ⟨fun _ => rfl, Nat.le_refl _⟩
    · rintro s t a ⟨reported, inv⟩ taken
      exact ⟨reported.step taken, inv.step reported taken⟩
  exact both.2

/-! ## The end of an escalation -/

/-- A look that finds the announcement is the canceller's last step. -/
theorem stopped_of_look (looks : s.canceller.looks) (done : s.done)
    (h : step? s .escalate = some t) : t = { s with canceller := .stopped } := by
  cases step?_move h with
  | sawDone => rfl
  | attended _ quiet | expected _ quiet =>
    rw [done] at quiet
    cases quiet
  | obeyed stage | asked stage | queued stage | armed stage | expired stage =>
    rw [stage] at looks
    cases looks

theorem stopped_step (stopped : s.canceller = .stopped) (h : step? s a = some t) :
    t.canceller = .stopped ∧ t.asked = s.asked := by
  cases step?_move h with
  | sawDone => exact ⟨rfl, rfl⟩
  | attended stage | obeyed stage | asked stage | queued stage | armed stage | expected stage
  | expired stage | rewatched stage | retimed stage =>
    rw [stopped] at stage
    cases stage
  | waited | listened | delivered | relooked | woken | reported | announced | closed
  | cancelled | dropped | ended | ticked => exact ⟨stopped, rfl⟩

/-- Nothing is asked for after such a look. -/
theorem asked_of_look {m : State} {before after : List Action} (looks : m.canceller.looks)
    (done : m.done) (front : Transition.replay? step? t before = some m)
    (h : Transition.replay? step? t (before ++ .escalate :: after) = some s) :
    s.asked = m.asked := by
  obtain ⟨n, again, later⟩ := Transition.replay?_append.mp h
  obtain rfl := Option.some.inj (front.symm.trans again)
  obtain ⟨k, look, rest⟩ := Transition.replay?_cons.mp later
  obtain rfl := stopped_of_look looks done look
  have kept : s.canceller = .stopped ∧ s.asked = m.asked := by
    refine Transition.replay?_preserves
      (P := fun s => s.canceller = .stopped ∧ s.asked = m.asked) rest ⟨rfl, rfl⟩ ?_
    rintro k l a - ⟨stopped, same⟩ taken
    obtain ⟨still, unchanged⟩ := stopped_step stopped taken
    exact ⟨still, unchanged.trans same⟩
  exact kept.2

/-! ## Whole runs -/

theorem escalation_step (h : step? s a = some t) : t.escalation = s.escalation := by
  cases step?_move h <;> rfl

/-- A request is never held up. -/
theorem escalate?_isSome {signal : Signal} (course : Course s) (queued : Queued s)
    (stage : s.canceller = .asking signal) : (escalate? s).isSome := by
  have room : s.queue.length < queueDepth :=
    Nat.lt_succ_of_le (Nat.le_trans queued.bound (course.length_of_asking stage))
  rw [escalate?_asking stage, if_pos room]
  split <;> rfl

/-- The requests of a run are those of its escalation, in order and in time. Nothing is asked for
    without cancellation, or once a look has found the process to be done. Until the process is reaped
    no request is lost or doubled, and none is ever held up. -/
theorem escalation_protocol {pid : UInt32} {actions : List Action}
    (h : Transition.replay? step? (start pid e) actions = some s) :
    (∀ g, e.graceful = some g → s.asked.map Prod.fst <+: [g, .kill]) ∧
      (e.graceful = none → s.asked.map Prod.fst <+: [.kill]) ∧
      (.cancel ∉ actions → s.asked = []) ∧
      (∀ before after m, actions = before ++ .escalate :: after →
        Transition.replay? step? (start pid e) before = some m → m.canceller.looks → m.done →
          s.asked = m.asked ∧ s.asked.length ≤ 1 ∧ (m.canceller = .watching → s.asked = [])) ∧
      (∀ first second, s.asked = [first, second] →
        0 < e.killTimeout ∧ first.2 + e.killTimeout ≤ second.2) ∧
      (s.child.isReaped = false →
        s.delivered.map Prod.fst ++ s.queue = s.asked.map Prod.fst) ∧
      s.queue.length ≤ queueDepth ∧
      ∀ signal, s.canceller = .asking signal → (escalate? s).isSome := by
  have begun : Transition.Reachable step? Initial (start pid e) := .start ⟨pid, e, rfl⟩
  have reached := begun.replay h
  have course := Course.of_reachable reached
  have queued := Queued.of_reachable reached
  have same : s.escalation = e := by
    refine Transition.replay?_preserves (P := fun s => s.escalation = e) h rfl ?_
    intro s t a _ same taken
    exact (escalation_step taken).trans same
  have allowed := course.allowed
  rw [same] at allowed
  refine ⟨fun g => allowed.graceful, allowed.immediate, asked_nil_of_uncancelled h, ?_, ?_,
    queued.order, Nat.le_trans queued.bound allowed.length_le, fun _ => escalate?_isSome course queued⟩
  · rintro before after m rfl front looks done
    have unchanged := asked_of_look looks done front h
    have earlier := Course.of_reachable (begun.replay front)
    rw [unchanged]
    exact ⟨rfl, earlier.length_of_looks looks, earlier.asked_of_watching⟩
  · intro first second both
    rw [both] at allowed
    exact allowed.delayed

/-- A process that ignores the graceful signal for a second. -/
theorem escalation_protocol_killed :
    ∃ s : State, Transition.replay? step? (start 7 { killTimeout := 1000 })
        [.reap, .cancel, .escalate, .escalate, .escalate, .reap, .escalate, .escalate, .tick 1000,
          .escalate, .escalate] = some s ∧
      s.asked = [(.term, 0), (.kill, 1000)] ∧ s.asked.map Prod.fst <+: [.term, .kill] ∧
      0 + 1000 ≤ 1000 ∧ s.delivered.map Prod.fst ++ s.queue = s.asked.map Prod.fst ∧
      s.queue.length ≤ queueDepth := by
  have run : Transition.replay? step? (start 7 { killTimeout := 1000 })
      [.reap, .cancel, .escalate, .escalate, .escalate, .reap, .escalate, .escalate, .tick 1000,
        .escalate, .escalate] = some _ := rfl
  obtain ⟨graceful, -, -, -, delayed, order, bound, -⟩ := escalation_protocol run
  exact ⟨_, run, rfl, graceful .term rfl, (delayed _ _ rfl).2, order rfl, bound⟩

end Overseer.Supervision
