-- SUMMARY: The events a stream yields, put together from its noise and its records, whatever the chunks.
import Overseer.Proofs.Json.Exact
import Overseer.Proofs.Telemetry.Session

/-!
# Trails

`Yields` describes a stream from its end: an octet that is no brace changes nothing, a record in front
adds its event, and a brace that starts no record may be passed over, provided that any object that is
read there is no event and leaves a text that yields the same. An intake finds what the stream yields
however it is cut (`session_yields`): it may pass over a brace before it could read the object there, or
read that object first, and comes to the same events either way.
-/

namespace Overseer.Telemetry

open Json (skipBlanks)
open Json.Reader (anyValue)

inductive Yields : Bytes → List Event → Prop where
  | nil : Yields [] []
  | other {b : UInt8} {s : Bytes} {es : List Event} (noBrace : b ≠ 0x7B) (rest : Yields s es) :
      Yields (b :: s) es
  | record {text s : Bytes} {v : Json.Value} {es : List Event} (brace : text.head? = some 0x7B)
      (exact : Json.Exact anyValue.run text v) (rest : Yields s es) :
      Yields (text ++ s) (converted v ++ es)
  | passed {t : Bytes} {es : List Event} (inside : Yields t es)
      (silent : ∀ v rest, anyValue.run (0x7B :: t) = .ok (v, rest) → converted v = [])
      (behind : ∀ v rest, anyValue.run (0x7B :: t) = .ok (v, rest) → Yields rest es) :
      Yields (0x7B :: t) es

variable {s t u more rest : Bytes} {es fs : List Event} {b : UInt8} {v : Json.Value}

-- ---------------------------------------------------------------------------
-- What a stream yields from its front
-- ---------------------------------------------------------------------------

/-- A brace at which no object is read. -/
theorem Yields.unread (h : Yields t es) (none : ∀ v rest, anyValue.run (0x7B :: t) ≠ .ok (v, rest)) :
    Yields (0x7B :: t) es :=
  .passed h (fun v rest read => absurd read (none v rest)) fun v rest read => absurd read (none v rest)

theorem Yields.skip (noBrace : Braceless u) (h : Yields s es) : Yields (u ++ s) es := by
  induction u with
  | nil => exact h
  | cons b u ih => exact .other (noBrace b (by simp)) (ih fun c mem => noBrace c (by simp [mem]))

theorem Yields.of_other (noBrace : b ≠ 0x7B) (h : Yields t es) (eq : t = b :: s) : Yields s es := by
  cases h with
  | nil => cases eq
  | other _ rest => cases eq; exact rest
  | @record text tail v _ brace _ _ =>
    cases text with
    | nil => cases brace
    | cons c text =>
      cases brace
      exact absurd (List.cons.inj eq).1.symm noBrace
  | passed => exact absurd (List.cons.inj eq).1.symm noBrace

theorem Yields.of_skip (noBrace : Braceless u) (h : Yields (u ++ s) es) : Yields s es := by
  induction u with
  | nil => exact h
  | cons b u ih =>
    have behind : Yields (u ++ s) es := h.of_other (noBrace b (by simp)) rfl
    exact ih (fun c mem => noBrace c (by simp [mem])) behind

theorem Yields.nil_iff : Yields [] es ↔ es = [] := by
  constructor
  · intro h
    generalize eq : ([] : Bytes) = t at h
    cases h with
    | nil => rfl
    | other | passed => cases eq
    | record brace =>
      rw [(List.append_eq_nil_iff.mp eq.symm).1] at brace
      cases brace
  · rintro rfl
    exact .nil

/-- An object at the front takes its event away and leaves what the rest yields. -/
theorem Yields.of_read (h : Yields t es) (eq : t = 0x7B :: s)
    (read : anyValue.run (0x7B :: s) = .ok (v, rest)) :
    ∃ fs, es = converted v ++ fs ∧ Yields rest fs := by
  cases h with
  | nil => cases eq
  | other noBrace => exact absurd (List.cons.inj eq).1 noBrace
  | record brace exact later =>
    rw [← eq, exact.whole] at read
    cases read
    exact ⟨_, rfl, later⟩
  | passed inside silent behind =>
    cases eq
    exact ⟨es, by rw [silent v rest read]; rfl, behind v rest read⟩

/-- A brace at which what is there of the stream is refused may be passed over, unless the refusal only says
    that the stream goes on. -/
theorem Yields.of_refused {fault : Json.Fault} (h : Yields t es) (eq : t = 0x7B :: (s ++ more))
    (refused : anyValue.run (0x7B :: s) = .error fault) (last : fault.isUnfinished → more = []) :
    Yields (s ++ more) es := by
  cases h with
  | nil => cases eq
  | other noBrace => exact absurd (List.cons.inj eq).1 noBrace
  | @record text tail v fs brace exact later =>
    have impossible : ¬ text <+: 0x7B :: s := by
      rintro ⟨left, split⟩
      rw [← split, exact.whole] at refused
      cases refused
    have cut : Cut (0x7B :: s) text := by
      rw [← List.cons_append] at eq
      rcases List.prefix_or_prefix_of_prefix ⟨tail, eq⟩ (List.prefix_append (0x7B :: s) more) with
        short | long
      · exact absurd short impossible
      · exact ⟨long, fun same => impossible (same ▸ List.prefix_rfl)⟩
    obtain ⟨fault', still, unfinished⟩ := exact.part cut
    rw [refused] at still
    cases still
    rw [last unfinished, List.append_nil] at eq
    exact absurd ⟨tail, eq⟩ impossible
  | passed inside =>
    cases eq
    exact inside

-- ---------------------------------------------------------------------------
-- Intakes
-- ---------------------------------------------------------------------------

namespace Intake

variable {i j : Intake} {o : Outcome} {os : List Outcome}

theorem yields_skipBlanks (h : Yields (s ++ more) es) : Yields (skipBlanks s ++ more) es := by
  have blank : Braceless (s.takeWhile Json.isBlank) :=
    braceless_of_blank fun _ mem => List.mem_takeWhile_imp mem
  have split : s = s.takeWhile Json.isBlank ++ skipBlanks s := by
    rw [skipBlanks, List.takeWhile_append_dropWhile]
  rw [split, List.append_assoc] at h
  exact h.of_skip blank

theorem yields_resync (h : Yields (s.tail ++ more) es) : Yields (resync s ++ more) es := by
  have split : s.tail = s.tail.takeWhile (· ≠ 0x7B) ++ resync s := by
    rw [resync, List.takeWhile_append_dropWhile]
  rw [split, List.append_assoc] at h
  exact h.of_skip (braceless_takeWhile _)

/-- An outcome takes its event off what the stream yields. -/
theorem Takes.yields (h : i.Takes o j) (stream : Yields (i.buffer ++ more) es)
    (last : i.ended → more = []) :
    ∃ fs, es = o.event?.toList ++ fs ∧ Yields (j.buffer ++ more) fs := by
  cases h with
  | blank blank =>
    have behind := yields_skipBlanks stream
    rw [blank] at behind
    exact ⟨es, rfl, behind⟩
  | @object t rest v o start read found _ =>
    have behind := yields_skipBlanks stream
    rw [start, List.cons_append] at behind
    obtain ⟨used, eq, takes⟩ := Json.object_takes (skipBlanks_brace _) read
    have reads := takes (rest ++ more)
    rw [← List.append_assoc, ← eq, List.cons_append] at reads
    rw [found]
    exact behind.of_read rfl reads
  | wait => exact ⟨es, rfl, stream⟩
  | pass nonempty refused none _ =>
    refine ⟨es, by rw [none]; rfl, yields_resync ?_⟩
    cases start : i.buffer with
    | nil => exact absurd start nonempty
    | cons b t =>
      rw [start, List.cons_append] at stream
      by_cases brace : b = 0x7B
      · subst brace
        obtain ⟨fault, read, final⟩ := refused t start
        exact stream.of_refused rfl read fun unfinished => last (final unfinished)
      · exact stream.of_other brace rfl

theorem Drains.yields (h : Drains i os j) (stream : Yields (i.buffer ++ more) es)
    (last : i.ended → more = []) :
    ∃ fs, es = events os ++ fs ∧ Yields (j.buffer ++ more) fs := by
  induction h generalizing es with
  | stop taken => exact taken.yields stream last
  | @more i j k o os first others ih =>
    obtain ⟨fs, rfl, behind⟩ := first.yields stream last
    obtain ⟨gs, rfl, left⟩ := ih behind fun ended => last (first.ended ▸ ended)
    exact ⟨gs, by rw [events_cons, List.append_assoc], left⟩

theorem feedAll_yields {chunks : List Bytes} (goesOn : i.ended = false)
    (stream : Yields (i.buffer ++ chunks.flatten) es) :
    ∃ fs, es = events (i.feedAll chunks).1 ++ fs ∧ Yields (i.feedAll chunks).2.buffer fs := by
  induction chunks generalizing i es with
  | nil =>
    rw [List.flatten_nil, List.append_nil] at stream
    exact ⟨es, rfl, stream⟩
  | cons chunk chunks ih =>
    have drained := drain_drains (i.feed chunk)
    have still : (i.feed chunk).drain.2.ended = false := drained.ended.trans goesOn
    rw [List.flatten_cons, ← List.append_assoc] at stream
    obtain ⟨fs, rfl, behind⟩ := drained.yields stream fun ended => absurd (goesOn.symm.trans ended) nofun
    obtain ⟨gs, rfl, left⟩ := ih still behind
    refine ⟨gs, ?_, left⟩
    rw [feedAll_cons, events_append, List.append_assoc]

/-- Without a brace there is no event. -/
theorem events_feedAll_braceless {chunks : List Bytes} (none : Braceless chunks.flatten) :
    events (feedAll {} chunks).1 = [] := by
  have stream : Yields (chunks.flatten ++ []) [] := Yields.nil.skip none
  rw [List.append_nil] at stream
  obtain ⟨fs, split, -⟩ := @feedAll_yields _ {} chunks rfl stream
  exact (List.append_eq_nil_iff.mp split.symm).1

/-- A session finds what the stream yields, however it is cut, and leaves nothing behind. -/
theorem session_yields {chunks : List Bytes} (stream : Yields s es) (cut : chunks.flatten = s) :
    (session chunks).1.filterMap Outcome.event? = es ∧ (session chunks).2.buffer = [] := by
  subst cut
  obtain ⟨fs, rfl, left⟩ := @feedAll_yields _ {} chunks rfl stream
  have drained := drain_drains (feedAll {} chunks).2.finish
  have emptied := drained.emptied rfl
  rw [← List.append_nil (feedAll {} chunks).2.buffer] at left
  obtain ⟨gs, rfl, nothing⟩ := drained.yields left fun _ => rfl
  rw [emptied, List.append_nil] at nothing
  obtain rfl := Yields.nil_iff.mp nothing
  refine ⟨?_, emptied⟩
  change events ((feedAll {} chunks).1 ++ (feedAll {} chunks).2.finish.drain.1) = _
  rw [events_append, List.append_nil]

end Intake

end Overseer.Telemetry
