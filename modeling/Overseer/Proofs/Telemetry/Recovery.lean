-- SUMMARY: Two records behind any noise get a live stream going again, without its end.
import Overseer.Proofs.Json.Impasse
import Overseer.Proofs.Telemetry.Clean
import Overseer.Proofs.Telemetry.Noise

/-!
# Recovery

What noise leaves open makes an intake wait, for a bracket, a quote or the rest of an escape. It does not wait
for ever: a record that another one follows is a wall, so as soon as the second record has begun, every wait
that began in the noise turns into a refusal, and the intake gets to the first record. From there on it finds
records and white space only.
-/

namespace Overseer.Telemetry

open Json (Before Blocked Wall skipBlanks)
open Json.Outline (Punctuation)
open Json.Reader (anyValue)

variable {s w more blanks : Bytes} {es : List Event}

-- ---------------------------------------------------------------------------
-- Records as walls
-- ---------------------------------------------------------------------------

theorem blocked_record (r : Record) (blank : ∀ b ∈ blanks, Json.isBlank b) :
    Blocked (blanks ++ (r.text ++ s)) := by
  obtain ⟨t, brace⟩ := r.brace
  refine ⟨0x7B, t ++ s, ?_, by simp [Punctuation, Json.isBlank]⟩
  rw [skipBlanks, List.dropWhile_append_of_pos blank, brace]
  rfl

/-- A record behind which nothing goes on. -/
theorem Record.wall (r : Record) (blocked : Blocked s) : Wall (r.text ++ s) where
  opens := by
    obtain ⟨key, more, text, known⟩ := r.starts
    rw [text]
    rcases known with rfl | rfl | rfl
    · exact ⟨0x74, 0x79, _, rfl, by simp [Punctuation, Json.isBlank]⟩
    · exact ⟨0x69, 0x64, _, rfl, by simp [Punctuation, Json.isBlank]⟩
    · exact ⟨0x64, 0x61, _, rfl, by simp [Punctuation, Json.isBlank]⟩
  value := by
    intro depth le
    rcases Json.cramped_value le (r.text ++ s) with same | ⟨fault, refused, deep⟩
    · have whole : (Json.Reader.value depth).run (r.text ++ s) = .ok (r.event.encode.sorted, s) :=
        same.trans (r.exact.whole s)
      rw [whole]
      exact blocked
    · rw [refused]
      simp only [Json.Leaves, Json.Fault.isUnfinished, deep]

/-- Two records, or more. -/
theorem wall_of_two (r r' : Record) (blank : ∀ b ∈ blanks, Json.isBlank b) :
    Wall (r.text ++ (blanks ++ (r'.text ++ s))) :=
  r.wall (blocked_record r' blank)

theorem clean_amongNoise {pieces : List (Record × Bytes)}
    (blank : ∀ p ∈ pieces, ∀ b ∈ p.2, Json.isBlank b) :
    Clean (amongNoise pieces) (pieces.map (·.1.event)) := by
  induction pieces with
  | nil => exact .nil
  | cons p pieces ih =>
    rw [amongNoise_cons]
    exact .record p.1 ((ih fun q mem => blank q (by simp [mem])).behind (blank p (by simp)))

-- ---------------------------------------------------------------------------
-- Streams that recover
-- ---------------------------------------------------------------------------

/-- Records with white space around them, or noise in front of such records, at least two. -/
inductive Recovers : Bytes → Prop where
  | clean {s : Bytes} {es : List Event} (records : Clean s es) : Recovers s
  | noise {w s : Bytes} {es : List Event} {b : UInt8} (wall : Wall w) (records : Clean w es)
      (opened : b ≠ 0x7D) (later : Before w s) : Recovers (b :: s)

theorem recovers_before (wall : Wall w) (records : Clean w es) (before : Before w s) : Recovers s := by
  cases before with
  | here => exact .clean records
  | behind opened later => exact .noise wall records opened later

/-- Any noise without closing braces, and two records or more behind it. -/
theorem recovers_amongNoise {first : Bytes} {pieces : List (Record × Bytes)} (noise : 0x7D ∉ first)
    (blank : ∀ p ∈ pieces, ∀ b ∈ p.2, Json.isBlank b) (two : 2 ≤ pieces.length) :
    Recovers (first ++ amongNoise pieces) := by
  obtain ⟨p, q, others, rfl⟩ : ∃ p q others, pieces = p :: q :: others := by
    match pieces, two with
    | p :: q :: others, _ => exact ⟨p, q, others, rfl⟩
  have records := clean_amongNoise blank
  have wall : Wall (p.1.text ++ (p.2 ++ (q.1.text ++ (q.2 ++ amongNoise others)))) :=
    wall_of_two p.1 q.1 (blank p (by simp))
  rw [← amongNoise_cons, ← amongNoise_cons] at wall
  exact recovers_before wall records (.of_append noise .here)

namespace Intake

variable {i j : Intake} {o : Outcome}

/-- In front of a wall nothing is waited for once the wall is there. -/
theorem next_before (wall : Wall w) (before : Before w i.buffer) (h : i.next = (o, j)) : o ≠ .needMore := by
  rintro rfl
  obtain ⟨found, first⟩ | ⟨fault, first, finished⟩ := Json.firstValue_before wall before
  · simp only [next, first] at h
    split at h
    · split at h <;> cases h
    · cases h
  · simp only [next, first, finished, Bool.false_eq_true, if_false] at h
    cases h

/-- What follows the record in front of a wall. -/
theorem clean_behind_record {t rest : Bytes} {v : Json.Value} (records : Clean (0x7B :: t) es)
    (read : anyValue.run (0x7B :: t) = .ok (v, rest)) : ∃ fs, Clean rest fs := by
  rcases records.cons with ⟨blank, -⟩ | ⟨r, fs, behind, -, -, split, others⟩
  · exact absurd blank not_blank_brace
  · rw [split, r.exact.whole] at read
    cases read
    exact ⟨fs, others⟩

/-- An outcome in front of a wall leaves a stream that recovers. -/
theorem Takes.recovers {b : UInt8} {t : Bytes} (h : i.Takes o j) (wall : Wall w) (records : Clean w es)
    (start : i.buffer = b :: t) (opened : b ≠ 0x7D) (later : Before w (t ++ more)) :
    Recovers (j.buffer ++ more) := by
  have before : Before w (i.buffer ++ more) := start ▸ .behind opened later
  have blanks : Braceless (i.buffer.takeWhile Json.isBlank) :=
    braceless_of_blank fun _ mem => List.mem_takeWhile_imp mem
  have split : i.buffer = i.buffer.takeWhile Json.isBlank ++ skipBlanks i.buffer := by
    rw [skipBlanks, List.takeWhile_append_dropWhile]
  cases h with
  | blank blank =>
    rw [split, blank, List.append_assoc] at before
    exact recovers_before wall records (before.drop wall blanks)
  | @object u rest v o front read found _ =>
    obtain ⟨used, eq, takes⟩ := Json.object_takes (skipBlanks_brace _) read
    have reads := takes (rest ++ more)
    rw [← List.append_assoc, ← eq, List.cons_append] at reads
    rw [split, front, List.append_assoc] at before
    -- Either the noise ended here, or an object began in it, and that is not read.
    cases before.drop wall blanks with
    | here =>
      obtain ⟨fs, others⟩ := clean_behind_record records reads
      exact .clean others
    | behind _ inside => exact absurd reads (Json.object_unread wall inside)
  | wait => exact recovers_before wall records before
  | pass =>
    have rest : t = t.takeWhile (· ≠ 0x7B) ++ resync i.buffer := by
      rw [resync, start, List.tail_cons, List.takeWhile_append_dropWhile]
    rw [rest, List.append_assoc] at later
    exact recovers_before wall records (later.drop wall (braceless_takeWhile t))

/-- Draining leaves a stream that recovers, and nothing of it if it was all there. -/
theorem drain_recovers (stream : Recovers (i.buffer ++ more)) (goesOn : i.ended = false) :
    Recovers (i.drain.2.buffer ++ more) ∧ (more = [] → i.drain.2.buffer = []) := by
  induction size : i.buffer.length using Nat.strongRecOn generalizing i with
  | ind n shorter =>
    generalize eq : i.buffer ++ more = whole at stream
    cases stream with
    | clean records =>
      subst eq
      have last : i.ended → more = [] := fun ended => absurd (goesOn.symm.trans ended) nofun
      obtain ⟨fs, gs, -, -, left, done⟩ := drain_clean records last
      exact ⟨.clean left, fun nothing => (done nothing).2⟩
    | noise wall records opened later =>
      rcases List.append_eq_cons_iff.mp eq with ⟨empty, rfl⟩ | ⟨t, start, rfl⟩
      · rw [drain_needMore (next_blank (by rw [empty]; rfl))]
        exact ⟨.noise wall records opened later, fun _ => rfl⟩
      · obtain ⟨⟨o, j⟩, next⟩ : ∃ outcome, i.next = outcome := ⟨_, rfl⟩
        have left := (next_takes next).recovers wall records start opened later
        by_cases waits : o = .needMore
        · subst waits
          rw [drain_needMore next]
          refine ⟨left, fun nothing => ?_⟩
          rw [nothing, List.append_nil] at later
          exact absurd rfl (next_before wall (start ▸ .behind opened later) next)
        · rw [drain_more next waits]
          exact shorter _ (size ▸ next_length next waits) left ((next_ended next).trans goesOn) rfl

theorem feedAll_recovers {chunks : List Bytes} (stream : Recovers (i.buffer ++ chunks.flatten))
    (goesOn : i.ended = false) (idle : chunks.flatten = [] → i.buffer = []) :
    (i.feedAll chunks).2.buffer = [] := by
  induction chunks generalizing i with
  | nil => exact idle rfl
  | cons chunk chunks ih =>
    rw [List.flatten_cons, ← List.append_assoc] at stream
    obtain ⟨left, done⟩ := @drain_recovers _ (i.feed chunk) stream goesOn
    have still : (i.feed chunk).drain.2.ended = false := (drain_drains (i.feed chunk)).ended.trans goesOn
    rw [feedAll_cons]
    exact ih left still done

-- ---------------------------------------------------------------------------
-- Streams
-- ---------------------------------------------------------------------------

/-- A live stream of noise without closing braces and of at least two records with white space behind each.
    Once its last chunk is drained, all the records are found, no others, and nothing is waited for. -/
theorem live_recovery {first : Bytes} {pieces : List (Record × Bytes)} {chunks : List Bytes}
    (noise : 0x7D ∉ first) (blank : ∀ p ∈ pieces, ∀ b ∈ p.2, Json.isBlank b) (two : 2 ≤ pieces.length)
    (cut : chunks.flatten = first ++ amongNoise pieces) :
    (feedAll {} chunks).1.filterMap Outcome.event? = pieces.map (·.1.event) ∧
      (feedAll {} chunks).2.buffer = [] := by
  have opened : ∀ p ∈ pieces, 0x7D ∉ p.2 := fun p mem closing => absurd (blank p mem _ closing) (by decide)
  obtain ⟨records, seals⟩ := yields_amongNoise opened
  have stream : Yields chunks.flatten (pieces.map (·.1.event)) := cut ▸ .noise noise seals records
  have recovers : Recovers chunks.flatten := cut ▸ recovers_amongNoise noise blank two
  have emptied : (feedAll {} chunks).2.buffer = [] := feedAll_recovers recovers rfl fun _ => rfl
  obtain ⟨fs, split, left⟩ := @feedAll_yields _ {} chunks rfl stream
  rw [emptied] at left
  obtain rfl := Yields.nil_iff.mp left
  rw [List.append_nil] at split
  exact ⟨split.symm, emptied⟩

/-- Brackets and a brace that nothing closes. The first record comes out when the second one begins. -/
theorem live_recovery_open_bracket :
    (feedAll {} [Utf8.encode "[\x7b\"a\":[\x7b\"type\":\"oom\",\"id\":\"c\"\x7d".toList,
          Utf8.encode "\n\x7b\"type\":\"oom\",\"id\"".toList,
          Utf8.encode ":\"d\"\x7d".toList]).1.filterMap Outcome.event?
        = [⟨.oom, "c", none⟩, ⟨.oom, "d", none⟩] ∧
      (feedAll {} [Utf8.encode "[\x7b\"a\":[\x7b\"type\":\"oom\",\"id\":\"c\"\x7d".toList,
          Utf8.encode "\n\x7b\"type\":\"oom\",\"id\"".toList,
          Utf8.encode ":\"d\"\x7d".toList]).2.buffer = [] := by
  refine @live_recovery (Utf8.encode "[\x7b\"a\":[".toList)
    [(Record.ofEvent ⟨.oom, "c", none⟩, [0x0A]), (Record.ofEvent ⟨.oom, "d", none⟩, [])] _
    (by decide) ?_ (by decide) (by decide +kernel)
  simp [Json.isBlank]

end Intake

end Overseer.Telemetry
