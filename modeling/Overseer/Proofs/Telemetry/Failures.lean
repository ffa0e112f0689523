-- SUMMARY: Where in a stream an intake reports what is malformed: in order, and a broken value behind white space twice.
import Overseer.Proofs.Telemetry.Session

/-!
# Failures

Every outcome is taken at a place in the stream: that of the first octet of its value. Along a session the
places of failures go up. The one exception comes from the search for the next brace, which begins behind
the first octet of the buffer and not behind that of the value: if white space stands in front of a brace,
the search finds the brace of the value that has just failed, and the value fails once more.
-/

namespace Overseer.Telemetry

open Json (skipBlanks)

/-- Whether what was passed over is a complete object. -/
def Noise.isObject : Noise → Bool
  | notEvent _ => true
  | _ => false

variable {s t : Bytes} {b : UInt8} {i j : Intake} {o : Outcome} {why : Noise}

-- ---------------------------------------------------------------------------
-- Searching
-- ---------------------------------------------------------------------------

/-- How many octets of white space a text begins with. -/
def lead (s : Bytes) : Nat := (s.takeWhile Json.isBlank).length

theorem lead_add (s : Bytes) : lead s + (skipBlanks s).length = s.length := by
  rw [lead, skipBlanks, ← List.length_append, List.takeWhile_append_dropWhile]

theorem lead_of_solid (solid : skipBlanks s = s) : lead s = 0 := by
  have sum := lead_add s
  rw [solid] at sum
  exact Nat.add_eq_right.mp sum

/-- No white space is a brace, so it does not matter to a search. -/
theorem search_skipBlanks (s : Bytes) :
    (skipBlanks s).dropWhile (· ≠ 0x7B) = s.dropWhile (· ≠ 0x7B) := by
  have blank : Braceless (s.takeWhile Json.isBlank) :=
    braceless_of_blank fun _ mem => List.mem_takeWhile_imp mem
  conv_rhs => rw [← List.takeWhile_append_dropWhile (p := Json.isBlank) (l := s)]
  exact (List.dropWhile_append_of_pos fun b mem => decide_eq_true (blank b mem)).symm

/-- A search ends at a brace or at the end of the text. -/
theorem search_cases (s : Bytes) :
    s.dropWhile (· ≠ 0x7B) = [] ∨ ∃ t, s.dropWhile (· ≠ 0x7B) = 0x7B :: t := by
  cases found : s.dropWhile (· ≠ 0x7B) with
  | nil => exact .inl rfl
  | cons c rest =>
    have stopped : decide (c ≠ (0x7B : UInt8)) = false := by
      have head := List.head?_dropWhile_not (fun b : UInt8 => decide (b ≠ 0x7B)) s
      rw [found] at head
      simpa using head
    have brace : c = 0x7B := by simpa using stopped
    exact .inr ⟨rest, by rw [brace]⟩

theorem search_length (s : Bytes) : (s.dropWhile (· ≠ 0x7B)).length ≤ s.length :=
  (List.dropWhile_sublist _).length_le

namespace Intake

/-- White space in front of a brace makes the search find this brace. -/
theorem resync_misled (blank : 0 < lead s) (brace : skipBlanks s = 0x7B :: t) :
    resync s = 0x7B :: t := by
  cases s with
  | nil => cases brace
  | cons a rest =>
    cases white : Json.isBlank a with
    | false => simp [lead, white] at blank
    | true =>
      have behind : skipBlanks rest = 0x7B :: t := by
        rwa [skipBlanks, List.dropWhile_cons_of_pos white] at brace
      rw [resync, List.tail_cons, ← search_skipBlanks, behind]
      rfl

/-- Otherwise the search goes on behind the first octet of the value. -/
theorem resync_passes (start : skipBlanks s = b :: t) (clear : lead s = 0 ∨ b ≠ 0x7B) :
    (resync s).length ≤ t.length := by
  cases s with
  | nil => cases start
  | cons a rest =>
    cases white : Json.isBlank a with
    | false =>
      rw [skipBlanks, List.dropWhile_cons_of_neg (by simp [white])] at start
      cases start
      exact search_length t
    | true =>
      have other : b ≠ 0x7B := by
        apply clear.resolve_left
        simp [lead, white]
      have behind : skipBlanks rest = b :: t := by
        rwa [skipBlanks, List.dropWhile_cons_of_pos white] at start
      have onward : (b :: t).dropWhile (· ≠ 0x7B) = t.dropWhile (· ≠ 0x7B) :=
        List.dropWhile_cons_of_pos (decide_eq_true other)
      rw [resync, List.tail_cons, ← search_skipBlanks, behind, onward]
      exact search_length t

-- ---------------------------------------------------------------------------
-- Failing
-- ---------------------------------------------------------------------------

theorem next_truncated {fault : Json.Fault} (start : skipBlanks i.buffer = b :: t)
    (read : Json.Reader.anyValue.run (b :: t) = .error fault) (unfinished : fault.isUnfinished)
    (ended : i.ended) :
    i.next = (.malformed (.truncated i.buffer.length), { i with buffer := resync i.buffer }) := by
  simp only [next, firstValue_refused start read, unfinished, ended, if_true]

/-- What is malformed is a complete object, or the search for the next brace begins. -/
theorem next_malformed (h : i.next = (.malformed why, j)) :
    ∃ b t, skipBlanks i.buffer = b :: t ∧
      (why.isObject ∧ j.buffer.length ≤ t.length ∨
        why.isObject = false ∧ j = { i with buffer := resync i.buffer }) := by
  cases start : skipBlanks i.buffer with
  | nil =>
    rw [next, firstValue_blank start] at h
    cases h
  | cons b t =>
    refine ⟨b, t, rfl, ?_⟩
    unfold next at h
    split at h
    · cases h
    · rename_i found
      have shorter := Json.Reader.anyValue.consumes (firstValue_read start found)
      split at h
      · split at h
        · cases h
        · cases h
          exact .inl ⟨rfl, Nat.le_of_lt_succ shorter⟩
      · cases h
        exact .inr ⟨rfl, rfl⟩
    · split at h
      · split at h
        · cases h
          exact .inr ⟨rfl, rfl⟩
        · cases h
      · cases h
        exact .inr ⟨rfl, rfl⟩

/-- A value that fails at a brace, and is no complete object, fails there again. -/
theorem next_again (h : i.next = (.malformed why, j)) (brace : skipBlanks i.buffer = 0x7B :: t)
    (broken : why.isObject = false) (same : j = { i with buffer := 0x7B :: t }) :
    ∃ reason k, j.next = (.malformed reason, k) := by
  subst same
  cases read : Json.Reader.anyValue.run (0x7B :: t) with
  | ok answer =>
    -- a complete object would have been dropped whole
    have whole := (next_object brace read).symm.trans h
    simp only [Outcome.ofObject, Prod.mk.injEq] at whole
    split at whole
    · cases whole.1
    · cases whole.1
      cases broken
  | error fault =>
    cases unfinished : fault.isUnfinished with
    | false => exact ⟨_, _, next_refused (skipBlanks_brace t) read unfinished⟩
    | true =>
      cases ended : i.ended with
      | true => exact ⟨_, _, next_truncated (skipBlanks_brace t) read unfinished rfl⟩
      | false =>
        rw [next_unfinished brace read unfinished ended] at h
        cases h

end Intake

-- ---------------------------------------------------------------------------
-- Sightings
-- ---------------------------------------------------------------------------

/-- An outcome and the buffers before and after it, when so many octets of the stream had been fed. -/
structure Sighting where
  fed : Nat
  buffer : Bytes
  outcome : Outcome
  left : Bytes

namespace Sighting

/-- Where in the stream the buffer began. -/
def front (x : Sighting) : Nat := x.fed - x.buffer.length

/-- Where in the stream the first octet other than white space stood. -/
def place (x : Sighting) : Nat := x.front + lead x.buffer

/-- Where in the stream the buffer began afterwards. -/
def behind (x : Sighting) : Nat := x.fed - x.left.length

def fails (x : Sighting) : Bool :=
  match x.outcome with
  | .malformed _ => true
  | _ => false

def isObject (x : Sighting) : Bool :=
  match x.outcome with
  | .malformed why => why.isObject
  | _ => false

/-- White space stands in front of a broken value that opens with a brace. -/
structure Misled (x : Sighting) : Prop where
  fails : x.fails
  broken : x.isObject = false
  blank : x.front < x.place
  brace : (skipBlanks x.buffer).head? = some 0x7B

/-- How far a failure gets the intake. -/
structure Lawful (x : Sighting) : Prop where
  onward : x.front ≤ x.behind
  clear : x.fails → ¬ x.Misled → x.place < x.behind
  stays : x.Misled → x.behind = x.place
  resumes : x.fails → x.isObject = false → x.left = [] ∨ ∃ t, x.left = 0x7B :: t

/-- Lawful sightings one behind the other, between two places in the stream. -/
inductive Follow : Nat → List Sighting → Nat → Prop where
  | nil {start stop : Nat} (onward : start ≤ stop) : Follow start [] stop
  | cons {start stop : Nat} {x : Sighting} {xs : List Sighting} (onward : start ≤ x.front)
      (lawful : x.Lawful) (rest : Follow x.behind xs stop) : Follow start (x :: xs) stop

variable {x y : Sighting} {xs ys : List Sighting} {start middle stop : Nat}

theorem Follow.sooner (h : Follow middle xs stop) (onward : start ≤ middle) :
    Follow start xs stop := by
  cases h with
  | nil further => exact .nil (onward.trans further)
  | cons further lawful rest => exact .cons (onward.trans further) lawful rest

theorem Follow.append (h : Follow start xs middle) (later : Follow middle ys stop) :
    Follow start (xs ++ ys) stop := by
  induction h with
  | nil onward => exact later.sooner onward
  | cons onward lawful _ ih => exact .cons onward lawful (ih later)

theorem Follow.lawful (h : Follow start xs stop) : ∀ x ∈ xs, x.Lawful := by
  induction h with
  | nil => simp
  | cons _ lawful _ ih =>
    intro y mem
    rcases List.mem_cons.mp mem with rfl | later
    · exact lawful
    · exact ih y later

theorem Follow.behind_start (h : Follow start xs stop) : ∀ x ∈ xs, start ≤ x.front := by
  induction h with
  | nil => simp
  | cons onward lawful _ ih =>
    intro y mem
    rcases List.mem_cons.mp mem with rfl | later
    · exact onward
    · exact onward.trans (lawful.onward.trans (ih y later))

theorem Follow.pairwise (h : Follow start xs stop) : xs.Pairwise fun x y => x.behind ≤ y.front := by
  induction h with
  | nil => exact .nil
  | cons _ _ rest ih => exact .cons rest.behind_start ih

/-- A later failure is further on in the stream, or it is the repetition of a misled one. -/
theorem Lawful.later (lawful : x.Lawful) (fails : x.fails) (after : x.behind ≤ y.front) :
    x.place < y.place ∨ x.Misled ∧ y.place = x.place ∧ y.front = y.place := by
  have inside : y.front ≤ y.place := Nat.le_add_right _ _
  by_cases misled : x.Misled
  · rw [lawful.stays misled] at after
    rcases Nat.lt_or_eq_of_le (after.trans inside) with less | same
    · exact .inl less
    · exact .inr ⟨misled, same.symm, Nat.le_antisymm inside (same ▸ after)⟩
  · exact .inl ((lawful.clear fails misled).trans_le (after.trans inside))

end Sighting

namespace Intake

/-- What is seen while an intake is drained. -/
def sightings (fed : Nat) (i : Intake) : List Sighting :=
  match _h : i.next with
  | (.needMore, _) => []
  | (.event e, j) => ⟨fed, i.buffer, .event e, j.buffer⟩ :: sightings fed j
  | (.malformed why, j) => ⟨fed, i.buffer, .malformed why, j.buffer⟩ :: sightings fed j
termination_by i.buffer.length
decreasing_by
  · exact next_length _h nofun
  · exact next_length _h nofun

/-- What is seen while the rest of a stream arrives in chunks and ends. -/
def watch (fed : Nat) (i : Intake) : List Bytes → List Sighting
  | [] => sightings fed i.finish
  | chunk :: chunks =>
    sightings (fed + chunk.length) (i.feed chunk)
      ++ watch (fed + chunk.length) (i.feed chunk).drain.2 chunks

theorem sightings_more {fed : Nat} (h : i.next = (o, j)) (more : o ≠ .needMore) :
    sightings fed i = ⟨fed, i.buffer, o, j.buffer⟩ :: sightings fed j := by
  rw [sightings]
  split
  · rename_i eq; rw [h] at eq; cases eq; exact absurd rfl more
  · rename_i eq; rw [h] at eq; cases eq; rfl
  · rename_i eq; rw [h] at eq; cases eq; rfl

/-- What holds of the sightings of an intake if it holds of one more sighting in front. -/
theorem sightings_induction (fed : Nat) {P : Intake → List Sighting → Prop}
    (rest : ∀ {i j}, i.next = (.needMore, j) → P i [])
    (more : ∀ {i j o}, i.next = (o, j) → o ≠ .needMore → P j (sightings fed j) →
      P i (⟨fed, i.buffer, o, j.buffer⟩ :: sightings fed j)) (i : Intake) :
    P i (sightings fed i) := by
  fun_induction sightings fed i with
  | case1 i j next => exact rest next
  | case2 i e j next ih => exact more next nofun ih
  | case3 i why j next ih => exact more next nofun ih

theorem sightings_outcomes (fed : Nat) (i : Intake) :
    (sightings fed i).map (·.outcome) = i.drain.1 := by
  induction i using sightings_induction fed with
  | rest next => rw [drain_needMore next]; rfl
  | more next some ih => rw [drain_more next some, List.map_cons, ih]

/-- What a search leaves is at the value if it was misled, and behind it otherwise. -/
theorem lawful_search {fed : Nat} (fits : i.buffer.length ≤ fed) (start : skipBlanks i.buffer = b :: t)
    (broken : why.isObject = false) :
    Sighting.Lawful ⟨fed, i.buffer, .malformed why, resync i.buffer⟩ := by
  have sum := lead_add i.buffer
  rw [start, List.length_cons] at sum
  have shorter := resync_length (ne_nil_of_skipBlanks start)
  have onward : fed - i.buffer.length ≤ fed - (resync i.buffer).length :=
    Nat.sub_le_sub_left shorter.le fed
  refine ⟨onward, fun fails unmisled => ?_, fun misled => ?_, fun _ _ => search_cases _⟩
  · have clear : lead i.buffer = 0 ∨ b ≠ 0x7B := by
      by_contra both
      obtain ⟨blank, brace⟩ := not_or.mp both
      apply unmisled
      refine ⟨rfl, broken, Nat.lt_add_of_pos_right (Nat.pos_of_ne_zero blank), ?_⟩
      rw [start, not_not.mp brace]
      rfl
    have passed := resync_passes start clear
    simp only [Sighting.place, Sighting.front, Sighting.behind]
    omega
  · have brace := misled.brace
    rw [start] at brace
    cases brace
    have blank : 0 < lead i.buffer := Nat.lt_add_right_iff_pos.mp misled.blank
    rw [resync_misled blank start]
    simp only [Sighting.place, Sighting.front, Sighting.behind, List.length_cons]
    omega

/-- Every outcome gets the intake on as its sighting says. -/
theorem lawful_next {fed : Nat} (fits : i.buffer.length ≤ fed) (h : i.next = (o, j))
    (more : o ≠ .needMore) : Sighting.Lawful ⟨fed, i.buffer, o, j.buffer⟩ := by
  have shorter := next_length h more
  have onward : fed - i.buffer.length ≤ fed - j.buffer.length := Nat.sub_le_sub_left shorter.le fed
  cases o with
  | needMore => exact absurd rfl more
  | event e =>
    refine ⟨onward, nofun, fun misled => ?_, nofun⟩
    cases misled.fails
  | malformed why =>
    obtain ⟨b, t, start, ⟨object, short⟩ | ⟨broken, rfl⟩⟩ := next_malformed h
    · have sum := lead_add i.buffer
      rw [start, List.length_cons] at sum
      refine ⟨onward, fun _ _ => ?_, fun misled => ?_, fun _ broken => ?_⟩
      · simp only [Sighting.place, Sighting.front, Sighting.behind]
        omega
      · exact absurd (misled.broken.symm.trans object) nofun
      · exact absurd (broken.symm.trans object) nofun
    · exact lawful_search fits start broken

theorem follow_sightings (fed : Nat) (i : Intake) (fits : i.buffer.length ≤ fed) :
    Sighting.Follow (fed - i.buffer.length) (sightings fed i) (fed - i.drain.2.buffer.length) := by
  induction i using sightings_induction fed with
  | @rest i j next =>
    have shorter := (next_takes next).suffix.length_le
    rw [drain_needMore next]
    exact .nil (Nat.sub_le_sub_left shorter fed)
  | @more i j o next some ih =>
    have shorter := next_length next some
    rw [drain_more next some]
    exact .cons (Nat.le_refl _) (lawful_next fits next some)
      (ih (shorter.le.trans fits))

theorem feed_fits {fed : Nat} (chunk : Bytes) (fits : i.buffer.length ≤ fed) :
    (i.feed chunk).buffer.length ≤ fed + chunk.length := by
  rw [feed, List.length_append]
  exact Nat.add_le_add_right fits chunk.length

theorem drain_fits {fed : Nat} (fits : i.buffer.length ≤ fed) : i.drain.2.buffer.length ≤ fed :=
  (drain_drains i).suffix.length_le.trans fits

theorem follow_watch {fed : Nat} (chunks : List Bytes) (fits : i.buffer.length ≤ fed) :
    ∃ stop, Sighting.Follow (fed - i.buffer.length) (watch fed i chunks) stop := by
  induction chunks generalizing fed i with
  | nil => exact ⟨_, follow_sightings fed i.finish fits⟩
  | cons chunk chunks ih =>
    obtain ⟨stop, later⟩ := ih (drain_fits (feed_fits chunk fits))
    have first := follow_sightings _ _ (feed_fits chunk fits)
    rw [feed, List.length_append, Nat.add_sub_add_right] at first
    exact ⟨stop, first.append later⟩

/-- A misled search is followed by another failure, right at the place of the first. -/
theorem next_misled {fed : Nat} (h : i.next = (o, j))
    (misled : Sighting.Misled ⟨fed, i.buffer, o, j.buffer⟩) :
    ∃ reason k, j.next = (.malformed reason, k) ∧ lead j.buffer = 0 := by
  cases o with
  | needMore | event e => cases misled.fails
  | malformed why =>
    obtain ⟨b, t, start, ⟨object, -⟩ | ⟨broken, same⟩⟩ := next_malformed h
    · exact absurd (misled.broken.symm.trans object) nofun
    · have brace := misled.brace
      rw [start] at brace
      cases brace
      rw [resync_misled (Nat.lt_add_right_iff_pos.mp misled.blank) start] at same
      obtain ⟨reason, k, again⟩ := next_again h start broken same
      refine ⟨reason, k, again, ?_⟩
      rw [same]
      exact lead_of_solid (skipBlanks_brace t)

theorem sightings_again {fed : Nat} {x : Sighting} (fits : i.buffer.length ≤ fed)
    (mem : x ∈ sightings fed i) (misled : x.Misled) :
    ∃ y ∈ sightings fed i, y.fails ∧ y.place = x.place ∧ y.front = y.place := by
  induction i using sightings_induction fed with
  | rest next => cases mem
  | @more i j o next some ih =>
    rcases List.mem_cons.mp mem with rfl | later
    · obtain ⟨reason, k, again, solid⟩ := next_misled next misled
      have place : fed - j.buffer.length = _ := (lawful_next fits next some).stays misled
      rw [sightings_more again nofun]
      refine ⟨_, List.mem_cons_of_mem _ List.mem_cons_self, rfl, ?_, ?_⟩
      · rw [← place, Sighting.place, Sighting.front, solid]
        rfl
      · rw [Sighting.place, Sighting.front, solid]
        rfl
    · obtain ⟨y, found, again⟩ := ih ((next_length next some).le.trans fits) later
      exact ⟨y, List.mem_cons_of_mem _ found, again⟩

theorem watch_again {fed : Nat} {x : Sighting} {chunks : List Bytes} (fits : i.buffer.length ≤ fed)
    (mem : x ∈ watch fed i chunks) (misled : x.Misled) :
    ∃ y ∈ watch fed i chunks, y.fails ∧ y.place = x.place ∧ y.front = y.place := by
  induction chunks generalizing fed i with
  | nil => exact sightings_again fits mem misled
  | cons chunk chunks ih =>
    rcases List.mem_append.mp mem with now | later
    · obtain ⟨y, found, again⟩ := sightings_again (feed_fits chunk fits) now misled
      exact ⟨y, List.mem_append_left _ found, again⟩
    · obtain ⟨y, found, again⟩ := ih (drain_fits (feed_fits chunk fits)) later
      exact ⟨y, List.mem_append_right _ found, again⟩

/-- What is buffered is the end of what has been fed. -/
theorem sightings_buffer {fed : Nat} {x : Sighting} (mem : x ∈ sightings fed i) :
    x.fed = fed ∧ x.buffer <:+ i.buffer := by
  induction i using sightings_induction fed with
  | rest next => cases mem
  | @more i j o next some ih =>
    rcases List.mem_cons.mp mem with rfl | later
    · exact ⟨rfl, List.suffix_rfl⟩
    · obtain ⟨same, suffix⟩ := ih later
      exact ⟨same, suffix.trans (next_takes next).suffix⟩

theorem watch_buffer {x : Sighting} {chunks : List Bytes} (known : i.buffer <:+ s)
    (mem : x ∈ watch s.length i chunks) :
    x.fed ≤ (s ++ chunks.flatten).length ∧
      x.buffer = ((s ++ chunks.flatten).take x.fed).drop x.front := by
  induction chunks generalizing s i with
  | nil =>
    obtain ⟨same, suffix⟩ := sightings_buffer mem
    have part : x.buffer <:+ s := suffix.trans known
    refine ⟨by simp [same], ?_⟩
    rw [Sighting.front, same, List.flatten_nil, List.append_nil, List.take_length]
    exact List.suffix_iff_eq_drop.mp part
  | cons chunk chunks ih =>
    have grown : (i.feed chunk).buffer <:+ s ++ chunk := by
      obtain ⟨used, eq⟩ := known
      exact ⟨used, by rw [feed, ← List.append_assoc, eq]⟩
    rw [List.flatten_cons, ← List.append_assoc]
    rw [watch, ← List.length_append] at mem
    rcases List.mem_append.mp mem with now | later
    · obtain ⟨same, suffix⟩ := sightings_buffer now
      have part : x.buffer <:+ s ++ chunk := suffix.trans grown
      refine ⟨by simp [same], ?_⟩
      rw [Sighting.front, same, List.take_left]
      exact List.suffix_iff_eq_drop.mp part
    · exact ih ((drain_drains (i.feed chunk)).suffix.trans grown) later

theorem watch_outcomes (fed : Nat) (i : Intake) (chunks : List Bytes) :
    (watch fed i chunks).map (·.outcome)
      = (i.feedAll chunks).1 ++ (i.feedAll chunks).2.finish.drain.1 := by
  induction chunks generalizing fed i with
  | nil => exact sightings_outcomes fed i.finish
  | cons chunk chunks ih =>
    rw [watch, List.map_append, sightings_outcomes, ih, feedAll_cons, List.append_assoc]

end Intake

-- ---------------------------------------------------------------------------
-- Sessions
-- ---------------------------------------------------------------------------

/-- One place is seen at most twice, because a repetition has no white space in front. -/
theorem Sighting.twice_at_most {failures : List Sighting} {place : Nat}
    (later : failures.Pairwise fun x y =>
      x.place < y.place ∨ x.Misled ∧ y.place = x.place ∧ y.front = y.place)
    (here : ∀ x ∈ failures, x.place = place) : failures.length ≤ 2 := by
  match failures with
  | [] | [_] | [_, _] => simp
  | x :: y :: z :: rest =>
    simp only [List.pairwise_cons, List.mem_cons, forall_eq_or_imp] at later here
    obtain ⟨⟨second, -⟩, ⟨third, -⟩, -⟩ := later
    obtain ⟨first, same, again, -⟩ := here
    rw [first, same] at second
    rw [same, again] at third
    have solid : y.front = place := (second.resolve_left (Nat.lt_irrefl place)).2.2
    have misled : y.Misled := (third.resolve_left (Nat.lt_irrefl place)).1
    exact absurd (solid.trans same.symm) misled.blank.ne

/-- The failures of a session, with their places in the stream. They are reported in order. One whose search
    for the next brace is not misled leaves the buffer behind its first octet, empty or at a brace unless a
    complete object was dropped; a misled one is reported once more at its place, and nothing is
    reported more often than that. -/
theorem failures_in_order (chunks : List Bytes) :
    let seen := Intake.watch 0 {} chunks
    let failures := seen.filter Sighting.fails
    seen.map (·.outcome) = (Intake.session chunks).1 ∧
    (∀ x ∈ seen, x.fed ≤ chunks.flatten.length ∧
      x.buffer = (chunks.flatten.take x.fed).drop x.front) ∧
    failures.Pairwise (fun x y =>
      x.place < y.place ∨ x.Misled ∧ y.place = x.place ∧ y.front = y.place) ∧
    (∀ x ∈ failures, ¬ x.Misled → x.place < x.behind) ∧
    (∀ x ∈ failures, x.isObject = false → x.left = [] ∨ ∃ t, x.left = 0x7B :: t) ∧
    (∀ x ∈ failures, x.Misled → ∃ y ∈ failures, y.place = x.place ∧ y.front = y.place) ∧
    (∀ place, (failures.map (·.place)).count place ≤ 2) := by
  intro seen failures
  have begins : ([] : Bytes).length ≤ 0 := Nat.le_refl 0
  obtain ⟨stop, follow⟩ := Intake.follow_watch (i := {}) chunks begins
  have known : ∀ x ∈ failures, x ∈ seen ∧ x.fails := fun x mem => List.mem_filter.mp mem
  have lawful : ∀ x ∈ failures, x.Lawful := fun x mem => follow.lawful x (known x mem).1
  have later : failures.Pairwise fun x y =>
      x.place < y.place ∨ x.Misled ∧ y.place = x.place ∧ y.front = y.place := by
    apply List.Pairwise.imp_of_mem _ (follow.pairwise.filter Sighting.fails)
    intro x y mem _ after
    exact (lawful x mem).later (known x mem).2 after
  refine ⟨Intake.watch_outcomes 0 {} chunks, fun x mem => ?_, later, fun x mem => ?_, fun x mem => ?_,
    fun x mem misled => ?_, fun place => ?_⟩
  · exact Intake.watch_buffer (s := []) List.nil_suffix mem
  · exact (lawful x mem).clear (known x mem).2
  · exact (lawful x mem).resumes (known x mem).2
  · obtain ⟨y, found, fails, again⟩ := Intake.watch_again begins (known x mem).1 misled
    exact ⟨y, List.mem_filter.mpr ⟨found, fails⟩, again⟩
  · rw [List.count_eq_countP, List.countP_map, List.countP_eq_length_filter]
    have here : ∀ x ∈ failures.filter ((· == place) ∘ (·.place)), x.place = place := by
      intro x mem
      simpa using (List.mem_filter.mp mem).2
    exact Sighting.twice_at_most (later.filter _) here

/-- A broken object behind a blank is reported twice, both times at its brace. -/
theorem broken_object_reported_twice :
    let failures := (Intake.watch 0 {} [Bytes.ofString " \x7b\"type\":\x7d"]).filter Sighting.fails
    failures.map (·.place) = [1, 1] ∧ ¬ (failures.map (·.place)).Pairwise (· < ·) := by
  decide +kernel

end Overseer.Telemetry
