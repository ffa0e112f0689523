-- SUMMARY: A number is settled by its octets and the one behind it, a refused one for good.
import Overseer.Proofs.Json.Locality
import Overseer.Proofs.Json.Magnitude

/-!
# Locality of numerals

A number goes on as long as digits follow, so the octet behind it belongs to what settles it. A number that
is refused at the end of a text is too large with its exponent, and more digits make that exponent larger:
the digits before the exponent, of which there are at most 308, are in range by themselves.
-/

namespace Overseer.Json.Numeral

/-! ## Digits -/

theorem digits_split (s : Bytes) : (digits s).1 ++ (digits s).2 = s :=
  List.takeWhile_append_dropWhile

theorem isDigit_of_mem_digits {s : Bytes} {b : UInt8} (h : b ∈ (digits s).1) : isDigit b :=
  List.mem_takeWhile_imp h

theorem digits_append {written : Bytes} (all : ∀ b ∈ written, isDigit b) (more : Bytes) :
    digits (written ++ more) = (written ++ (digits more).1, (digits more).2) := by
  simp only [digits, List.takeWhile_append_of_pos all, List.dropWhile_append_of_pos all]

theorem digits_cons {b : UInt8} {s : Bytes} (h : isDigit b) :
    (digits (b :: s)).1 = b :: (digits s).1 := by
  simp only [digits, List.takeWhile_cons_of_pos h]

/-- Digits end where they ended if the octet behind them is the same. -/
theorem digits_takes (s : Bytes) {more : Bytes} (same : more.head? = (digits s).2.head?) :
    digits ((digits s).1 ++ more) = ((digits s).1, more) := by
  have none : digits more = ([], more) := by
    have stop := List.head?_dropWhile_not isDigit s
    match more with
    | [] => rfl
    | c :: more =>
      have behind : (s.dropWhile isDigit).head? = some c := same.symm
      rw [behind] at stop
      have stop : ¬ isDigit c := by simpa using stop
      simp only [digits, List.takeWhile_cons_of_neg stop, List.dropWhile_cons_of_neg stop]
  rw [digits_append (fun b => isDigit_of_mem_digits), none, List.append_nil]

theorem digits_further {s : Bytes} (h : (digits s).2 ≠ []) (more : Bytes) :
    digits (s ++ more) = ((digits s).1, (digits s).2 ++ more) := by
  have same : ((digits s).2 ++ more).head? = (digits s).2.head? := List.head?_append_of_ne_nil _ h
  have := digits_takes s same
  rwa [← List.append_assoc, digits_split] at this

/-- More text leaves the digits as they are or adds to them. -/
theorem digits_grow (s more : Bytes) : ∃ added, (digits (s ++ more)).1 = (digits s).1 ++ added := by
  by_cases h : (digits s).2 = []
  · have all : ∀ b ∈ s, isDigit b := by
      intro b mem
      have split := digits_split s
      rw [h, List.append_nil] at split
      exact isDigit_of_mem_digits (split.symm ▸ mem)
    have : (digits s).1 = s := by
      have split := digits_split s
      rwa [h, List.append_nil] at split
    exact ⟨(digits more).1, by rw [digits_append all, this]⟩
  · exact ⟨[], by rw [digits_further h, List.append_nil]⟩

/-! ## Exponents -/

theorem scaled_eq_ok {significand : Nat} {exponent : Int} {x : Binary64} (rest : Bytes)
    (h : scale? significand exponent = some x) : scaled significand exponent rest = .ok (x, rest) := by
  rw [scaled, h]

theorem scale?_of_scaled {significand : Nat} {exponent : Int} {s rest : Bytes} {x : Binary64}
    (h : scaled significand exponent s = .ok (x, rest)) :
    scale? significand exponent = some x ∧ rest = s := by
  unfold scaled at h
  split at h
  · rename_i found
    cases h; exact ⟨found, rfl⟩
  · cases h

/-- A number is refused only if it is too large, so none that is in range. -/
theorem scaled_ne_error {significand : Nat} {exponent : Int} {s : Bytes} {fault : Fault}
    (h : fault.TooLarge → InRange significand exponent) :
    scaled significand exponent s ≠ .error fault := by
  intro eq
  have large : fault.TooLarge := by
    unfold scaled at eq
    split at eq <;> cases eq
    rfl
  obtain ⟨x, found⟩ := Option.isSome_iff_exists.mp (scale?_isSome_of_inRange (h large))
  rw [scaled_eq_ok s found] at eq
  cases eq

/-- The magnitude of a number whose exponent has these digits. -/
def withExponent? (significand : Nat) (exponent : Int) (positive : Bool) (written : Bytes) :
    Option Binary64 :=
  match gather maxExponent 0 written with
  | (power, []) => scale? significand (if positive then exponent + power else exponent - power)
  | (_, _ :: _) => if significand ≠ 0 ∧ positive then none else some .zero

/-- A number that is too large stays so when its exponent gets more digits. -/
theorem withExponent?_append {significand : Nat} {exponent : Int} {positive : Bool} {written : Bytes}
    (inRange : InRange significand exponent)
    (h : withExponent? significand exponent positive written = none) (added : Bytes) :
    withExponent? significand exponent positive (written ++ added) = none := by
  obtain ⟨⟨power, left⟩, eq⟩ : ∃ gathered, gather maxExponent 0 written = gathered := ⟨_, rfl⟩
  rw [withExponent?, eq] at h
  rw [withExponent?, gather_append, eq]
  cases left with
  | cons d left => exact h
  | nil =>
    cases positive with
    | false =>
      have fits := scale?_isSome_of_inRange
        (inRange.mono (Int.sub_le_self exponent (Int.natCast_nonneg power)))
      change scale? significand (exponent - power) = none at h
      rw [h] at fits
      cases fits
    | true =>
      change scale? significand (exponent + power) = none at h
      have nonzero := ne_zero_of_scale?_none h
      have grown := le_gather maxExponent power added
      obtain ⟨⟨power', left⟩, eq'⟩ : ∃ gathered, gather maxExponent power added = gathered := ⟨_, rfl⟩
      rw [eq'] at grown
      simp only [eq']
      cases left with
      | nil => exact scale?_none_of_le h (Int.add_le_add_left (Int.ofNat_le.mpr grown) exponent)
      | cons => simp [nonzero]

/-- A sign, or none in front of another octet, is passed over whatever follows that octet. -/
theorem sign_takes {s t : Bytes} {b : UInt8} (h : (sign s).2 = b :: t) :
    ∃ used, s = used ++ b :: t ∧ ∀ more, sign (used ++ b :: more) = ((sign s).1, b :: more) := by
  unfold sign at h ⊢
  split at h
  · rename_i c s
    split at h
    · rename_i plus
      cases h
      exact ⟨[c], rfl, fun more => by simp [plus]⟩
    split at h
    · rename_i minus
      cases h
      exact ⟨[c], rfl, fun more => by simp [minus]⟩
    · rename_i plus minus
      cases h
      exact ⟨[], rfl, fun more => by simp [plus, minus]⟩
  · cases h

theorem exponentPart_of_some {significand : Nat} {exponent : Int} {s t : Bytes} {b : UInt8}
    {x : Binary64} (start : (sign s).2 = b :: t) (digit : isDigit b)
    (h : withExponent? significand exponent (sign s).1 (digits (b :: t)).1 = some x) :
    exponentPart significand exponent s = .ok (x, (digits (b :: t)).2) := by
  unfold withExponent? at h
  unfold exponentPart
  simp only [start, if_pos digit]
  split at h
  · rename_i power eq
    simp only [eq]
    exact scaled_eq_ok _ h
  · rename_i eq
    split at h
    · cases h
    · rename_i small
      simp only [eq, if_neg small]
      cases h; rfl

theorem exponentPart_of_none {significand : Nat} {exponent : Int} {s t : Bytes} {b : UInt8}
    (start : (sign s).2 = b :: t) (digit : isDigit b)
    (h : withExponent? significand exponent (sign s).1 (digits (b :: t)).1 = none) :
    ∃ why, exponentPart significand exponent s = .error why ∧ why.TooLarge := by
  unfold withExponent? at h
  unfold exponentPart
  simp only [start, if_pos digit]
  split at h
  · rename_i power eq
    refine ⟨.behind .numberOutOfRange (digits (b :: t)).2, ?_, rfl⟩
    simp only [eq, scaled, h]
  · rename_i left eq
    split at h
    · rename_i large
      refine ⟨.behind .numberOutOfRange (left ++ (digits (b :: t)).2), ?_, rfl⟩
      simp only [eq, if_pos large]
    · cases h

theorem exponentPart_of_other {significand : Nat} {exponent : Int} {s t : Bytes} {b : UInt8}
    (start : (sign s).2 = b :: t) (other : ¬ isDigit b) :
    exponentPart significand exponent s = .error (.behind .invalidNumber t) := by
  unfold exponentPart
  simp only [start, if_neg other]

theorem exponentPart_of_end {significand : Nat} {exponent : Int} {s : Bytes}
    (start : (sign s).2 = []) :
    exponentPart significand exponent s = .error (.behind (.ended .value) []) := by
  unfold exponentPart
  simp only [start]

theorem local_exponentPart (significand : Nat) (exponent : Int) :
    Local (exponentPart significand exponent) := by
  intro s rest x h
  cases start : (sign s).2 with
  | nil => rw [exponentPart_of_end start] at h; cases h
  | cons b t =>
    by_cases digit : isDigit b
    · cases found : withExponent? significand exponent (sign s).1 (digits (b :: t)).1 with
      | none =>
        obtain ⟨why, refused, -⟩ := exponentPart_of_none start digit found
        rw [refused] at h; cases h
      | some y =>
        rw [exponentPart_of_some start digit found] at h
        cases h
        obtain ⟨used, split, takes⟩ := sign_takes start
        have first := digits_cons (s := t) digit
        refine ⟨used ++ (digits (b :: t)).1, ?_, fun more same => ?_⟩
        · rw [List.append_assoc, digits_split, split]
        have again : digits (b :: ((digits t).1 ++ more)) = ((digits (b :: t)).1, more) := by
          rw [← List.cons_append, ← first]
          exact digits_takes _ same
        have signed := takes ((digits t).1 ++ more)
        have value : withExponent? significand exponent
            (sign (used ++ b :: ((digits t).1 ++ more))).1
            (digits (b :: ((digits t).1 ++ more))).1 = some x := by
          rw [again, signed]; exact found
        have answer := exponentPart_of_some (by rw [signed]) digit value
        rwa [again, ← List.cons_append, ← first, ← List.append_assoc] at answer
    · rw [exponentPart_of_other start digit] at h; cases h

theorem settled_exponentPart (significand : Nat) (exponent : Int) (s : Bytes) :
    SettledIf (InRange significand exponent) (exponentPart significand exponent) s := by
  intro fault h finished inRange more
  cases start : (sign s).2 with
  | nil => rw [exponentPart_of_end start] at h; cases h; cases finished
  | cons b t =>
    obtain ⟨used, split, takes⟩ := sign_takes start
    have signed : sign (s ++ more) = ((sign s).1, b :: (t ++ more)) := by
      rw [split, List.append_assoc, List.cons_append, takes, ← split]
    by_cases digit : isDigit b
    · cases found : withExponent? significand exponent (sign s).1 (digits (b :: t)).1 with
      | none =>
        obtain ⟨why, refused, large⟩ := exponentPart_of_none start digit found
        obtain rfl : why = fault := Except.error.inj (refused.symm.trans h)
        have still : withExponent? significand exponent (sign (s ++ more)).1 (digits (b :: (t ++ more))).1
            = none := by
          obtain ⟨added, grown⟩ := digits_grow (b :: t) more
          rw [signed, ← List.cons_append, grown]
          exact withExponent?_append (inRange large) found added
        obtain ⟨again, refused, -⟩ := exponentPart_of_none (by rw [signed]) digit still
        exact ⟨again, refused⟩
      | some x => rw [exponentPart_of_some start digit found] at h; cases h
    · exact ⟨_, exponentPart_of_other (by rw [signed]) digit⟩

/-! ## Fractions -/

theorem local_tail (significand : Nat) (exponent : Int) : Local (tail significand exponent) := by
  intro s rest x h
  unfold tail at h
  split at h
  · rename_i b s
    split at h
    · rename_i mark
      obtain ⟨used, rfl, takes⟩ := local_exponentPart significand exponent h
      refine ⟨b :: used, rfl, fun more same => ?_⟩
      rw [List.cons_append, tail, if_pos mark, takes more same]
    · rename_i mark
      obtain ⟨found, rfl⟩ := scale?_of_scaled h
      refine ⟨[], rfl, fun more same => ?_⟩
      obtain ⟨more, rfl⟩ := List.head?_eq_some_iff.mp same
      rw [List.nil_append, tail, if_neg mark, scaled_eq_ok _ found]
  · obtain ⟨found, rfl⟩ := scale?_of_scaled h
    refine ⟨[], rfl, fun more same => ?_⟩
    obtain rfl := List.head?_eq_none_iff.mp same
    exact scaled_eq_ok _ found

theorem settled_tail (significand : Nat) (exponent : Int) (s : Bytes) :
    SettledIf (InRange significand exponent) (tail significand exponent) s := by
  intro fault h finished inRange more
  unfold tail at h
  split at h
  · rename_i b s
    split at h
    · rename_i mark
      obtain ⟨why, still⟩ := settled_exponentPart _ _ s h finished inRange more
      exact ⟨why, by rw [List.cons_append, tail, if_pos mark, still]⟩
    · exact absurd h (scaled_ne_error inRange)
  · exact absurd h (scaled_ne_error inRange)

/-- The number that the digits of a fraction make up with what stands before the point. -/
theorem fractionPart_of_digits {significand : Nat} {exponent : Int} {s : Bytes}
    (some : (digits s).1 ≠ []) :
    fractionPart significand exponent s =
      tail (gather maxSignificand significand (digits s).1).1
        (exponent - ((digits s).1.length
          - (gather maxSignificand significand (digits s).1).2.length : Nat)) (digits s).2 := by
  unfold fractionPart
  dsimp only
  split
  · rename_i none _; exact absurd none some
  · rename_i none _; exact absurd none some
  · rfl

theorem fractionPart_of_none {significand : Nat} {exponent : Int} {s : Bytes}
    (none : (digits s).1 = []) :
    ∃ why, fractionPart significand exponent s = .error why := by
  unfold fractionPart
  dsimp only
  split
  · exact ⟨_, rfl⟩
  · exact ⟨_, rfl⟩
  · rename_i some; rw [none] at some; cases some

theorem local_fractionPart (significand : Nat) (exponent : Int) :
    Local (fractionPart significand exponent) := by
  intro s rest x h
  by_cases none : (digits s).1 = []
  · obtain ⟨why, refused⟩ := fractionPart_of_none none
    rw [refused] at h; cases h
  · rw [fractionPart_of_digits none] at h
    obtain ⟨used, split, takes⟩ := local_tail _ _ h
    refine ⟨(digits s).1 ++ used, ?_, fun more same => ?_⟩
    · rw [List.append_assoc, ← split, digits_split]
    have again : digits ((digits s).1 ++ (used ++ more)) = ((digits s).1, used ++ more) := by
      refine digits_takes s ?_
      rw [split]
      exact head?_append_congr same
    rw [List.append_assoc, fractionPart_of_digits (by rw [again]; exact none), again]
    exact takes more same

theorem settled_fractionPart (significand : Nat) (exponent : Int) (s : Bytes) :
    SettledIf (InRange significand exponent) (fractionPart significand exponent) s := by
  intro fault h finished inRange more
  by_cases none : (digits s).1 = []
  · have further : (digits s).2 ≠ [] := by
      intro ends
      unfold fractionPart at h
      simp only [none, ends] at h
      cases h; cases finished
    refine fractionPart_of_none ?_
    rw [digits_further further, none]
  · rw [fractionPart_of_digits none] at h
    have inRange (large : fault.TooLarge) := inRange_gather maxSignificand (inRange large)
      fun d (mem : d ∈ (digits s).1) => isDigit_of_mem_digits mem
    by_cases ends : (digits s).2 = []
    · rw [ends] at h
      exact absurd h (scaled_ne_error inRange)
    · have further := digits_further ends more
      obtain ⟨why, still⟩ := settled_tail _ _ _ h finished inRange more
      refine ⟨why, ?_⟩
      rw [fractionPart_of_digits (by rw [further]; exact none), further]
      exact still

/-! ## Numbers -/

theorem local_continued (negative : Bool) (significand excess : Nat) :
    Local (continued negative significand excess) := by
  intro s rest n h
  unfold continued at h
  split at h
  · rename_i b s
    split at h
    · rename_i point
      obtain ⟨used, rfl, takes⟩ := (local_fractionPart significand excess).map (signed negative) h
      refine ⟨b :: used, rfl, fun more same => ?_⟩
      rw [List.cons_append, continued, if_pos point]
      exact takes more same
    rename_i point
    split at h
    · rename_i mark
      obtain ⟨used, rfl, takes⟩ := (local_exponentPart significand excess).map (signed negative) h
      refine ⟨b :: used, rfl, fun more same => ?_⟩
      rw [List.cons_append, continued, if_neg point, if_pos mark]
      exact takes more same
    rename_i mark
    split at h
    · rename_i integral
      cases h
      refine ⟨[], rfl, fun more same => ?_⟩
      obtain ⟨more, rfl⟩ := List.head?_eq_some_iff.mp same
      rw [List.nil_append, continued, if_neg point, if_neg mark, if_pos integral]
    · rename_i scaledUp
      obtain ⟨x, answer, rfl⟩ := Answer.map_ok h
      obtain ⟨found, rfl⟩ := scale?_of_scaled answer
      refine ⟨[], rfl, fun more same => ?_⟩
      obtain ⟨more, rfl⟩ := List.head?_eq_some_iff.mp same
      rw [List.nil_append, continued, if_neg point, if_neg mark, if_neg scaledUp]
      exact map_eq_ok (scaled_eq_ok _ found)
  · split at h
    · rename_i integral
      cases h
      refine ⟨[], rfl, fun more same => ?_⟩
      obtain rfl := List.head?_eq_none_iff.mp same
      rw [List.nil_append, continued, if_pos integral]
    · rename_i scaledUp
      obtain ⟨x, answer, rfl⟩ := Answer.map_ok h
      obtain ⟨found, rfl⟩ := scale?_of_scaled answer
      refine ⟨[], rfl, fun more same => ?_⟩
      obtain rfl := List.head?_eq_none_iff.mp same
      rw [List.nil_append, continued, if_neg scaledUp]
      exact map_eq_ok (scaled_eq_ok _ found)

theorem settled_continued (negative : Bool) (significand excess : Nat) (s : Bytes) :
    SettledIf (InRange significand excess) (continued negative significand excess) s := by
  intro fault h finished inRange more
  unfold continued at h
  split at h
  · rename_i b s
    split at h
    · rename_i point
      obtain ⟨why, still⟩ :=
        (settled_fractionPart _ _ s).map (signed negative) h finished inRange more
      exact ⟨why, by rw [List.cons_append, continued, if_pos point]; exact still⟩
    rename_i point
    split at h
    · rename_i mark
      obtain ⟨why, still⟩ :=
        (settled_exponentPart _ _ s).map (signed negative) h finished inRange more
      exact ⟨why, by rw [List.cons_append, continued, if_neg point, if_pos mark]; exact still⟩
    split at h
    · cases h
    · exact absurd (map_eq_error.mp h) (scaled_ne_error inRange)
  · split at h
    · cases h
    · exact absurd (map_eq_error.mp h) (scaled_ne_error inRange)

/-- Integer digits, of which there are at most 308, are in range. -/
theorem inRange_digits {s : Bytes} (short : ShortRuns s) :
    InRange (gather maxSignificand 0 (digits s).1).1
      (gather maxSignificand 0 (digits s).1).2.length := by
  have all : ∀ d ∈ (digits s).1, isDigit d := fun d => isDigit_of_mem_digits
  have run : (digits s).1.length < 309 :=
    short _ (List.takeWhile_prefix isDigit).isInfix all
  have left := gather_length_le maxSignificand 0 (digits s).1
  have start : InRange 0 (digits s).1.length := inRange_zero (by unfold largestPower; omega)
  refine (inRange_gather maxSignificand start all).mono ?_
  omega

theorem unsigned_zero {negative : Bool} {s : Bytes} (h : ∀ d ∈ s.head?, ¬ isDigit d) :
    unsigned negative (0x30 :: s) = continued negative 0 0 s := by
  unfold unsigned
  cases s with
  | nil => rfl
  | cons d s => simp only [if_true, if_neg (h d rfl)]

theorem unsigned_leadingZero {negative : Bool} {s : Bytes} {d : UInt8} (h : isDigit d) :
    unsigned negative (0x30 :: d :: s) = .error (.peeked .invalidNumber (d :: s)) := by
  unfold unsigned
  simp only [if_true, if_pos h]

theorem unsigned_digits {negative : Bool} {s : Bytes} {b : UInt8} (nonzero : b ≠ 0x30)
    (digit : isDigit b) :
    unsigned negative (b :: s) =
      continued negative (gather maxSignificand 0 (digits (b :: s)).1).1
        (gather maxSignificand 0 (digits (b :: s)).1).2.length (digits (b :: s)).2 := by
  unfold unsigned
  simp only [if_neg nonzero, if_pos digit]

theorem unsigned_other {negative : Bool} {s : Bytes} {b : UInt8} (digit : ¬ isDigit b) :
    unsigned negative (b :: s) = .error (.behind .invalidNumber s) := by
  have nonzero : b ≠ 0x30 := by rintro rfl; exact digit (by decide)
  unfold unsigned
  simp only [if_neg nonzero, if_neg digit]

theorem local_unsigned (negative : Bool) : Local (unsigned negative) := by
  intro s rest n h
  cases s with
  | nil => cases h
  | cons b s =>
    by_cases zero : b = 0x30
    · subst zero
      by_cases leading : ∀ d ∈ s.head?, ¬ isDigit d
      · rw [unsigned_zero leading] at h
        obtain ⟨used, rfl, takes⟩ := local_continued negative 0 0 h
        refine ⟨0x30 :: used, rfl, fun more same => ?_⟩
        rw [List.cons_append, unsigned_zero (by rwa [head?_append_congr same])]
        exact takes more same
      · cases s with
        | nil => exact absurd (fun _ mem => by cases mem) leading
        | cons d s =>
          by_cases digit : isDigit d
          · rw [unsigned_leadingZero digit] at h; cases h
          · exact absurd (fun c mem => by cases mem; exact digit) leading
    by_cases digit : isDigit b
    · rw [unsigned_digits zero digit] at h
      obtain ⟨used, split, takes⟩ := local_continued _ _ _ h
      have first := digits_cons (s := s) digit
      refine ⟨(digits (b :: s)).1 ++ used, ?_, fun more same => ?_⟩
      · rw [List.append_assoc, ← split, digits_split]
      have again : digits ((digits (b :: s)).1 ++ (used ++ more))
          = ((digits (b :: s)).1, used ++ more) := by
        refine digits_takes (b :: s) ?_
        rw [split]
        exact head?_append_congr same
      have answer := takes more same
      rw [first, List.cons_append] at again
      rw [List.append_assoc, first, List.cons_append, unsigned_digits zero digit, again, ← first]
      exact answer
    · rw [unsigned_other digit] at h; cases h

theorem settled_unsigned (negative : Bool) (s : Bytes) :
    SettledIf (ShortRuns s) (unsigned negative) s := by
  intro fault h finished short more
  cases s with
  | nil => cases h; cases finished
  | cons b s =>
    by_cases zero : b = 0x30
    · subst zero
      cases s with
      | nil =>
        rw [unsigned_zero (fun _ mem => by cases mem)] at h
        cases h
      | cons d s =>
        by_cases digit : isDigit d
        · exact ⟨_, unsigned_leadingZero digit⟩
        · have leading (t : Bytes) : ∀ c ∈ (d :: t).head?, ¬ isDigit c :=
            fun c mem => by cases mem; exact digit
          rw [unsigned_zero (leading s)] at h
          obtain ⟨why, still⟩ := settled_continued _ _ _ (d :: s) h finished
            (fun _ => inRange_zero (Int.zero_le_ofNat _)) more
          exact ⟨why, by rw [List.cons_append, List.cons_append, unsigned_zero (leading _)]; exact still⟩
    by_cases digit : isDigit b
    · rw [unsigned_digits zero digit] at h
      have inRange (large : fault.TooLarge) := inRange_digits (short large)
      by_cases ends : (digits (b :: s)).2 = []
      · rw [ends, continued] at h
        split at h
        · cases h
        · exact absurd (map_eq_error.mp h) (scaled_ne_error inRange)
      · have further := digits_further ends more
        obtain ⟨why, still⟩ := settled_continued _ _ _ _ h finished inRange more
        refine ⟨why, ?_⟩
        rw [List.cons_append] at further ⊢
        rw [unsigned_digits zero digit, further]
        exact still
    · exact ⟨_, unsigned_other digit⟩

theorem local_read : Local read := by
  intro s rest n h
  cases s with
  | nil => cases h
  | cons b s =>
    by_cases minus : b = 0x2D
    · rw [read, if_pos minus] at h
      obtain ⟨used, rfl, takes⟩ := local_unsigned true h
      refine ⟨b :: used, rfl, fun more same => ?_⟩
      rw [List.cons_append, read, if_pos minus]
      exact takes more same
    · rw [read, if_neg minus] at h
      have consumed := unsigned_length h
      obtain ⟨used, split, takes⟩ := local_unsigned false h
      refine ⟨used, split, fun more same => ?_⟩
      cases used with
      | nil => rw [split] at consumed; exact absurd consumed (lt_irrefl _)
      | cons c used =>
        obtain ⟨rfl, -⟩ := List.cons.inj split
        rw [List.cons_append, read, if_neg minus]
        exact takes more same

theorem settled_read (s : Bytes) : SettledIf (ShortRuns s) read s := by
  intro fault h finished short more
  cases s with
  | nil => cases h; cases finished
  | cons b s =>
    rw [List.cons_append, read]
    by_cases minus : b = 0x2D
    · rw [read, if_pos minus] at h
      rw [if_pos minus]
      have short (large : fault.TooLarge) : ShortRuns s :=
        ShortRuns.of_infix (short large) (List.suffix_cons b s).isInfix
      exact settled_unsigned true s h finished short more
    · rw [read, if_neg minus] at h
      rw [if_neg minus]
      exact settled_unsigned false (b :: s) h finished short more

end Overseer.Json.Numeral
