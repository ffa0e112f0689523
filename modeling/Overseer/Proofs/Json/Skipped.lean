-- SUMMARY: Every text of a value is passed over.
import Mathlib.Tactic.SplitIfs
import Overseer.Json.Skipped
import Overseer.Proofs.Json.Layout

/-!
# Passing over values

Passing over has rules of its own for strings and numbers, which admit more than reading does; whatever can
be read can be passed over. So every text of a value is passed over, in whatever frames it stands.
-/

namespace Overseer.Json

open Numeral (Ends)

variable {s t b rest more octets found : Bytes} {d : UInt8}

-- ---------------------------------------------------------------------------
-- Strings
-- ---------------------------------------------------------------------------

namespace Text

theorem pass_quote (s : Bytes) : pass (0x22 :: s) = .ok s := by
  rw [pass]
  rfl

theorem pass_backslash (passed : passEscape s = .ok rest) : pass (0x5C :: s) = pass rest := by
  rw [pass, if_neg (by decide), if_pos rfl]
  split
  · rename_i refused
    rw [passed] at refused
    cases refused
  · rename_i same
    rw [passed] at same
    cases same
    rfl

theorem pass_plain (quote : d ≠ 0x22) (slash : d ≠ 0x5C) (control : ¬ d < 0x20) :
    pass (d :: s) = pass s := by
  rw [pass, if_neg quote, if_neg slash, if_neg control]

theorem passEscape_unicode {code : Nat} (read : hexQuad s = .ok (code, rest)) :
    passEscape (0x75 :: s) = .ok rest := by
  rw [passEscape, if_pos rfl, read]

/-- An escape that can be read is passed over, the second half of a pair by itself. -/
theorem pass_escape (read : escape s = .ok (octets, rest)) : pass (0x5C :: s) = pass rest := by
  unfold escape at read
  split at read
  · cases read
  rename_i d s
  split_ifs at read with unicode
  · subst unicode
    split at read
    · cases read
    rename_i code behind quad
    rw [pass_backslash (passEscape_unicode quad)]
    split_ifs at read
    · unfold trailing at read
      split at read
      · cases read
      split_ifs at read with slash
      split at read
      · cases read
      split_ifs at read with mark
      split at read
      · cases read
      rename_i second
      split_ifs at read
      obtain ⟨-, rfl⟩ := Prod.mk.inj (Except.ok.inj read)
      obtain rfl := not_not.mp slash
      obtain rfl := not_not.mp mark
      exact pass_backslash (passEscape_unicode second)
    · obtain ⟨-, rfl⟩ := Prod.mk.inj (Except.ok.inj read)
      rfl
  · split at read
    · rename_i known
      cases read
      apply pass_backslash
      rw [passEscape, if_neg unicode, if_pos (known ▸ rfl)]
    · cases read

theorem pass_of_body (read : body found s = .ok (octets, rest)) : pass s = .ok rest := by
  fun_induction body found s with
  | case1 | case3 | case5 => cases read
  | case2 =>
    cases read
    exact pass_quote _
  | case4 _ _ _ _ escape _ ih => exact (pass_escape escape).trans (ih read)
  | case6 _ _ _ quote slash control ih => exact (pass_plain quote slash control).trans (ih read)

/-- A string that can be read can be passed over. -/
theorem pass_of_read {text : String} (found : read s = .ok (text, rest)) : pass s = .ok rest := by
  unfold read at found
  split at found
  · cases found
  rename_i inner
  split at found
  · cases found
    exact pass_of_body inner
  · cases found

end Text

-- ---------------------------------------------------------------------------
-- Numbers
-- ---------------------------------------------------------------------------

namespace Numeral

variable {significand excess : Nat} {exponent : Int} {x : Binary64} {negative : Bool} {n : Number}

theorem digits_cons_rest (digit : isDigit d) : (digits (d :: s)).2 = (digits s).2 := by
  rw [digits, List.dropWhile_cons_of_pos digit]
  rfl

theorem passExponent_of_read (read : exponentPart significand exponent s = .ok (x, rest)) :
    passExponent s = .ok rest := by
  unfold exponentPart at read
  simp only at read
  unfold passExponent
  split at read
  · cases read
  rename_i d behind _
  by_cases digit : isDigit d
  · rw [if_pos digit, digits_cons_rest digit] at read
    rw [if_pos digit]
    split at read
    · rw [scaled_rest read]
    · split_ifs at read
      cases read
      rfl
  · rw [if_neg digit] at read
    cases read

theorem passTail_of_read (read : tail significand exponent s = .ok (x, rest)) : passTail s = .ok rest := by
  unfold tail at read
  split at read
  · rw [passTail]
    split_ifs at read ⊢ with mark
    · exact passExponent_of_read read
    · rw [scaled_rest read]
  · rw [scaled_rest read]
    rfl

theorem passTail_of_fraction (read : fractionPart significand exponent s = .ok (x, rest)) :
    (digits s).1.isEmpty = false ∧ passTail (digits s).2 = .ok rest := by
  unfold fractionPart at read
  simp only at read
  cases written : (digits s).1 with
  | nil =>
    rw [written] at read
    cases behind : (digits s).2 <;> (rw [behind] at read; cases read)
  | cons d ds =>
    rw [written] at read
    exact ⟨rfl, passTail_of_read read⟩

/-- Where neither fraction nor exponent follows, nothing more is taken. -/
theorem rest_of_integer
    (read : (if excess = 0 then .ok (whole negative significand, s) else
      (scaled significand excess s).map (signed negative)) = .ok (n, rest)) : rest = s := by
  split_ifs at read
  · cases read
    rfl
  · obtain ⟨_, found, -⟩ := Answer.map_ok read
    exact scaled_rest found

theorem passContinued_of_read (read : continued negative significand excess s = .ok (n, rest)) :
    passContinued s = .ok rest := by
  unfold continued at read
  split at read
  · rename_i d behind
    rw [passContinued]
    by_cases point : d = 0x2E
    · rw [if_pos point] at read
      obtain ⟨_, found, -⟩ := Answer.map_ok read
      obtain ⟨some, passed⟩ := passTail_of_fraction found
      simp only [point, if_true, some, Bool.false_eq_true, if_false, passed]
    · rw [if_neg point] at read
      rw [if_neg point, passTail]
      by_cases mark : isExponentMark d
      · rw [if_pos mark] at read
        obtain ⟨_, found, -⟩ := Answer.map_ok read
        rw [if_pos mark, passExponent_of_read found]
      · rw [if_neg mark] at read
        rw [if_neg mark, rest_of_integer read]
  · rw [rest_of_integer read]
    rfl

theorem passUnsigned_of_read (read : unsigned negative s = .ok (n, rest)) : passUnsigned s = .ok rest := by
  unfold unsigned at read
  split at read
  · cases read
  rename_i d behind
  rw [passUnsigned.eq_def]
  dsimp only
  by_cases zero : d = 0x30
  · rw [if_pos zero] at read ⊢
    cases behind with
    | nil => exact passContinued_of_read read
    | cons e t =>
      simp only at read ⊢
      split_ifs at read ⊢
      exact passContinued_of_read read
  · rw [if_neg zero] at read ⊢
    split_ifs at read ⊢ with digit
    rw [← digits_cons_rest digit]
    exact passContinued_of_read read

/-- A number that can be read can be passed over. -/
theorem pass_of_read (read : Numeral.read s = .ok (n, rest)) : pass s = .ok rest := by
  unfold Numeral.read at read
  split at read
  · cases read
  rename_i d behind
  rw [pass]
  split_ifs at read ⊢
  · exact passUnsigned_of_read read
  · exact passUnsigned_of_read read

end Numeral

-- ---------------------------------------------------------------------------
-- Frames
-- ---------------------------------------------------------------------------

namespace Skipped

variable {frame : Frame} {outer stack : List Frame} {start : Bytes} {v : Value}

/-- In front of a value. -/
theorem pass_value (front : skipBlanks t = d :: s) :
    pass .value stack t =
      match Frame.opening d with
      | some frame => pass .opened (frame :: stack) s
      | none =>
        match scalar d s with
        | .error fault => .error fault
        | .ok after => pass .filled stack after := by
  conv_lhs => rw [pass]
  grind

/-- Behind an opening bracket. -/
theorem pass_opened (front : skipBlanks t = d :: s) :
    pass .opened (frame :: outer) t =
      if d = frame.closing then pass .filled outer s
      else
        match enter frame (d :: s) with
        | .error fault => .error fault
        | .ok start => pass .value (frame :: outer) start := by
  conv_lhs => rw [pass]
  grind

/-- Behind an item. -/
theorem pass_filled (front : skipBlanks t = d :: s) :
    pass .filled (frame :: outer) t =
      if d = frame.closing then pass .filled outer s
      else if d = 0x2C then
        match enter frame s with
        | .error fault => .error fault
        | .ok start => pass .value (frame :: outer) start
      else .error (.peeked frame.expectedComma (d :: s)) := by
  conv_lhs => rw [pass]
  grind

theorem solid_of_opening (opens : Frame.opening d = some frame) : ¬ isBlank d := by
  unfold Frame.opening at opens
  split_ifs at opens with bracket brace
  · exact bracket ▸ by decide
  · exact brace ▸ by decide

theorem Frame.closing_cases (frame : Frame) : frame.closing = 0x5D ∨ frame.closing = 0x7D := by
  cases frame with
  | list => exact .inl rfl
  | object => exact .inr rfl

theorem solid_closing (frame : Frame) : ¬ isBlank frame.closing := by
  cases frame with
  | list | object => decide

-- ---------------------------------------------------------------------------
-- Values
-- ---------------------------------------------------------------------------

/-- The text is passed over wherever a value is expected. -/
structure Passed (t : Bytes) : Prop where
  starts : ∃ d s, t = d :: s ∧ ¬ isBlank d ∧ d ≠ 0x5D
  pass : ∀ stack ⦃b more⦄, Blanks b → Ends more →
    pass .value stack (b ++ (t ++ more)) = pass .filled stack more

/-- The text is passed over wherever an item of a frame is expected. -/
structure Item (frame : Frame) (t : Bytes) : Prop where
  starts : ∃ d s, t = d :: s ∧ ¬ isBlank d ∧ d ≠ frame.closing
  pass : ∀ outer ⦃b more⦄, Blanks b → Ends more → ∃ start, enter frame (b ++ (t ++ more)) = .ok start ∧
    pass .value (frame :: outer) start = pass .filled (frame :: outer) more

theorem Passed.item (passed : Passed t) : Item .list t where
  starts := passed.starts
  pass outer _ _ blanks ends := ⟨_, rfl, passed.pass (.list :: outer) blanks ends⟩

theorem item_member {m : String × Value} (member : Member (fun _ t => Passed t) m t) : Item .object t := by
  obtain ⟨name, before, behind, value⟩ := member
  rename_i word v k c e t
  refine ⟨⟨_, _, rfl, by decide, by decide⟩, fun outer b more blanks ends => ?_⟩
  have text : b ++ (0x22 :: (k ++ (c ++ 0x3A :: (e ++ t))) ++ more)
      = b ++ 0x22 :: (k ++ (c ++ 0x3A :: (e ++ (t ++ more)))) := by simp
  have quote : ¬ isBlank 0x22 := by decide
  refine ⟨e ++ (t ++ more), ?_, value.pass _ behind ends⟩
  simp only [text, enter, key, blanks.skip_cons quote, if_true, Text.pass_of_read (name _), before.colon]

theorem pass_series {α : Type} {as : List α} (series : Series (fun _ t => Item frame t) frame.closing as t)
    (more : Bytes) : pass .filled (frame :: outer) (t ++ more) = pass .filled outer more := by
  have comma : (0x2C : UInt8) ≠ frame.closing := by
    cases frame with
    | list | object => decide
  induction series with
  | close blanks =>
    rw [List.append_assoc, List.singleton_append, pass_filled (blanks.skip_cons (solid_closing frame) _),
      if_pos rfl]
  | @more _ _ b c t u before behind first others ih =>
    obtain ⟨start, entered, passed⟩ := first.pass outer behind (others.ends frame.closing_cases more)
    have text : b ++ 0x2C :: (c ++ (t ++ u)) ++ more = b ++ 0x2C :: (c ++ (t ++ (u ++ more))) := by simp
    rw [text, pass_filled (before.skip_cons (by decide) _), if_neg comma, if_pos rfl, entered]
    exact passed.trans ih

theorem pass_enclosed {α : Type} {as : List α}
    (enclosed : Enclosed (fun _ t => Item frame t) frame.closing as t) (more : Bytes) :
    pass .opened (frame :: outer) (t ++ more) = pass .filled outer more := by
  cases enclosed with
  | empty blanks =>
    rw [List.append_assoc, List.singleton_append, pass_opened (blanks.skip_cons (solid_closing frame) _),
      if_pos rfl]
  | @items _ _ b t u before first others =>
    obtain ⟨d, s, rfl, solid, other⟩ := first.starts
    obtain ⟨start, entered, passed⟩ := first.pass outer .nil (others.ends frame.closing_cases more)
    have text : b ++ (d :: s ++ u) ++ more = b ++ d :: (s ++ (u ++ more)) := by simp
    rw [text, pass_opened (before.skip_cons solid _), if_neg other]
    change enter frame (d :: (s ++ (u ++ more))) = .ok start at entered
    rw [entered]
    exact passed.trans (pass_series others more)

/-- A list or an object is passed over if what is in it is. -/
theorem Passed.enclosed {α : Type} {as : List α} (opens : Frame.opening d = some frame)
    (enclosed : Enclosed (fun _ t => Item frame t) frame.closing as t) : Passed (d :: t) where
  starts := by
    refine ⟨d, t, rfl, solid_of_opening opens, ?_⟩
    rintro rfl
    cases opens
  pass stack b more blanks _ := by
    rw [List.cons_append, pass_value (blanks.skip_cons (solid_of_opening opens) _), opens]
    exact pass_enclosed enclosed more

/-- A value that is no list and no object is passed over at once. -/
theorem Passed.scalar (solid : ¬ isBlank d) (other : d ≠ 0x5D) (plain : Frame.opening d = none)
    (passed : ∀ more, Ends more → scalar d (s ++ more) = .ok more) : Passed (d :: s) where
  starts := ⟨d, s, rfl, solid, other⟩
  pass stack b more blanks ends := by
    rw [List.cons_append, pass_value (blanks.skip_cons solid _), plain]
    simp only [passed more ends]

/-- Every text of a value is passed over. -/
theorem passed_of_lays (lays : Lays v t) : Passed t := by
  refine @Lays.nested t v (fun _ t => Passed t) ?null ?bool ?number ?string ?array ?object lays
  case null =>
    apply Passed.scalar (by decide) (by decide) rfl
    intro more _
    have read := (exact_word nullTail).whole more
    simp [scalar, read, Answer.following]
  case bool =>
    rintro (_ | _)
    · apply Passed.scalar (by decide) (by decide) rfl
      intro more _
      have read := (exact_word falseTail).whole more
      simp [scalar, read, Answer.following]
    · apply Passed.scalar (by decide) (by decide) rfl
      intro more _
      have read := (exact_word trueTail).whole more
      simp [scalar, read, Answer.following]
  case number =>
    intro n t read
    obtain ⟨d, s, rfl, number⟩ := startsNumber_of_read (List.append_nil t ▸ read [] nofun)
    have other : ∀ e, startsNumber e = false → d ≠ e := fun e => ne_of_startsNumber number
    have plain : Frame.opening d = none := by
      rw [Frame.opening, if_neg (other _ rfl), if_neg (other _ rfl)]
    apply Passed.scalar (solid_of_startsNumber number) (other _ rfl) plain
    intro more ends
    rw [scalar, if_neg (other _ rfl), if_neg (other _ rfl), if_neg (other _ rfl), if_pos number]
    exact Numeral.pass_of_read (read more ends)
  case string =>
    intro s t spelled
    apply Passed.scalar (by decide) (by decide) rfl
    intro more _
    exact Text.pass_of_read (spelled more)
  case array =>
    intro vs t elements
    exact .enclosed rfl (elements.imp fun _ _ passed => passed.item)
  case object =>
    intro ms t members
    exact .enclosed rfl (members.imp fun _ _ => item_member)

/-- Where nobody asked for it, any value is read as nothing. -/
theorem skipped_lays (lays : Lays v t) (blanks : Blanks b) (ends : Ends more) :
    Reader.skipped.run (b ++ (t ++ more)) = .ok ((), more) := by
  have passed := (passed_of_lays lays).pass [] blanks ends
  have done : pass .filled [] more = .ok more := by rw [pass]
  change read (b ++ (t ++ more)) = .ok ((), more)
  rw [read, passed, done]

end Skipped

end Overseer.Json
