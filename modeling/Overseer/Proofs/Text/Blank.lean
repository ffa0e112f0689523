-- SUMMARY: Laws of trimming, of words and of lines.
import Mathlib.Data.List.DropRight
import Overseer.Text.Blank

/-!
# Blanks

Trimmed texts are those that trimming leaves alone. Words are found one behind the other, and so are lines;
what a text is cut into does not hold what it was cut at.
-/

namespace Overseer

namespace Blank

variable {b c : Char} {cs ds w l word line : List Char} {found : List (List Char)}

-- ---------------------------------------------------------------------------
-- Trimming
-- ---------------------------------------------------------------------------

/-- There is no blank at either end. -/
structure Trimmed (cs : List Char) : Prop where
  first : ∀ c ∈ cs.head?, isBlank c = false
  last : ∀ c ∈ cs.getLast?, isBlank c = false

theorem trimmed_nil : Trimmed [] where
  first c none := absurd none (Option.not_mem_none c)
  last c none := absurd none (Option.not_mem_none c)

theorem prefix_trim (cs : List Char) : trim cs <+: cs.dropWhile isBlank :=
  List.rdropWhile_prefix isBlank (cs.dropWhile isBlank)

theorem infix_trim (cs : List Char) : trim cs <:+: cs :=
  (prefix_trim cs).isInfix.trans (List.dropWhile_suffix isBlank).isInfix

theorem trimmed_trim (cs : List Char) : Trimmed (trim cs) where
  first c head := by
    obtain ⟨tail, whole⟩ := prefix_trim cs
    have first := List.head?_dropWhile_not isBlank cs
    rwa [← whole, List.head?_append, head, Option.some_or] at first
  last c last := by
    have some : trim cs ≠ [] := by
      intro none
      rw [none] at last
      exact nomatch last
    have ended := List.rdropWhile_last_not isBlank (cs.dropWhile isBlank) some
    rw [List.getLast?_eq_some_getLast some] at last
    obtain rfl := Option.some.inj last
    exact Bool.eq_false_iff.mpr ended

theorem Trimmed.trim_eq (trimmed : Trimmed cs) : trim cs = cs := by
  have front : cs.dropWhile isBlank = cs := by
    cases cs with
    | nil => rfl
    | cons c cs => exact List.dropWhile_cons_of_neg (Bool.eq_false_iff.mp (trimmed.first c rfl))
  change (cs.dropWhile isBlank).rdropWhile isBlank = cs
  rw [front, List.rdropWhile_eq_self_iff]
  intro some
  exact Bool.eq_false_iff.mp (trimmed.last _ (List.getLast?_eq_some_getLast some))

theorem trim_cons (blank : isBlank b) : trim (b :: cs) = trim cs := by
  simp only [trim, List.dropWhile_cons_of_pos blank]

/-- Without the blanks around it, `cs` is `ds`. -/
structure Stripped (cs ds : List Char) : Prop where
  around : ∃ before after, cs = before ++ ds ++ after ∧ (∀ c ∈ before, isBlank c) ∧ ∀ c ∈ after, isBlank c
  trimmed : Trimmed ds

theorem stripped_trim (cs : List Char) : Stripped cs (trim cs) where
  around := by
    refine ⟨cs.takeWhile isBlank, (cs.dropWhile isBlank).rtakeWhile isBlank, ?_,
      fun _ => List.mem_takeWhile_imp, fun _ => List.mem_rtakeWhile_imp⟩
    change cs = _ ++ (cs.dropWhile isBlank).rdropWhile isBlank ++ _
    rw [List.append_assoc, List.rdropWhile_append_rtakeWhile, List.takeWhile_append_dropWhile]
  trimmed := trimmed_trim cs

theorem trim_append_left (blank : ∀ c ∈ ds, isBlank c) : trim (ds ++ cs) = trim cs := by
  simp only [trim, List.dropWhile_append_of_pos blank]

theorem trim_append_right (blank : ∀ c ∈ ds, isBlank c) : trim (cs ++ ds) = trim cs := by
  have none : ds.dropWhile isBlank = [] := List.dropWhile_eq_nil_iff.mpr blank
  rw [trim, List.dropWhile_append, none]
  split
  · rename_i all
    rw [trim, List.isEmpty_iff.mp all]
  · have behind : ∀ c ∈ ds.reverse, isBlank c := fun c mem => blank c (List.mem_reverse.mp mem)
    rw [trim, List.reverse_append, List.dropWhile_append_of_pos behind]

theorem stripped_iff : Stripped cs ds ↔ ds = trim cs := by
  constructor
  · rintro ⟨⟨before, after, rfl, blank, blankAfter⟩, trimmed⟩
    rw [trim_append_right blankAfter, trim_append_left blank, trimmed.trim_eq]
  · rintro rfl
    exact stripped_trim cs

-- ---------------------------------------------------------------------------
-- Words
-- ---------------------------------------------------------------------------

/-- The characters can make a word. -/
structure Solid (w : List Char) : Prop where
  some : w ≠ []
  unbroken : ∀ c ∈ w, isBlank c = false

theorem solid_iff_all : Solid w ↔ w ≠ [] ∧ w.all fun c => !isBlank c := by
  simp only [List.all_eq_true, Bool.not_eq_true']
  exact ⟨fun solid => ⟨solid.some, solid.unbroken⟩, fun h => ⟨h.1, h.2⟩⟩

instance (w : List Char) : Decidable (Solid w) := decidable_of_iff _ solid_iff_all.symm

theorem Solid.feedless (solid : Solid w) : '\n' ∉ w :=
  fun feed => absurd (solid.unbroken '\n' feed) (by decide)

theorem wordsFrom_found (found : List (List Char)) (word cs : List Char) :
    wordsFrom found word cs = found.reverse ++ wordsFrom [] word cs := by
  induction cs generalizing found word with
  | nil =>
    simp only [wordsFrom]
    split <;> simp
  | cons c cs ih =>
    simp only [wordsFrom]
    split
    · rw [ih (if word.isEmpty then found else word.reverse :: found),
        ih (if word.isEmpty then [] else [word.reverse])]
      split <;> simp
    · exact ih found (c :: word)

theorem wordsFrom_unbroken (unbroken : ∀ c ∈ w, isBlank c = false) :
    wordsFrom found word (w ++ cs) = wordsFrom found (w.reverse ++ word) cs := by
  induction w generalizing word with
  | nil => rfl
  | cons c w ih =>
    obtain ⟨solid, others⟩ := List.forall_mem_cons.mp unbroken
    rw [List.cons_append, wordsFrom, if_neg (Bool.eq_false_iff.mp solid), ih others, List.reverse_cons,
      List.append_assoc, List.singleton_append]

/-- A word alone. -/
theorem words_solid (solid : Solid w) : words w = [w] := by
  have read : wordsFrom [] [] (w ++ []) = wordsFrom [] (w.reverse ++ []) [] :=
    wordsFrom_unbroken solid.unbroken
  rw [List.append_nil, List.append_nil] at read
  simp [words, read, wordsFrom, solid.some]

/-- A word with a blank behind it. -/
theorem words_cons (solid : Solid w) (blank : isBlank b) : words (w ++ b :: cs) = w :: words cs := by
  rw [words, wordsFrom_unbroken solid.unbroken, List.append_nil, wordsFrom, if_pos blank, wordsFrom_found]
  simp [solid.some, words]

theorem solid_of_mem_wordsFrom (solid : ∀ v ∈ found, Solid v) (unbroken : ∀ c ∈ word, isBlank c = false)
    (mem : w ∈ wordsFrom found word cs) : Solid w := by
  have closed : ∀ v ∈ (if word.isEmpty then found else word.reverse :: found), Solid v := by
    split
    · exact solid
    · rename_i some
      have last : Solid word.reverse := {
        some := by simpa using some
        unbroken := fun c mem => unbroken c (List.mem_reverse.mp mem) }
      exact List.forall_mem_cons.mpr ⟨last, solid⟩
  induction cs generalizing found word with
  | nil => exact closed w (List.mem_reverse.mp mem)
  | cons c cs ih =>
    rw [wordsFrom] at mem
    split at mem
    · exact ih closed (List.forall_mem_nil _) mem closed
    · rename_i solidly
      have longer : ∀ d ∈ c :: word, isBlank d = false :=
        List.forall_mem_cons.mpr ⟨Bool.eq_false_iff.mpr solidly, unbroken⟩
      refine ih solid longer mem (List.forall_mem_cons.mpr ⟨⟨?_, ?_⟩, solid⟩)
      · simp
      · exact fun d mem => longer d (List.mem_reverse.mp mem)

theorem solid_of_mem_words (mem : w ∈ words cs) : Solid w :=
  solid_of_mem_wordsFrom (List.forall_mem_nil _) (List.forall_mem_nil _) mem

-- ---------------------------------------------------------------------------
-- Lines
-- ---------------------------------------------------------------------------

theorem linesFrom_found (found : List (List Char)) (line cs : List Char) :
    linesFrom found line cs = found.reverse ++ linesFrom [] line cs := by
  induction cs generalizing found line with
  | nil =>
    simp only [linesFrom]
    split <;> simp
  | cons c cs ih =>
    simp only [linesFrom]
    split
    · rw [ih (closeLine line :: found), ih [closeLine line]]
      simp
    · exact ih found (c :: line)

theorem linesFrom_unbroken (unbroken : '\n' ∉ l) :
    linesFrom found line (l ++ cs) = linesFrom found (l.reverse ++ line) cs := by
  induction l generalizing line with
  | nil => rfl
  | cons c l ih =>
    have other : c ≠ '\n' := fun feed => unbroken (feed ▸ List.mem_cons_self)
    rw [List.cons_append, linesFrom, if_neg other, ih (mt (List.mem_cons_of_mem c) unbroken),
      List.reverse_cons, List.append_assoc, List.singleton_append]

/-- The first line of a text. -/
theorem lines_cons (unbroken : '\n' ∉ l) :
    lines (l ++ '\n' :: cs) = closeLine l.reverse :: lines cs := by
  rw [lines, linesFrom_unbroken unbroken, List.append_nil, linesFrom, if_pos rfl, linesFrom_found]
  rfl

theorem linesFrom_append (found : List (List Char)) (line cs ds : List Char) :
    linesFrom found line (cs ++ '\n' :: ds) = linesFrom found line (cs ++ ['\n']) ++ lines ds := by
  induction cs generalizing found line with
  | nil =>
    rw [List.nil_append, List.nil_append, linesFrom, if_pos rfl, linesFrom_found, linesFrom, if_pos rfl]
    simp [lines, linesFrom]
  | cons c cs ih =>
    rw [List.cons_append, List.cons_append, linesFrom, linesFrom]
    split
    · exact ih _ _
    · exact ih _ _

/-- The lines of two texts, the first of which ends with a line feed. -/
theorem lines_append (cs ds : List Char) :
    lines (cs ++ '\n' :: ds) = lines (cs ++ ['\n']) ++ lines ds :=
  linesFrom_append [] [] cs ds

/-- A carriage return at the end is the only thing that a line loses. -/
theorem closeLine_reverse (l : List Char) :
    closeLine l.reverse = l ∨ l = closeLine l.reverse ++ ['\r'] := by
  unfold closeLine
  split
  · rename_i rest reversed
    right
    rw [← List.reverse_cons, ← reversed, List.reverse_reverse]
  · left
    exact List.reverse_reverse l

theorem prefix_closeLine (l : List Char) : closeLine l.reverse <+: l := by
  obtain same | longer := closeLine_reverse l
  · exact ⟨[], by rw [same, List.append_nil]⟩
  · exact ⟨['\r'], longer.symm⟩

theorem unbroken_of_mem_linesFrom (unbroken : ∀ k ∈ found, '\n' ∉ k) (unfinished : '\n' ∉ line)
    (mem : l ∈ linesFrom found line cs) : '\n' ∉ l := by
  induction cs generalizing found line with
  | nil =>
    rw [linesFrom, List.mem_reverse] at mem
    split at mem
    · exact unbroken l mem
    · obtain rfl | before := List.mem_cons.mp mem
      · exact mt List.mem_reverse.mp unfinished
      · exact unbroken l before
  | cons c cs ih =>
    rw [linesFrom] at mem
    split at mem
    · refine ih (List.forall_mem_cons.mpr ⟨fun feed => unfinished ?_, unbroken⟩) List.not_mem_nil mem
      have inside := (prefix_closeLine line.reverse).subset
      rw [List.reverse_reverse] at inside
      exact List.mem_reverse.mp (inside feed)
    · rename_i other
      refine ih unbroken (fun feed => ?_) mem
      obtain rfl | before := List.mem_cons.mp feed
      · exact other rfl
      · exact unfinished before

theorem unbroken_of_mem_lines (mem : l ∈ lines cs) : '\n' ∉ l :=
  unbroken_of_mem_linesFrom (List.forall_mem_nil _) List.not_mem_nil mem

theorem linesFrom_ne_nil (some : found ≠ [] ∨ line ≠ [] ∨ cs ≠ []) : linesFrom found line cs ≠ [] := by
  induction cs generalizing found line with
  | nil =>
    rw [linesFrom, Ne, List.reverse_eq_nil_iff]
    split
    · rename_i closed
      obtain found | line | none := some
      · exact found
      · exact absurd (List.isEmpty_iff.mp closed) line
      · exact absurd rfl none
    · exact List.cons_ne_nil _ _
  | cons c cs ih =>
    rw [linesFrom]
    split
    · exact ih (.inl (List.cons_ne_nil _ _))
    · exact ih (.inr (.inl (List.cons_ne_nil _ _)))

theorem lines_ne_nil (some : cs ≠ []) : lines cs ≠ [] := linesFrom_ne_nil (.inr (.inr some))

end Blank

namespace Text

theorem toList_trim (s : String) : (trim s).toList = Blank.trim s.toList := String.toList_ofList

/-- Without the blanks around it, `s` is `t`. -/
def Stripped (s t : String) : Prop := Blank.Stripped s.toList t.toList

theorem stripped_iff {s t : String} : Stripped s t ↔ t = trim s := by
  rw [Stripped, Blank.stripped_iff, ← toList_trim, String.toList_inj]

/-- What is left of a text behind its head. -/
theorem strip?_eq_some {head s rest : String} : strip? head s = some rest ↔ s = head ++ rest := by
  unfold strip?
  constructor
  · intro stripped
    split at stripped
    · rename_i starts
      obtain ⟨tail, whole⟩ := String.startsWith_string_iff.mp starts
      obtain rfl := Option.some.inj stripped
      apply String.toList_inj.mp
      rw [← whole, String.toList_append, String.toList_ofList, ← String.length_toList, List.drop_left]
    · exact nomatch stripped
  · rintro rfl
    rw [if_pos (String.startsWith_string_iff.mpr ?_), String.toList_append, ← String.length_toList,
      List.drop_left, String.ofList_toList]
    rw [String.toList_append]
    exact List.prefix_append _ _

theorem lines_append (before after : String) :
    lines (before ++ "\n" ++ after) = lines (before ++ "\n") ++ lines after := by
  have feed : "\n".toList = ['\n'] := rfl
  simp only [lines, String.toList_append, feed, List.append_assoc, List.singleton_append]
  rw [← List.map_append, ← Blank.lines_append]

/-- A line feed ends a line. -/
theorem lines_feed (before : String) : ∃ first rest, lines (before ++ "\n") = first :: rest := by
  apply List.exists_cons_of_ne_nil
  rw [lines, Ne, List.map_eq_nil_iff, String.toList_append]
  exact Blank.lines_ne_nil (List.append_ne_nil_of_right_ne_nil _ (by decide))

/-- A line in front of others; it may lose a carriage return. -/
theorem lines_line {line : String} (unbroken : '\n' ∉ line.toList) (after : String) :
    ∃ closed, (closed = line ∨ line = closed ++ "\r") ∧
      lines (line ++ "\n" ++ after) = closed :: lines after := by
  refine ⟨String.ofList (Blank.closeLine line.toList.reverse), ?_, ?_⟩
  · obtain same | longer := Blank.closeLine_reverse line.toList
    · left
      rw [same, String.ofList_toList]
    · right
      apply String.toList_inj.mp
      rw [String.toList_append, String.toList_ofList]
      exact longer
  · have feed : "\n".toList = ['\n'] := rfl
    simp only [lines, String.toList_append, feed, List.append_assoc, List.singleton_append]
    rw [← List.map_cons, ← Blank.lines_cons unbroken]

end Text

end Overseer
