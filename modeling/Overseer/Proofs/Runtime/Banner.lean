-- SUMMARY: What a version banner is read as.
import Overseer.Proofs.Text.Blank
import Overseer.Runtime.Banner

/-!
# Version banners

Reading goes over the later lines with a fold; what it comes to is said here line by line: the release of
the first line, and for either label what the last line with that label says. So a line without a label
adds nothing, wherever it stands.
-/

namespace Overseer.Version

open Blank (Solid Trimmed)

variable {text line label release : String} {rest : List String} {v : Version}

-- ---------------------------------------------------------------------------
-- The first line
-- ---------------------------------------------------------------------------

theorem release?_eq_some :
    release? line = some release ↔
      ∃ name more, Text.words line = name :: "version" :: release :: more := by
  unfold release?
  constructor
  · intro found
    split at found
    · rename_i name word _ more words
      split at found
      · rename_i named
        obtain rfl := Option.some.inj found
        exact ⟨name, more, named ▸ words⟩
      · exact nomatch found
    · exact nomatch found
  · rintro ⟨name, more, words⟩
    rw [words]
    exact if_pos rfl

/-- The first line has at least three words, of which the second is `version` and the third the release. -/
def Headed (text release : String) : Prop :=
  ∃ first rest name more, Text.lines text = first :: rest ∧
    Text.words first = name :: "version" :: release :: more

-- ---------------------------------------------------------------------------
-- The later lines
-- ---------------------------------------------------------------------------

/-- The lines behind the first one. -/
def later (text : String) : List String := (Text.lines text).tail

/-- What the last of the lines with a label says, if there is one. -/
def stated (label : String) (lines : List String) (otherwise : String) : String :=
  match (lines.filterMap (Text.strip? label)).getLast? with
  | some said => Text.trim said
  | none => otherwise

theorem stated_cons (label line : String) (rest : List String) (otherwise : String) :
    stated label (line :: rest) otherwise
      = stated label rest
        (match Text.strip? label line with
        | some said => Text.trim said
        | none => otherwise) := by
  unfold stated
  cases stripped : Text.strip? label line with
  | none => rw [List.filterMap_cons_none stripped]
  | some said =>
    rw [List.filterMap_cons_some stripped, List.getLast?_cons]
    cases (rest.filterMap (Text.strip? label)).getLast? <;> rfl

/-- No line has both labels. -/
theorem labels_apart {commit : String} (first : Text.strip? "commit:" line = some commit) :
    Text.strip? "spec:" line = none := by
  cases second : Text.strip? "spec:" line with
  | none => rfl
  | some spec =>
    have same := (Text.strip?_eq_some.mp first).symm.trans (Text.strip?_eq_some.mp second)
    have chars := congrArg (fun s => s.toList.head?) same
    rw [String.toList_append, String.toList_append] at chars
    exact absurd (Option.some.inj chars) (by decide)

theorem addLine_eq (v : Version) (line : String) :
    addLine v line = {
      runtime := v.runtime
      commit :=
        match Text.strip? "commit:" line with
        | some said => Text.trim said
        | none => v.commit
      spec :=
        match Text.strip? "spec:" line with
        | some said => Text.trim said
        | none => v.spec } := by
  unfold addLine
  cases first : Text.strip? "commit:" line with
  | some commit => rw [labels_apart first]
  | none => cases Text.strip? "spec:" line <;> rfl

theorem foldl_addLine (v : Version) (rest : List String) :
    rest.foldl addLine v
      = ⟨v.runtime, stated "commit:" rest v.commit, stated "spec:" rest v.spec⟩ := by
  induction rest generalizing v with
  | nil => rfl
  | cons line rest ih => rw [List.foldl_cons, ih, addLine_eq, stated_cons, stated_cons]

-- ---------------------------------------------------------------------------
-- The whole banner
-- ---------------------------------------------------------------------------

theorem ofBanner_headed (headed : Headed text release) :
    ofBanner text = ⟨release, stated "commit:" (later text) "", stated "spec:" (later text) ""⟩ := by
  obtain ⟨first, rest, name, more, lines, words⟩ := headed
  simp only [ofBanner, later, lines, release?_eq_some.mpr ⟨name, more, words⟩, List.tail_cons]
  exact foldl_addLine _ rest

theorem ofBanner_unheaded (unheaded : ∀ release, ¬ Headed text release) : ofBanner text = {} := by
  unfold ofBanner
  split
  · rfl
  · rename_i first rest lines
    split
    · rename_i release found
      obtain ⟨name, more, words⟩ := release?_eq_some.mp found
      exact absurd ⟨first, rest, name, more, lines, words⟩ (unheaded release)
    · rfl

/-- The text is a single line. -/
def Unbroken (s : String) : Prop := '\n' ∉ s.toList

/-- A version that says which release it is, in one word, and has nothing around what else it says. -/
structure Sound (v : Version) : Prop where
  runtime : Solid v.runtime.toList
  commit : Trimmed v.commit.toList ∧ Unbroken v.commit
  spec : Trimmed v.spec.toList ∧ Unbroken v.spec

theorem Headed.solid (headed : Headed text release) : Solid release.toList := by
  obtain ⟨first, rest, name, more, -, words⟩ := headed
  have mem : release ∈ Text.words first := by simp [words]
  obtain ⟨word, found, rfl⟩ := List.mem_map.mp mem
  rw [String.toList_ofList]
  exact Blank.solid_of_mem_words found

theorem unbroken_of_mem_later (mem : line ∈ later text) : Unbroken line := by
  obtain ⟨chars, found, rfl⟩ := List.mem_map.mp (List.mem_of_mem_tail mem)
  rw [Unbroken, String.toList_ofList]
  exact Blank.unbroken_of_mem_lines found

theorem stated_clean (label : String) (unbroken : ∀ line ∈ rest, Unbroken line) :
    Trimmed (stated label rest "").toList ∧ Unbroken (stated label rest "") := by
  unfold stated
  split
  · rename_i said last
    obtain ⟨line, mem, stripped⟩ := List.mem_filterMap.mp (List.mem_of_getLast? last)
    rw [Unbroken, Text.toList_trim]
    refine ⟨Blank.trimmed_trim _, fun feed => unbroken line mem ?_⟩
    rw [Text.strip?_eq_some.mp stripped, String.toList_append]
    exact List.mem_append_right _ ((Blank.infix_trim _).subset feed)
  · exact ⟨Blank.trimmed_nil, List.not_mem_nil⟩

theorem Headed.sound (headed : Headed text release) : (ofBanner text).Sound := by
  rw [ofBanner_headed headed]
  exact ⟨headed.solid, stated_clean _ fun _ => unbroken_of_mem_later,
    stated_clean _ fun _ => unbroken_of_mem_later⟩

/-- What a banner is read as. -/
structure Reads (text : String) (v : Version) : Prop where
  sound : v = {} ∨ v.Sound
  unheaded : v.runtime = "" ↔ ∀ release, ¬ Headed text release
  nothing : v.runtime = "" → v.commit = "" ∧ v.spec = ""
  headed : ∀ release, Headed text release →
    v = ⟨release, stated "commit:" (later text) "", stated "spec:" (later text) ""⟩

theorem reads_ofBanner (text : String) : Reads text (ofBanner text) := by
  by_cases some : ∃ release, Headed text release
  · obtain ⟨release, headed⟩ := some
    have sound := headed.sound
    have named : (ofBanner text).runtime ≠ "" := fun none => sound.runtime.some (congrArg String.toList none)
    exact ⟨.inr sound, ⟨fun none => absurd none named, fun none => absurd headed (none release)⟩,
      fun none => absurd none named, fun _ => ofBanner_headed⟩
  · have none : ∀ release, ¬ Headed text release := fun release headed => some ⟨release, headed⟩
    rw [ofBanner_unheaded none]
    exact ⟨.inl rfl, ⟨fun _ => none, fun _ => rfl⟩, fun _ => ⟨rfl, rfl⟩,
      fun release headed => absurd headed (none release)⟩

-- ---------------------------------------------------------------------------
-- Other lines
-- ---------------------------------------------------------------------------

/-- The line has one of the labels. -/
def labelled (line : String) : Bool := line.startsWith "commit:" || line.startsWith "spec:"

theorem strip?_isSome (label line : String) : (Text.strip? label line).isSome = line.startsWith label := by
  unfold Text.strip?
  cases line.startsWith label <;> rfl

/-- What stands behind a line does not take its label away. -/
theorem labelled_append (line behind : String) (is : labelled line) : labelled (line ++ behind) := by
  have longer : ∀ label : String, line.startsWith label → (line ++ behind).startsWith label := by
    intro label starts
    rw [String.startsWith_string_iff] at starts ⊢
    rw [String.toList_append]
    exact starts.trans (List.prefix_append _ _)
  rw [labelled, Bool.or_eq_true] at is ⊢
  exact is.imp (longer _) (longer _)

theorem stated_filter (known : label = "commit:" ∨ label = "spec:") (lines : List String)
    (otherwise : String) :
    stated label (lines.filter labelled) otherwise = stated label lines otherwise := by
  have kept : ∀ line, (if labelled line then Text.strip? label line else none) = Text.strip? label line := by
    intro line
    split
    · rfl
    · rename_i unlabelled
      rw [labelled, ← strip?_isSome, ← strip?_isSome, Bool.or_eq_true, not_or] at unlabelled
      obtain rfl | rfl := known
      · exact (Option.not_isSome_iff_eq_none.mp unlabelled.1).symm
      · exact (Option.not_isSome_iff_eq_none.mp unlabelled.2).symm
  simp only [stated, List.filterMap_filter, kept]

/-- Only the first line and the lines with a label count. -/
theorem ofBanner_congr {other : String} (first : (Text.lines text).head? = (Text.lines other).head?)
    (same : (later text).filter labelled = (later other).filter labelled) :
    ofBanner text = ofBanner other := by
  have headed : ∀ release, Headed text release ↔ Headed other release := by
    have at_first : ∀ s release, Headed s release ↔
        ∃ line name more, (Text.lines s).head? = some line ∧
          Text.words line = name :: "version" :: release :: more := by
      intro s release
      constructor
      · rintro ⟨line, rest, name, more, lines, words⟩
        exact ⟨line, name, more, by rw [lines, List.head?_cons], words⟩
      · rintro ⟨line, name, more, head, words⟩
        obtain ⟨rest, lines⟩ := List.head?_eq_some_iff.mp head
        exact ⟨line, rest, name, more, lines, words⟩
    intro release
    rw [at_first, at_first, first]
  have stated : ∀ label, label = "commit:" ∨ label = "spec:" →
      stated label (later text) "" = stated label (later other) "" := by
    intro label known
    rw [← stated_filter known, same, stated_filter known]
  by_cases some : ∃ release, Headed text release
  · obtain ⟨release, head⟩ := some
    rw [ofBanner_headed head, ofBanner_headed ((headed release).mp head), stated _ (.inl rfl),
      stated _ (.inr rfl)]
  · have none : ∀ release, ¬ Headed text release := fun release head => some ⟨release, head⟩
    rw [ofBanner_unheaded none, ofBanner_unheaded fun release head => none release ((headed release).mpr head)]

/-- A line without a label may stand behind any line feed. -/
theorem ofBanner_insert (before after : String) (unbroken : Unbroken line)
    (unlabelled : labelled line = false) :
    ofBanner (before ++ "\n" ++ line ++ "\n" ++ after) = ofBanner (before ++ "\n" ++ after) := by
  obtain ⟨first, front, lines⟩ := Text.lines_feed before
  obtain ⟨closed, same, inserted⟩ := Text.lines_line unbroken after
  have long : Text.lines (before ++ "\n" ++ line ++ "\n" ++ after)
      = first :: (front ++ closed :: Text.lines after) := by
    have grouped : before ++ "\n" ++ line ++ "\n" ++ after = before ++ "\n" ++ (line ++ "\n" ++ after) := by
      simp only [String.append_assoc]
    rw [grouped, Text.lines_append, lines, inserted, List.cons_append]
  have short : Text.lines (before ++ "\n" ++ after) = first :: (front ++ Text.lines after) := by
    rw [Text.lines_append, lines, List.cons_append]
  have cleared : labelled closed = false := by
    obtain rfl | rfl := same
    · exact unlabelled
    · exact Bool.eq_false_iff.mpr fun is => Bool.eq_false_iff.mp unlabelled (labelled_append _ _ is)
  apply ofBanner_congr
  · rw [long, short]
    rfl
  · simp [later, long, short, List.filter_append, cleared]

end Overseer.Version
