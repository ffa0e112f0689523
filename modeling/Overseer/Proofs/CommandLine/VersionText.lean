-- SUMMARY: The version that is printed for a runtime is read back like its banner.
import Overseer.Proofs.CommandLine.ExitCode
import Overseer.Proofs.Runtime.Banner

/-!
# The printed version

Of a sound version, each part is printed in a line of its own, and only if it is not empty. Whether there is
a banner at all is told from the release alone; that is enough because a version without a release has
nothing else either.
-/

namespace Overseer

/-- Lines that end with no blank are found again. -/
theorem Text.lines_lines {texts : List String}
    (whole : ∀ t ∈ texts, '\n' ∉ t.toList ∧ ∀ c ∈ t.toList.getLast?, isBlank c = false) :
    Text.lines (CommandLine.lines texts) = texts := by
  induction texts with
  | nil => rfl
  | cons t texts ih =>
    obtain ⟨⟨unbroken, last⟩, others⟩ := List.forall_mem_cons.mp whole
    have text : CommandLine.lines (t :: texts) = t ++ "\n" ++ CommandLine.lines texts := by
      simp only [CommandLine.lines, List.map_cons, String.join_cons]
    obtain ⟨closed, same, cut⟩ := Text.lines_line unbroken (CommandLine.lines texts)
    rw [text, cut, ih others]
    obtain rfl | rfl := same
    · rfl
    · rw [String.toList_append] at last
      exact absurd (last '\r' List.getLast?_concat) (by decide)

namespace Version

open Blank (Solid Trimmed)
open CommandLine (versionText)

variable {label said command : String} {v : Version}

-- ---------------------------------------------------------------------------
-- The lines behind the first
-- ---------------------------------------------------------------------------

/-- A line with a label, unless there is nothing to say. -/
def remark (label said : String) : List String := if said = "" then [] else [label ++ " " ++ said]

theorem stated_append (label : String) (lines others : List String) (otherwise : String) :
    stated label (lines ++ others) otherwise = stated label others (stated label lines otherwise) := by
  induction lines generalizing otherwise with
  | nil => rfl
  | cons line lines ih => rw [List.cons_append, stated_cons, ih, stated_cons]

/-- What is said behind a label. -/
theorem stated_remark (trimmed : Trimmed said.toList) : stated label (remark label said) "" = said := by
  unfold remark
  split
  · rename_i nothing
    exact nothing.symm
  · have stripped : Text.strip? label (label ++ " " ++ said) = some (" " ++ said) := by
      rw [Text.strip?_eq_some, String.append_assoc]
    rw [stated_cons, stripped]
    apply String.toList_inj.mp
    have blank : (" " ++ said).toList = ' ' :: said.toList := String.toList_append
    change (Text.trim (" " ++ said)).toList = said.toList
    rw [Text.toList_trim, blank, Blank.trim_cons (by decide), trimmed.trim_eq]

/-- What is said behind the other label. -/
theorem stated_spec_commit (commit otherwise : String) :
    stated "spec:" (remark "commit:" commit) otherwise = otherwise := by
  unfold remark
  split
  · rfl
  · rw [stated_cons, labels_apart (Text.strip?_eq_some.mpr (String.append_assoc ..))]
    rfl

theorem stated_commit_spec (spec otherwise : String) :
    stated "commit:" (remark "spec:" spec) otherwise = otherwise := by
  unfold remark
  split
  · rfl
  · have apart : Text.strip? "commit:" ("spec:" ++ " " ++ spec) = none := by
      by_contra some
      obtain ⟨commit, stripped⟩ := Option.ne_none_iff_exists'.mp some
      have other : Text.strip? "spec:" ("spec:" ++ " " ++ spec) = _ :=
        Text.strip?_eq_some.mpr (String.append_assoc ..)
      rw [labels_apart stripped] at other
      exact nomatch other
    rw [stated_cons, apart]
    rfl

-- ---------------------------------------------------------------------------
-- The whole text
-- ---------------------------------------------------------------------------

theorem versionText_sound (sound : v.Sound) :
    versionText command v
      = CommandLine.lines ((command ++ " version " ++ v.runtime)
        :: (remark "commit:" v.commit ++ remark "spec:" v.spec)) := by
  have named : v.runtime ≠ "" := fun none => sound.runtime.some (congrArg String.toList none)
  simp only [versionText, remark, String.isEmpty_iff, named, if_false]
  rfl

theorem whole_remark (unlabelled : '\n' ∉ label.toList) (clean : Trimmed said.toList ∧ Unbroken said) :
    ∀ t ∈ remark label said, '\n' ∉ t.toList ∧ ∀ c ∈ t.toList.getLast?, isBlank c = false := by
  intro t mem
  unfold remark at mem
  split at mem
  · exact nomatch mem
  · rename_i something
    obtain rfl := List.mem_singleton.mp mem
    have some : said.toList ≠ [] := fun none => something (String.toList_eq_nil_iff.mp none)
    rw [String.toList_append, String.toList_append]
    refine ⟨?_, fun c last => clean.1.last c ?_⟩
    · simp only [List.mem_append, not_or]
      exact ⟨⟨unlabelled, by decide⟩, clean.2⟩
    · rwa [List.getLast?_append_of_ne_nil _ some] at last

theorem whole_first (solid : Solid command.toList) (release : Solid v.runtime.toList) :
    '\n' ∉ (command ++ " version " ++ v.runtime).toList ∧
      ∀ c ∈ (command ++ " version " ++ v.runtime).toList.getLast?, isBlank c = false := by
  rw [String.toList_append, String.toList_append]
  refine ⟨?_, fun c last => release.unbroken c ?_⟩
  · simp only [List.mem_append, not_or]
    exact ⟨⟨solid.feedless, by decide⟩, release.feedless⟩
  · rw [List.getLast?_append_of_ne_nil _ release.some] at last
    exact List.mem_of_getLast? last

theorem words_first (solid : Solid command.toList) (release : Solid v.runtime.toList) :
    Text.words (command ++ " version " ++ v.runtime) = [command, "version", v.runtime] := by
  have version : Solid "version".toList := by decide
  have chars : (command ++ " version " ++ v.runtime).toList
      = command.toList ++ ' ' :: ("version".toList ++ ' ' :: v.runtime.toList) := by
    rw [String.toList_append, String.toList_append, List.append_assoc]
    rfl
  rw [Text.words, chars, Blank.words_cons solid (by decide), Blank.words_cons version (by decide),
    Blank.words_solid release]
  simp only [List.map_cons, List.map_nil, String.ofList_toList]

/-- A sound version is read back from what is printed for it. -/
theorem ofBanner_versionText (solid : Solid command.toList) (sound : v.Sound) :
    ofBanner (versionText command v) = v := by
  have lines : Text.lines (versionText command v) = (command ++ " version " ++ v.runtime)
      :: (remark "commit:" v.commit ++ remark "spec:" v.spec) := by
    rw [versionText_sound sound]
    apply Text.lines_lines
    refine List.forall_mem_cons.mpr ⟨whole_first solid sound.runtime, fun t mem => ?_⟩
    obtain commit | spec := List.mem_append.mp mem
    · exact whole_remark (by decide) sound.commit t commit
    · exact whole_remark (by decide) sound.spec t spec
  have headed : Headed (versionText command v) v.runtime :=
    ⟨_, _, _, _, lines, words_first solid sound.runtime⟩
  rw [ofBanner_headed headed, later, lines, List.tail_cons, stated_append, stated_append,
    stated_remark sound.commit.1, stated_commit_spec, stated_spec_commit, stated_remark sound.spec.1]

end Version

namespace CommandLine

variable {env : String → Option String} {file : String → Except SystemError Bytes} {args : List String}
  {flags : GlobalFlags} {client : Client} {w : World}

theorem ofEnding_printing (before text : String) :
    Outcome.ofEnding ((Ending.printing text).after before)
      = { code := 0, stdout := Bytes.ofString before ++ Bytes.ofString text } := rfl

/-- What the version command prints for a runtime that answers. -/
theorem call_version (time : String) (accepted : Invocation.ofArgs env args = .ok ⟨flags, .version⟩)
    (made : Invocation.made file ⟨flags, .version⟩ = .ok client) (calm : w.Calm)
    (free : w.host.obstacle? (client.launcher.command Query.version.args) = none)
    (ends : w.behaviour.waiting = none) (well : w.behaviour.naturalEnd.code? = some 0) :
    ∃ o w', call env file time w args = (some o, w') ∧ o.code = 0 ∧
      o.stdout = Bytes.ofString (preface .version) ++ Bytes.ofString (versionText client.settings.command
        (Version.ofBanner (Write.on .stdout (w.behaviour.output [])).lossyText)) := by
  obtain ⟨x, called⟩ := call_made (w := w) time accepted made
  obtain ⟨result, answer, judged⟩ := Query.ask?_judged free ends
  have read : result = .ok (Version.ofBanner (Write.on .stdout (w.behaviour.output [])).lossyText) :=
    judged.succeeded well
  rw [runWith, askAndPrint_eq Query.version _ calm, answer, read, Option.map_some, Option.map_some,
    Ending.ofResult, ofEnding_printing] at called
  exact ⟨_, _, called, rfl, rfl⟩

/-- Every text is read as a banner in the same way: nothing at all unless its first line names a release, and
    otherwise the release with what the last line with either label says, of which the former is a single
    word and the latter has neither blanks around it nor a line feed. Later lines without a label may be put
    in and taken out. The version command prints what was read, and that text is read as the same version. -/
theorem banner_round_trip :
    (∀ text, Version.Reads text (Version.ofBanner text)) ∧
    (∀ text other, (Text.lines text).head? = (Text.lines other).head? →
      (Version.later text).filter Version.labelled = (Version.later other).filter Version.labelled →
        Version.ofBanner text = Version.ofBanner other) ∧
    (∀ before line after, Version.Unbroken line → Version.labelled line = false →
      Version.ofBanner (before ++ "\n" ++ line ++ "\n" ++ after)
        = Version.ofBanner (before ++ "\n" ++ after)) ∧
    (∀ text release command, Version.Headed text release → Blank.Solid command.toList →
      Version.ofBanner (versionText command (Version.ofBanner text)) = Version.ofBanner text) ∧
    ∀ (env : String → Option String) (file : String → Except SystemError Bytes) (time : String) (w : World)
      (args : List String) (flags : GlobalFlags) (client : Client),
      Invocation.ofArgs env args = .ok ⟨flags, .version⟩ →
      Invocation.made file ⟨flags, .version⟩ = .ok client → w.Calm →
      w.host.obstacle? (client.launcher.command Query.version.args) = none →
      w.behaviour.waiting = none → w.behaviour.naturalEnd.code? = some 0 →
        ∃ o w', call env file time w args = (some o, w') ∧ o.code = 0 ∧
          o.stdout = Bytes.ofString (preface .version)
            ++ Bytes.ofString (versionText client.settings.command
              (Version.ofBanner (Write.on .stdout (w.behaviour.output [])).lossyText)) := by
  refine ⟨Version.reads_ofBanner, fun _ _ => Version.ofBanner_congr, fun before _ after =>
    Version.ofBanner_insert before after, fun _ _ _ headed solid => ?_, ?_⟩
  · exact Version.ofBanner_versionText solid headed.sound
  · intro env file time w args flags client accepted made calm free ends well
    exact call_version time accepted made calm free ends well

/-- A banner with carriage returns and with two commits, printed for a runtime of another name. -/
theorem banner_round_trip_two_commits :
    let text := "runc version 1.1.12\r\ncommit: old\nrundir: /run\ncommit:\tv1 \r\n"
    Version.ofBanner text = ⟨"1.1.12", "v1", ""⟩ ∧
      Version.ofBanner (versionText "crun" (Version.ofBanner text)) = ⟨"1.1.12", "v1", ""⟩ := by
  intro text
  have read : Version.ofBanner text = ⟨"1.1.12", "v1", ""⟩ := by decide +kernel
  have headed : Version.Headed text "1.1.12" :=
    ⟨"runc version 1.1.12", ["commit: old", "rundir: /run", "commit:\tv1 "], "runc", [],
      by decide +kernel, by decide +kernel⟩
  have printed := banner_round_trip.2.2.2.1 text "1.1.12" "crun" headed (by decide)
  exact ⟨read, printed.trans read⟩

end CommandLine

end Overseer
