-- SUMMARY: Containers are read back from the list that is printed, their times being in UTC or local.
import Mathlib.Data.List.Forall2
import Overseer.CommandLine.Run
import Overseer.Proofs.Calendar.Moment
import Overseer.Proofs.Json.Edits
import Overseer.Proofs.Json.Printed.Layout
import Overseer.Proofs.Telemetry.Format

/-!
# Lists of containers

A container is written as an object. Its annotations have no order, and its time of creation may be in UTC or what
some clock showed. From a list of such objects, in any text of it, the client reads the containers back.
-/

namespace Overseer

open Calendar (Moment)
open Json (Value Document Legible Blanks)

-- ---------------------------------------------------------------------------
-- Containers
-- ---------------------------------------------------------------------------

namespace Container

open Json.Decoder (int32 string dictionary integer_value record_agrees string_agrees int32_agrees variant_agrees
  stringFor_agrees)
open Json.Decoder.RecordField

variable {c : Container} {v : Value} {created : String} {annotations : List (String × String)}

/-- The value of a container whose time of creation and whose annotations have been written already. -/
def rendered (c : Container) (created : String) (annotations : List (String × String)) : Value := .object [
  ("id", .string c.id),
  ("pid", .int c.pid.toInt),
  ("status", .string c.status.name),
  ("bundle", .string c.bundle),
  ("rootfs", .string c.rootfs),
  ("created", .string created),
  ("annotations", .object (annotations.map fun m => (m.1, .string m.2)))]

/-- What a container is written as: its time of creation in any of its texts, its annotations in any order. -/
inductive Written (c : Container) : Value → Prop where
  | intro {created : String} {annotations : List (String × String)} (time : c.created.Written created)
      (order : c.annotations.entries.Perm annotations) : Written c (c.rendered created annotations)

theorem written_encode (c : Container) : c.Written c.encode := .intro .utc (.refl _)

theorem string_value (s : String) : string.value (.string s) = .ok s := rfl

theorem int32_value (n : Int32) : int32.value (.int n.toInt) = .ok n := by
  have low : Width.signedMin 32 ≤ n.toInt := n.le_toInt
  have high : n.toInt ≤ Width.signedMax 32 := Int.le_sub_one_of_lt n.toInt_lt
  simp [int32, Json.Decoder.map, integer_value _ ⟨low, high⟩, Except.map]

theorem status_value (s : ContainerStatus) : ContainerStatus.decoder.value (.string s.name) = .ok s := by
  cases s with
  | created | running | pausing | paused | stopped | unknown => rfl

theorem moment_value {m : Moment} (dated : m.Dated) (written : m.Written created) :
    momentDecoder.value (.string created) = .ok m := by
  have parsed := Moment.parse_written dated written
  simp [momentDecoder, Json.Decoder.refine, Json.Decoder.stringFor, moment, parsed]

theorem annotations_value {d : Dictionary String} (order : d.entries.Perm annotations) :
    (dictionary string).value (.object (annotations.map fun m => (m.1, .string m.2))) = .ok d := by
  have taken := Json.Decoder.mapM_eq_ok (f := fun m : String × String => (m.1, Value.string m.2))
    (g := fun m => (string.value m.2).map fun a => (m.1, a)) (fun _ => rfl) annotations
  refine Json.Decoder.dictionary_eq_ok.mpr ⟨annotations, taken, Dictionary.ext ?_⟩
  have same := Entries.ofList_perm d.sorted.keys_nodup order
  rw [Entries.ofList_of_sorted d.sorted] at same
  exact same

/-- However a container is written, it is read back. -/
theorem value_written (dated : c.created.Dated) (written : c.Written v) : decoder.value v = .ok c := by
  obtain ⟨time, order⟩ := written
  simp [decoder, rendered, ofMembers, find?, fields, missing?, string_value, int32_value, status_value,
    moment_value dated time, annotations_value order, Except.map]

theorem decoder_agrees : decoder.Agrees := by
  refine record_agrees _ _ ?_
  simp only [fields, List.forall_mem_cons]
  exact ⟨string_agrees.map _, int32_agrees.map _, (variant_agrees _ _).map _, string_agrees.map _, string_agrees.map _,
    ((stringFor_agrees _).refine _).map _, string_agrees.dictionary.map _, List.forall_mem_nil _⟩

theorem legible_written (written : c.Written v) (d : Nat) : v.Everywhere Legible d := by
  obtain ⟨-, -⟩ := written
  have text (s : String) := Json.legible_string s (d + 1)
  apply Json.legible_object
  simp only [List.forall_mem_cons]
  refine ⟨text _, Json.legible_int32 _ _, text _, text _, text _, text _, Json.legible_object ?_,
    List.forall_mem_nil _⟩
  exact List.forall_mem_map.mpr fun _ _ => Json.legible_string _ _

end Container

-- ---------------------------------------------------------------------------
-- Lists
-- ---------------------------------------------------------------------------

namespace Query

variable {cs : List Container} {vs : List Value} {s : Bytes}

theorem mapM_written (dated : ∀ c ∈ cs, c.created.Dated) (written : List.Forall₂ Container.Written cs vs) :
    vs.mapM Container.decoder.value = .ok cs := by
  induction written with
  | nil => rfl
  | cons first _ ih =>
    obtain ⟨here, later⟩ := List.forall_mem_cons.mp dated
    exact mapM_cons_eq_ok.mpr ⟨_, _, Container.value_written here first, ih later, rfl⟩

theorem legible_list (written : List.Forall₂ Container.Written cs vs) : (Value.array vs).Everywhere Legible 0 := by
  refine Json.legible_array ?_
  induction written with
  | nil => exact List.forall_mem_nil _
  | cons first _ ih => exact List.forall_mem_cons.mpr ⟨Container.legible_written first _, ih⟩

/-- The client reads the containers back from any text of the list. -/
theorem decode_document (dated : ∀ c ∈ cs, c.created.Dated) (written : List.Forall₂ Container.Written cs vs)
    (document : Document (.array vs) s) : Query.list.decode s = .ok cs := by
  have found : (Json.Decoder.option (.list Container.decoder)).value (.array vs) = .ok (some cs) :=
    congrArg (Except.map some) (mapM_written dated written)
  have read := Container.decoder_agrees.list.option.ofText document found
  simp only [Query.list, Query.listDocument, Query.document, read, Option.getD_some]

theorem document_lines {v : Value} (legible : v.Everywhere Legible 0) :
    Document v (Bytes.ofString (CommandLine.lines [v.prettyText])) := by
  have text : CommandLine.lines [v.prettyText] = v.prettyText ++ "\n" := by simp [CommandLine.lines]
  rw [text, Bytes.ofString, String.toList_append, Utf8.encode_append]
  exact (Json.document_prettyText legible).followed (Blanks.nil.cons rfl)

/-- The containers of a list are read back from what is printed of them. They also are if some of their times are
    written as a clock shows them that is some minutes ahead of UTC, and however the annotations are ordered. -/
theorem list_of_written (dated : ∀ c ∈ cs, c.created.Dated) :
    Query.list.decode (Bytes.ofString (CommandLine.listText .json false cs)) = .ok cs ∧
      ∀ vs, List.Forall₂ Container.Written cs vs →
        Query.list.decode (Bytes.ofString (CommandLine.lines [(Value.array vs).prettyText])) = .ok cs ∧
          ∀ s, Document (.array vs) s → Query.list.decode s = .ok cs := by
  have printed : ∀ vs, List.Forall₂ Container.Written cs vs →
      Query.list.decode (Bytes.ofString (CommandLine.lines [(Value.array vs).prettyText])) = .ok cs :=
    fun vs written => decode_document dated written (document_lines (legible_list written))
  have encoded : List.Forall₂ Container.Written cs (cs.map (·.encode)) :=
    List.forall₂_map_right_iff.mpr (List.forall₂_same.mpr fun c _ => c.written_encode)
  exact ⟨printed _ encoded,
    fun vs written => ⟨printed vs written, fun s document => decode_document dated written document⟩⟩

/-- Created half an hour before the end of a leap day. -/
def leapNight : Container where
  id := "c1"
  pid := -7
  status := .unknown
  created := ⟨⟨2024, 2, 29, by decide⟩, 84600, 500000000, by decide, by decide⟩
  annotations := .ofList [("a", "1"), ("b", "2")]

/-- Created in the first hour of a year. -/
def newYear : Container where
  id := "c2"
  status := .stopped
  created := ⟨⟨2000, 1, 1, by decide⟩, 1800, 1, by decide, by decide⟩

/-- The local times lie in the next month and in the year before. -/
theorem list_of_written_carries :
    leapNight.created.text = "2024-02-29T23:30:00.500Z" ∧ newYear.created.text = "2000-01-01T00:30:00.000000001Z" ∧
      Query.list.decode (Bytes.ofString (CommandLine.lines [(Value.array [
        leapNight.rendered "2024-03-01T00:30:00.500+01:00" [("b", "2"), ("a", "1")],
        newYear.rendered "1999-12-31T19:00:00.000000001-05:30" []]).prettyText])) = .ok [leapNight, newYear] := by
  have forward : leapNight.created.Written
      (Moment.localText ⟨⟨2024, 3, 1, by decide⟩, 1800, 500000000, by decide, by decide⟩ 60) :=
    .zone (by decide) ⟨by decide, by decide⟩ (by decide) rfl
  have backward : newYear.created.Written
      (Moment.localText ⟨⟨1999, 12, 31, by decide⟩, 68400, 1, by decide, by decide⟩ (-330)) :=
    .zone (by decide) ⟨by decide, by decide⟩ (by decide) rfl
  have dated : ∀ c ∈ [leapNight, newYear], c.created.Dated := by
    simp only [List.forall_mem_cons]
    exact ⟨⟨⟨by decide, by decide⟩, fun leap => absurd leap (by decide)⟩,
      ⟨⟨by decide, by decide⟩, fun leap => absurd leap (by decide)⟩, List.forall_mem_nil _⟩
  obtain ⟨-, read⟩ := list_of_written dated
  exact ⟨rfl, rfl, (read _ (.cons (.intro forward (.swap _ _ _)) (.cons (.intro backward .nil) .nil))).1⟩

end Query

end Overseer
