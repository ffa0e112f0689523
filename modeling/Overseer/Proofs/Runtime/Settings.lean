-- SUMMARY: Settings are read back from their JSON form, and each missing field has its own default.
import Overseer.Proofs.Json.Agreement
import Overseer.Proofs.Json.Excerpt
import Overseer.Proofs.Json.Printed.Layout
import Overseer.Proofs.Telemetry.Format
import Overseer.Runtime.Settings

/-!
# Settings and their JSON form

Settings are read back from the object they are written as, also after fields were taken out of it or put
into it on either level. What is left of a field is decisive: a field that is missing has its default, also
where `null` would be a value of its own.
-/

namespace Overseer

open Json (Value Decoder Legible Excerpt Document Lays memberKeys)
open Json.Decoder (RecordField)

-- ---------------------------------------------------------------------------
-- Fields
-- ---------------------------------------------------------------------------

namespace Json.Decoder

variable {α σ : Type} {d : Decoder α} {encode : α → Value} {state : List String → σ} {key : String}
  {fields : List (RecordField σ)} {set : α → σ → σ} {a : α} {v : Value}

theorem option_ofOption (decodes : ∀ a, d.value (encode a) = .ok a) (present : ∀ a, encode a ≠ .null)
    (a : Option α) : (option d).value (.ofOption encode a) = .ok a := by
  cases a with
  | none => rfl
  | some a =>
    rw [Value.ofOption, option_present (present a), decodes]
    rfl

theorem option_string (a : Option String) : (option string).value (.ofOption .string a) = .ok a :=
  option_ofOption (fun _ => rfl) nofun a

theorem option_path (a : Option String) : (option path).value (.ofOption .string a) = .ok a :=
  option_ofOption (fun _ => rfl) nofun a

theorem option_bool (a : Option Bool) : (option bool).value (.ofOption .bool a) = .ok a :=
  option_ofOption (fun _ => rfl) nofun a

theorem RecordField.takes_optional (found : RecordField.find? fields key = some (.optional key d set))
    (value : d.value v = .ok a) (next : ∀ seen, set a (state seen) = state (key :: seen)) :
    ∃ field set, RecordField.find? fields key = some field ∧ field.decoder.value v = .ok set ∧
      ∀ seen, set (state seen) = state (key :: seen) :=
  ⟨_, set a, found, by rw [RecordField.optional_value, value]; rfl, next⟩

end Json.Decoder

open Json.Decoder
open Json.Decoder.RecordField (takes_optional find?_other)

theorem LogFormat.decoder_agrees : LogFormat.decoder.Agrees := variant_agrees _ _

theorem LogFormat.decoder_name (f : LogFormat) : LogFormat.decoder.value (.string f.name) = .ok f := by
  cases f with
  | text | json => rfl

-- ---------------------------------------------------------------------------
-- Cancellation
-- ---------------------------------------------------------------------------

namespace CancelSettings

/-- What is left when only the fields with these keys are kept. -/
def keeping (c : CancelSettings) (keys : List String) : CancelSettings where
  defaultSignal := if "default_signal" ∈ keys then c.defaultSignal else some "SIGTERM"
  killTimeoutSecs := if "kill_timeout_secs" ∈ keys then c.killTimeoutSecs else 10

def members (c : CancelSettings) : List (String × Value) := [
  ("default_signal", .ofOption .string c.defaultSignal),
  ("kill_timeout_secs", .nat c.killTimeoutSecs.toNat)]

theorem follows (c : CancelSettings) : RecordField.Follows fields c.members c.keeping where
  takes := by
    simp only [members, List.forall_mem_cons]
    refine ⟨takes_optional rfl (option_string _) ?signal, takes_optional rfl (inverts_uint64 _) ?timeout,
      List.forall_mem_nil _⟩
    case signal | timeout =>
      intro seen
      simp [keeping]
  passes key other := find?_other other
  same seen taken all := by
    simp [members] at all
    simp [keeping, all]

theorem value_excerpt (c : CancelSettings) {ms : List (String × Value)} (excerpt : Excerpt c.members ms) :
    decoder.value (.object ms) = .ok (c.keeping (memberKeys ms)) :=
  c.follows.value excerpt "MonitorOptions" (by simp [fields])

theorem legible (c : CancelSettings) (d : Nat) : c.encode.Everywhere Legible d := by
  have small : c.killTimeoutSecs.toNat ≤ Json.Numeral.maxSignificand :=
    Nat.le_pred_of_lt c.killTimeoutSecs.toNat_lt
  apply Json.legible_object
  simp only [List.forall_mem_cons]
  exact ⟨Json.legible_ofOption (Json.legible_string · _) _, Json.legible_nat small _, List.forall_mem_nil _⟩

theorem decoder_agrees : decoder.Agrees := by
  refine record_agrees _ _ ?_
  simp only [fields, List.forall_mem_cons]
  exact ⟨string_agrees.option.map _, uint64_agrees.map _, List.forall_mem_nil _⟩

end CancelSettings

-- ---------------------------------------------------------------------------
-- Settings
-- ---------------------------------------------------------------------------

namespace Settings

/-- What is left when only the fields with these keys are kept, of those of the monitor the `inner` ones. -/
def keeping (s : Settings) (inner keys : List String) : Settings where
  command := if "command" ∈ keys then s.command else "runc"
  root := if "root" ∈ keys then s.root else none
  debug := if "debug" ∈ keys then s.debug else false
  log := if "log" ∈ keys then s.log else none
  logFormat := if "log_format" ∈ keys then s.logFormat else none
  systemdCgroup := if "systemd_cgroup" ∈ keys then s.systemdCgroup else false
  rootless := if "rootless" ∈ keys then s.rootless else none
  setpgid := if "setpgid" ∈ keys then s.setpgid else false
  pdeathSignal := if "pdeath_signal" ∈ keys then s.pdeathSignal else none
  monitor :=
    if "monitor" ∈ keys then s.monitor.keeping inner
    else { defaultSignal := some "SIGTERM", killTimeoutSecs := 10 }

/-- The fields with their values, where the one for the monitor is given. -/
def members (s : Settings) (monitor : Value) : List (String × Value) := [
  ("command", .string s.command),
  ("root", .ofOption .string s.root),
  ("debug", .bool s.debug),
  ("log", .ofOption .string s.log),
  ("log_format", .ofOption (fun f => .string f.name) s.logFormat),
  ("systemd_cgroup", .bool s.systemdCgroup),
  ("rootless", .ofOption .bool s.rootless),
  ("setpgid", .bool s.setpgid),
  ("pdeath_signal", .ofOption .string s.pdeathSignal),
  ("monitor", monitor)]

theorem encode_members (s : Settings) : s.encode = .object (s.members (.object s.monitor.members)) := rfl

theorem option_logFormat (f : Option LogFormat) :
    (option LogFormat.decoder).value (.ofOption (fun f => .string f.name) f) = .ok f :=
  option_ofOption LogFormat.decoder_name nofun f

theorem follows (s : Settings) {inner : List (String × Value)} (excerpt : Excerpt s.monitor.members inner) :
    RecordField.Follows fields (s.members (.object inner)) (s.keeping (memberKeys inner)) where
  takes := by
    simp only [members, List.forall_mem_cons]
    refine ⟨takes_optional rfl rfl ?command, takes_optional rfl (option_path _) ?root,
      takes_optional rfl rfl ?debug, takes_optional rfl (option_path _) ?log,
      takes_optional rfl (option_logFormat _) ?logFormat, takes_optional rfl rfl ?systemdCgroup,
      takes_optional rfl (option_bool _) ?rootless, takes_optional rfl rfl ?setpgid,
      takes_optional rfl (option_string _) ?pdeathSignal,
      takes_optional rfl (s.monitor.value_excerpt excerpt) ?monitor, List.forall_mem_nil _⟩
    all_goals
      intro seen
      simp [keeping]
  passes key other := find?_other other
  same seen taken all := by
    simp [members] at all
    simp [keeping, all]

theorem value_excerpt (s : Settings) {inner outer : List (String × Value)}
    (cancel : Excerpt s.monitor.members inner) (excerpt : Excerpt (s.members (.object inner)) outer) :
    decoder.value (.object outer) = .ok (s.keeping (memberKeys inner) (memberKeys outer)) :=
  (s.follows cancel).value excerpt "RuncOptions" (by simp [fields])

theorem decoder_agrees : decoder.Agrees := by
  refine record_agrees _ _ ?_
  simp only [fields, List.forall_mem_cons]
  exact ⟨string_agrees.map _, path_agrees.option.map _, bool_agrees.map _, path_agrees.option.map _,
    LogFormat.decoder_agrees.option.map _, bool_agrees.map _, bool_agrees.option.map _, bool_agrees.map _,
    string_agrees.option.map _, CancelSettings.decoder_agrees.map _, List.forall_mem_nil _⟩

theorem legible (s : Settings) (d : Nat) : s.encode.Everywhere Legible d := by
  apply Json.legible_object
  simp only [List.forall_mem_cons]
  exact ⟨Json.legible_string _ _, Json.legible_ofOption (Json.legible_string · _) _, Json.legible_bool _ _,
    Json.legible_ofOption (Json.legible_string · _) _,
    Json.legible_ofOption (fun f => Json.legible_string (LogFormat.name f) _) _,
    Json.legible_bool _ _, Json.legible_ofOption (Json.legible_bool · _) _, Json.legible_bool _ _,
    Json.legible_ofOption (Json.legible_string · _) _, s.monitor.legible _, List.forall_mem_nil _⟩

/-- Nothing was taken out. -/
theorem keeping_all (s : Settings) (monitor : Value) :
    s.keeping (memberKeys s.monitor.members) (memberKeys (s.members monitor)) = s := by
  simp [keeping, CancelSettings.keeping, members, CancelSettings.members]

theorem value_encode (s : Settings) : decoder.value s.encode = .ok s := by
  have cancel : Excerpt s.monitor.members s.monitor.members :=
    Json.excerpt_of_subset (by simp [CancelSettings.members]) (List.Subset.refl _)
  have excerpt : Excerpt (s.members (.object s.monitor.members)) (s.members (.object s.monitor.members)) :=
    Json.excerpt_of_subset (by simp [members]) (List.Subset.refl _)
  rw [encode_members, value_excerpt s cancel excerpt, keeping_all]

theorem ofFile_decoded {s : Settings} {text : Bytes} (path : String) (decoded : decoder.ofText text = .ok s)
    (utf8 : text.text?.isSome) : ofFile path (.ok text) = .ok s := by
  simp [ofFile, decoded, Option.isSome_iff_ne_none.mp utf8]

/-- Settings are read back from their JSON form, from the value as from both of its texts. When members are taken
    out on either level, and others with new keys put in, each field that is missing has its default and all
    others are unchanged; and it is the same for every text, and for a file that holds it. -/
theorem settings_round_trip (s : Settings) :
    s.encode = .object (s.members (.object s.monitor.members)) ∧
    decoder.value s.encode = .ok s ∧
    decoder.ofText (Bytes.ofString s.encode.text) = .ok s ∧
    decoder.ofText (Bytes.ofString s.encode.prettyText) = .ok s ∧
    ∀ inner outer, Excerpt s.monitor.members inner → Excerpt (s.members (.object inner)) outer →
      decoder.value (.object outer) = .ok (s.keeping (memberKeys inner) (memberKeys outer)) ∧
      ∀ text, Document (.object outer) text →
        decoder.ofText text = .ok (s.keeping (memberKeys inner) (memberKeys outer)) ∧
        ∀ path, text.text?.isSome →
          ofFile path (.ok text) = .ok (s.keeping (memberKeys inner) (memberKeys outer)) := by
  refine ⟨s.encode_members, s.value_encode, decoder_agrees.ofText (Json.document_text (s.legible 0)) s.value_encode,
    decoder_agrees.ofText (Json.document_prettyText (s.legible 0)) s.value_encode,
    fun inner outer cancel excerpt => ?_⟩
  have value := s.value_excerpt cancel excerpt
  refine ⟨value, fun text document => ?_⟩
  have decoded := decoder_agrees.ofText document value
  exact ⟨decoded, fun path utf8 => ofFile_decoded path decoded utf8⟩

/-- Without its first field, and with a new one, the monitor keeps its timeout and gets the default signal, where
    `null` stood before. -/
theorem settings_round_trip_without_signal :
    let s : Settings :=
      { command := "crun", debug := true, monitor := { defaultSignal := none, killTimeoutSecs := 3 } }
    let inner : List (String × Value) := [("kill_timeout_secs", .nat 3), ("grace", .null)]
    let outer : List (String × Value) :=
      [("monitor", .object inner), ("labels", .object [("tier", .string "web")]), ("command", .string "crun")]
    let text := Bytes.ofString (Value.object outer).prettyText
    let left : Settings :=
      { command := "crun", monitor := { defaultSignal := some "SIGTERM", killTimeoutSecs := 3 } }
    Excerpt s.monitor.members inner ∧ Excerpt (s.members (.object inner)) outer ∧
      Document (.object outer) text ∧ text.text?.isSome ∧
      decoder.value s.encode = .ok s ∧ decoder.value (.object outer) = .ok left ∧
      decoder.ofText text = .ok left ∧ ofFile "config.json" (.ok text) = .ok left := by
  intro s inner outer text left
  have cancel : Excerpt s.monitor.members inner :=
    .kept (List.mem_cons_of_mem _ List.mem_cons_self) (by decide) (.new (by decide) .nil)
  have excerpt : Excerpt (s.members (.object inner)) outer := by
    refine .kept (by simp [members]) (by decide) (.new (by decide) (.kept ?_ (by decide) .nil))
    exact List.mem_cons_self
  have monitor : (Value.object inner).Everywhere Legible 1 := by
    apply Json.legible_object
    simp only [inner, List.forall_mem_cons]
    exact ⟨Json.legible_nat (by decide) _, .leaf trivial rfl, List.forall_mem_nil _⟩
  have labels : (Value.object [("tier", .string "web")]).Everywhere Legible 1 := by
    apply Json.legible_object
    exact List.forall_mem_cons.mpr ⟨Json.legible_string _ _, List.forall_mem_nil _⟩
  have legible : (Value.object outer).Everywhere Legible 0 := by
    apply Json.legible_object
    simp only [outer, List.forall_mem_cons]
    exact ⟨monitor, labels, Json.legible_string _ _, List.forall_mem_nil _⟩
  have document := Json.document_prettyText legible
  have utf8 : text.text?.isSome := by
    rw [Bytes.text?_ofString]
    rfl
  obtain ⟨-, whole, -, -, rest⟩ := settings_round_trip s
  obtain ⟨value, texts⟩ := rest inner outer cancel excerpt
  obtain ⟨decoded, file⟩ := texts text document
  exact ⟨cancel, excerpt, document, utf8, whole, value, decoded, file "config.json" utf8⟩

end Settings

end Overseer
