-- SUMMARY: The lines that the events command prints are decoded into the events that it got.
import Overseer.CommandLine.Run
import Overseer.Proofs.Json.Printed.Controls
import Overseer.Proofs.Telemetry.Clean

/-!
# Event lines

An event is printed as one line of JSON, and read back from it. The lines are a clean stream, so whoever
decodes the output of the events command, in whatever chunks it comes, gets the events that were printed.
Nothing here depends on the order in which the members of an object are printed.
-/

namespace Overseer

namespace Telemetry

namespace Record

/-- The text of a record is read back as its event, with nothing left. -/
theorem inverts (r : Record) :
    ∃ v, Json.firstValue r.text = .ok (some (v, [])) ∧ Event.decoder.value v = .ok r.event := by
  have whole := r.exact.whole []
  obtain ⟨t, brace⟩ := r.brace
  rw [List.append_nil, brace] at whole
  refine ⟨r.event.encode.sorted, ?_, Event.inverts r.event⟩
  rw [brace]
  exact firstValue_object (skipBlanks_brace t) whole

/-- A record is a single line. -/
theorem unbroken (r : Record) : 0x0A ∉ r.text := by
  obtain ⟨members, inner, -, -, text⟩ := r.value
  have readable := inner.mono fun _ _ h => h.1
  rw [text]
  exact fun feed => absurd (Json.Value.octets_solid readable feed) (by decide)

/-- The records, each with a line feed behind it. -/
def lines (rs : List Record) : Bytes := rs.flatMap fun r => r.text ++ [0x0A]

theorem lines_cons (r : Record) (rs : List Record) : lines (r :: rs) = r.text ++ 0x0A :: lines rs := by
  rw [lines, List.flatMap_cons, ← lines, List.append_assoc, List.singleton_append]

/-- Cut at the line feeds, the lines are the texts of the records; behind the last line feed is nothing. -/
theorem lines_split (rs : List Record) : (lines rs).splitOn 0x0A = rs.map (·.text) ++ [[]] := by
  induction rs with
  | nil => rfl
  | cons r rs ih =>
    rw [lines_cons, List.splitOn_append_cons_self, List.splitOn_eq_singleton r.unbroken, ih]
    rfl

theorem clean_lines (rs : List Record) : Clean (lines rs) (rs.map (·.event)) := by
  induction rs with
  | nil => exact .nil
  | cons r rs ih =>
    rw [lines_cons]
    exact .record r (.blank (by decide) ih)

end Record

end Telemetry

namespace CommandLine

open Telemetry (Clean Event Intake Record)

theorem eventText_cons (e : Event) (es : List Event) :
    eventText (e :: es) = e.line ++ "\n" ++ eventText es := by
  simp only [eventText, lines, List.map_cons, String.join_cons]

theorem eventText_lines (es : List Event) :
    Bytes.ofString (eventText es) = Record.lines (es.map .ofEvent) := by
  induction es with
  | nil => rfl
  | cons e es ih =>
    have feed : Utf8.encode "\n".toList = [0x0A] := rfl
    have text : (Record.ofEvent e).text = Bytes.ofString e.line := by rw [Record.ofEvent]
    rw [List.map_cons, Record.lines_cons, ← ih, eventText_cons, text]
    simp only [Bytes.ofString, String.toList_append, Utf8.encode_append, feed, List.append_assoc,
      List.singleton_append]

/-- The events that the events command gets, if there is an end to them. -/
def consumed (w : World) (client : Client) (id : String) (interval : Interval) : List Event :=
  match (w.watch client id interval).1 with
  | some (.ok s) => s.pump.received
  | _ => []

/-- A stream goes on for ever if it is started and its runtime does. -/
theorem watch_eq_none {w : World} {client : Client} {id : String} {interval : Interval} :
    (w.watch client id interval).1 = none ↔ ∃ seconds, interval.seconds = .ok seconds ∧
      w.idles (client.launcher.command (EventStream.args id seconds)) := by
  unfold World.watch EventStream.watch? World.idles
  cases interval.seconds with
  | error why => simp
  | ok seconds =>
    cases obstacle : w.host.obstacle? (client.launcher.command (EventStream.args id seconds)) with
    | some why => simp [obstacle]
    | none => simp [obstacle]

theorem watchAndPrint_stdout (x : Context) (w : World) (client : Client) (id : String)
    (interval : Interval) :
    (∃ ending, (watchAndPrint x w client id interval).1 = some ending ∧
      ending.stdout = Record.lines ((consumed w client id interval).map .ofEvent)) ∨
    (watchAndPrint x w client id interval).1 = none ∧ ∃ seconds, interval.seconds = .ok seconds ∧
      w.idles (client.launcher.command (EventStream.args id seconds)) := by
  have printed : (watchAndPrint x w client id interval).1
      = (w.watch client id interval).1.map (watchEnding x id) := rfl
  rw [printed, consumed]
  cases found : (w.watch client id interval).1 with
  | none => exact .inr ⟨rfl, watch_eq_none.mp found⟩
  | some result =>
    left
    cases result with
    | error f => exact ⟨_, rfl, rfl⟩
    | ok s => exact ⟨_, rfl, eventText_lines _⟩

/-- An event is read back from its text. The events command prints a line for each event that it gets; it
    has no end only if its runtime waits for ever and nobody interrupts it. Any records in lines are as many
    lines, none of them broken; whoever decodes these in any chunks gets the events and no complaint, and
    has them all before the output has ended. -/
theorem event_lines_round_trip :
    (∀ r : Record, ∃ v, Json.firstValue r.text = .ok (some (v, [])) ∧
      Event.decoder.value v = .ok r.event) ∧
    (∀ (x : Context) (w : World) (client : Client) (id : String) (interval : Nat),
      (∃ ending, (runWith x w client (.events id interval)).1 = some ending ∧
        ending.stdout = Record.lines ((consumed w client id (.ofSeconds interval)).map .ofEvent)) ∨
      (runWith x w client (.events id interval)).1 = none ∧
        w.idles (client.launcher.command (EventStream.args id interval))) ∧
    ∀ rs : List Record,
      (Record.lines rs).splitOn 0x0A = rs.map (·.text) ++ [[]] ∧
      (∀ r ∈ rs, 0x0A ∉ r.text) ∧
      ∀ chunks : List Bytes, chunks.flatten = Record.lines rs →
        Intake.feedAll {} chunks = (rs.map fun r => .event r.event, {}) ∧
          Intake.session chunks = (rs.map fun r => .event r.event, { ended := true }) := by
  refine ⟨Record.inverts, fun x w client id interval => ?_, fun rs => ?_⟩
  · rw [runWith]
    refine (watchAndPrint_stdout x w client id (.ofSeconds interval)).imp_right ?_
    rintro ⟨endless, seconds, whole, idles⟩
    rw [(Interval.seconds_ofSeconds.mp whole).2] at idles
    exact ⟨endless, idles⟩
  · refine ⟨Record.lines_split rs, fun r _ => r.unbroken, fun chunks cut => ?_⟩
    have clean : Clean chunks.flatten (rs.map (·.event)) := cut ▸ Record.clean_lines rs
    have decoded := Intake.session_clean clean
    simpa only [List.map_map, Function.comp_def] using decoded

/-- Two lines, the first of which has an escaped line feed, in three chunks that are cut inside of it. -/
theorem event_lines_round_trip_cut :
    let records : List Record := [.ofEvent ⟨.oom, "é\n", none⟩, .ofEvent ⟨.unknown, "", some {}⟩]
    Intake.session [(Record.lines records).take 21, [], (Record.lines records).drop 21]
      = ([.event ⟨.oom, "é\n", none⟩, .event ⟨.unknown, "", some {}⟩], { ended := true }) := by
  intro records
  have whole : [(Record.lines records).take 21, [], (Record.lines records).drop 21].flatten
      = Record.lines records := by simp
  exact ((event_lines_round_trip.2.2 records).2.2 _ whole).2

end CommandLine

end Overseer
