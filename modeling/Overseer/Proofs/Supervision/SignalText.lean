-- SUMMARY: Which texts stand for which signals, and which settings make a client.
import Overseer.Proofs.Number.Literal
import Overseer.Proofs.Supervision.Ending
import Overseer.Proofs.Text.Blank
import Overseer.Runtime.Client

/-!
# Texts of signals

A text that is an integer literal of 32 bits is a number, and stands for the signal of that number or for
none. Any other text is a name, whose letters may be of either case and whose `SIG` may be missing; a literal
that is out of range is such a name, and no signal's. A client needs both signals among its settings to be
understood, where they are given.
-/

namespace Overseer

open Literal (Int32)

namespace Signal

variable {text t name : String} {g h : Signal} {n : Int} {why : Unknown}

-- ---------------------------------------------------------------------------
-- The grammar
-- ---------------------------------------------------------------------------

/-- The letters from `a` to `z` in capitals, every other character as it is. -/
def capitals (t : String) : String := String.ofList (t.toList.map Char.toUpper)

/-- In capitals, the text is the name of the signal, with or without its `SIG`. -/
def Called (t : String) (g : Signal) : Prop := capitals t = g.name ∨ "SIG" ++ capitals t = g.name

/-- A text without blanks around it stands for the signal, by its number or by its name. -/
inductive Denoted (t : String) (g : Signal) : Prop where
  | number (literal : Int32 t g.number)
  | name (nonnumeric : ∀ n, ¬ Int32 t n) (called : Called t g)

/-- Why a text without blanks around it stands for no signal. -/
inductive Undenoted (t : String) : Unknown → Prop where
  | number {n : Int} (literal : Int32 t n) (free : ∀ g : Signal, n ≠ g.number) : Undenoted t (.number n)
  | name (nonnumeric : ∀ n, ¬ Int32 t n) (uncalled : ∀ g, ¬ Called t g) : Undenoted t (.name t)

/-- The text stands for the signal. -/
def Means (text : String) (g : Signal) : Prop := ∃ t, Text.Stripped text t ∧ Denoted t g

/-- Why the text stands for no signal. -/
def Meaningless (text : String) (why : Unknown) : Prop := ∃ t, Text.Stripped text t ∧ Undenoted t why

theorem denoted_literal (literal : Int32 t n) : Denoted t g ↔ n = g.number := by
  constructor
  · rintro (other | ⟨nonnumeric, -⟩)
    · exact literal.denotes.unique other.denotes
    · exact absurd literal (nonnumeric n)
  · rintro rfl
    exact .number literal

theorem denoted_nonnumeric (nonnumeric : ∀ n, ¬ Int32 t n) : Denoted t g ↔ Called t g := by
  constructor
  · rintro (literal | ⟨-, called⟩)
    · exact absurd literal (nonnumeric _)
    · exact called
  · exact .name nonnumeric

theorem undenoted_literal (literal : Int32 t n) :
    Undenoted t why ↔ why = .number n ∧ ∀ g : Signal, n ≠ g.number := by
  constructor
  · rintro (⟨other, free⟩ | ⟨nonnumeric, -⟩)
    · obtain rfl := literal.denotes.unique other.denotes
      exact ⟨rfl, free⟩
    · exact absurd literal (nonnumeric n)
  · rintro ⟨rfl, free⟩
    exact .number literal free

theorem undenoted_nonnumeric (nonnumeric : ∀ n, ¬ Int32 t n) :
    Undenoted t why ↔ why = .name t ∧ ∀ g, ¬ Called t g := by
  constructor
  · rintro (⟨literal, -⟩ | ⟨-, uncalled⟩)
    · exact absurd literal (nonnumeric _)
    · exact ⟨rfl, uncalled⟩
  · rintro ⟨rfl, uncalled⟩
    exact .name nonnumeric uncalled

-- ---------------------------------------------------------------------------
-- Names
-- ---------------------------------------------------------------------------

theorem ofName?_name (g : Signal) : ofName? g.name = some g := by
  cases g <;> rfl

theorem ofName?_eq_some : ofName? name = some g ↔ name = g.name := by
  constructor
  · intro found
    have same : g.name = name := by simpa using List.find?_some found
    exact same.symm
  · rintro rfl
    exact ofName?_name g

/-- Every name begins with `SIG`, and with one only. -/
theorem name_once (g : Signal) : ∃ short, g.name = "SIG" ++ short ∧ short.startsWith "SIG" = false := by
  refine ⟨String.ofList (g.name.toList.drop 3), ?_⟩
  cases g <;> decide +kernel

/-- Completing the name does not call other signals. -/
theorem fullName_eq_name : fullName t = g.name ↔ Called t g := by
  obtain ⟨short, whole, once⟩ := name_once g
  have short_of : "SIG" ++ capitals t = g.name → capitals t = short := by
    intro same
    rw [whole] at same
    exact String.append_right_inj "SIG" |>.mp same
  unfold fullName
  change (if (capitals t).startsWith "SIG" then capitals t else "SIG" ++ capitals t) = g.name ↔ _
  split
  · rename_i starts
    refine ⟨.inl, ?_⟩
    rintro (same | completed)
    · exact same
    · rw [short_of completed, once] at starts
      cases starts
  · rename_i bare
    refine ⟨.inr, ?_⟩
    rintro (same | completed)
    · rw [same, whole, String.startsWith_string_iff, String.toList_append] at bare
      exact absurd (List.prefix_append _ _) bare
    · exact completed

theorem ofName?_fullName : ofName? (fullName t) = some g ↔ Called t g :=
  ofName?_eq_some.trans fullName_eq_name

-- ---------------------------------------------------------------------------
-- Reading
-- ---------------------------------------------------------------------------

theorem nonnumeric_of_int32? (none : Literal.int32? t = none) (n : Int) : ¬ Int32 t n := by
  intro literal
  rw [Literal.int32?_eq_some.mpr literal] at none
  cases none

theorem parse_eq_ok : parse text = .ok g ↔ Means text g := by
  simp only [Means, Text.stripped_iff, exists_eq_left]
  cases read : Literal.int32? (Text.trim text) with
  | some n =>
    rw [denoted_literal (Literal.int32?_eq_some.mp read), ← ofNumber?_eq_some_iff]
    simp only [parse, read]
    cases ofNumber? n <;> simp
  | none =>
    rw [denoted_nonnumeric (nonnumeric_of_int32? read), ← ofName?_fullName]
    simp only [parse, read]
    cases ofName? (fullName (Text.trim text)) <;> simp

theorem parse_eq_error : parse text = .error why ↔ Meaningless text why := by
  simp only [Meaningless, Text.stripped_iff, exists_eq_left]
  cases read : Literal.int32? (Text.trim text) with
  | some n =>
    simp only [undenoted_literal (Literal.int32?_eq_some.mp read), ne_eq, ← ofNumber?_eq_some_iff,
      parse, read]
    cases ofNumber? n <;> simp [eq_comm]
  | none =>
    simp only [undenoted_nonnumeric (nonnumeric_of_int32? read), ← ofName?_fullName, parse, read]
    cases ofName? (fullName (Text.trim text)) <;> simp [eq_comm]

/-- Every text stands for a signal, or there is a reason why it stands for none. -/
theorem meaningless_iff : (∀ g, ¬ Means text g) ↔ ∃ why, Meaningless text why := by
  simp only [← parse_eq_ok, ← parse_eq_error]
  cases parse text <;> simp

theorem parseArgument_eq_ok : parseArgument text = .ok g ↔ Means text g := by
  rw [← parse_eq_ok, parseArgument]
  cases parse text <;> simp

theorem parseArgument_eq_error {failure : Failure} :
    parseArgument text = .error failure ↔
      ∃ why, Meaningless text why ∧ failure = .invalidArgument why.message := by
  simp only [← parse_eq_error, parseArgument]
  cases parse text <;> simp [eq_comm]

/-- Letters that only Unicode takes for an `s` in lower case are not put in capitals. -/
example : parse "ſigterm" = .error (.name "ſigterm") := by decide +kernel

-- ---------------------------------------------------------------------------
-- Settings
-- ---------------------------------------------------------------------------

/-- The text is given, and stands for no signal. -/
def Unmeant (text : Option String) : Prop := ∃ t ∈ text, ∀ g, ¬ Means t g

theorem parseOption_eq_ok {text : Option String} {g : Option Signal} :
    parseOption text = .ok g ↔ Option.Rel Means text g := by
  cases text with
  | none => cases g <;> simp [parseOption]
  | some t =>
    cases g with
    | none =>
      simp only [parseOption]
      cases parseArgument t <;> simp
    | some g =>
      rw [Option.rel_some_some, ← parseArgument_eq_ok, parseOption]
      cases parseArgument t <;> simp

theorem parseOption_eq_error {text : Option String} {failure : Failure} :
    parseOption text = .error failure ↔ ∃ t ∈ text, parseArgument t = .error failure := by
  cases text with
  | none => simp [parseOption]
  | some t =>
    simp only [parseOption, Option.mem_some_iff, exists_eq_left']
    cases parseArgument t <;> simp

theorem unmeant_iff {text : Option String} : Unmeant text ↔ ∃ failure, parseOption text = .error failure := by
  simp only [Unmeant, parseOption_eq_error, meaningless_iff, parseArgument_eq_error]
  constructor
  · rintro ⟨t, given, why, none⟩
    exact ⟨_, t, given, why, none, rfl⟩
  · rintro ⟨_, t, given, why, none, -⟩
    exact ⟨t, given, why, none⟩

end Signal

namespace Client

open Signal (Means Meaningless Unmeant)

variable {s : Settings} {failure : Failure}

/-- Of two signals that are not understood, the one for cancelling is reported. -/
theorem ofSettings_eq_error :
    ofSettings s = .error failure ↔
      Signal.parseOption s.monitor.defaultSignal = .error failure ∨
        ¬ Unmeant s.monitor.defaultSignal ∧ Signal.parseOption s.pdeathSignal = .error failure := by
  rw [Signal.unmeant_iff]
  simp only [ofSettings, Escalation.ofSettings, Launcher.ofSettings]
  cases Signal.parseOption s.monitor.defaultSignal with
  | error why => simp
  | ok graceful => cases Signal.parseOption s.pdeathSignal <;> simp

/-- A client has the signals that its settings mean. -/
theorem means_of_ofSettings {c : Client} (made : ofSettings s = .ok c) :
    Option.Rel Means s.monitor.defaultSignal c.escalation.graceful ∧
      Option.Rel Means s.pdeathSignal c.launcher.pdeathSignal := by
  simp only [ofSettings, Escalation.ofSettings, Launcher.ofSettings] at made
  cases graceful : Signal.parseOption s.monitor.defaultSignal with
  | error why =>
    rw [graceful] at made
    cases made
  | ok g =>
    cases death : Signal.parseOption s.pdeathSignal with
    | error why =>
      rw [graceful, death] at made
      cases made
    | ok d =>
      rw [graceful, death] at made
      cases made
      exact ⟨Signal.parseOption_eq_ok.mp graceful, Signal.parseOption_eq_ok.mp death⟩

/-- A text is read as the signal that it stands for, and any other text is an invalid argument. So settings
    make a client unless one of their signals is given and stands for none; the failure is that of the signal
    for cancelling, if it is one of these. -/
theorem signals_understood (s : Settings) :
    (∀ text g, Signal.parseArgument text = .ok g ↔ Means text g) ∧
    (∀ text, (∀ g, ¬ Means text g) →
      ∃ why, Meaningless text why ∧ Signal.parseArgument text = .error (.invalidArgument why.message)) ∧
    ((∃ failure, ofSettings s = .error failure) ↔
      Unmeant s.monitor.defaultSignal ∨ Unmeant s.pdeathSignal) ∧
    (∀ text ∈ s.monitor.defaultSignal, ∀ failure, Signal.parseArgument text = .error failure →
      ofSettings s = .error failure) ∧
    (∀ text ∈ s.pdeathSignal, ∀ failure, Signal.parseArgument text = .error failure →
      ¬ Unmeant s.monitor.defaultSignal → ofSettings s = .error failure) ∧
    (∀ c, ofSettings s = .ok c → Option.Rel Means s.monitor.defaultSignal c.escalation.graceful ∧
      Option.Rel Means s.pdeathSignal c.launcher.pdeathSignal) := by
  refine ⟨fun text g => Signal.parseArgument_eq_ok, fun text none => ?_, ?_, fun text given failure refused => ?_,
    fun text given failure refused meant => ?_, fun c => means_of_ofSettings⟩
  · obtain ⟨why, reason⟩ := Signal.meaningless_iff.mp none
    exact ⟨why, reason, Signal.parseArgument_eq_error.mpr ⟨why, reason, rfl⟩⟩
  · simp only [ofSettings_eq_error, exists_or, exists_and_left, ← Signal.unmeant_iff]
    tauto
  · exact ofSettings_eq_error.mpr (.inl (Signal.parseOption_eq_error.mpr ⟨text, given, refused⟩))
  · exact ofSettings_eq_error.mpr (.inr ⟨meant, Signal.parseOption_eq_error.mpr ⟨text, given, refused⟩⟩)

end Client

end Overseer
