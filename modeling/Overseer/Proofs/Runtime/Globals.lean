-- SUMMARY: The global flags in front of a subcommand are read back, whatever their values look like.
import Overseer.Runtime.EventStream
import Overseer.Runtime.Launcher
import Overseer.Runtime.Operation
import Overseer.Runtime.Query
import Overseer.Runtime.Usage

/-!
# Global flags

All commands of one client start with the same flags. Some of these take the word behind them as their value,
whatever it looks like, and the others stand alone. A reader that goes from left to right, and stops at the first
word that is no such flag, finds what was set and where the subcommand starts.
-/

namespace Overseer

-- ---------------------------------------------------------------------------
-- What global flags say
-- ---------------------------------------------------------------------------

/-- What the global flags say. -/
structure Globals where
  root : Option String := none
  debug : Bool := false
  log : Option String := none
  logFormat : Option LogFormat := none
  systemdCgroup : Bool := false
  rootless : Option Bool := none
  deriving DecidableEq

def Settings.globals (s : Settings) : Globals where
  root := s.root
  debug := s.debug
  log := s.log
  logFormat := s.logFormat
  systemdCgroup := s.systemdCgroup
  rootless := s.rootless

/-- The format with this name. -/
def LogFormat.ofName? (name : String) : Option LogFormat := [text, json].find? (·.name = name)

theorem LogFormat.ofName?_name (f : LogFormat) : ofName? f.name = some f := by
  cases f with
  | text | json => rfl

namespace Globals

variable {g h : Globals} {name word value : String} {words rest : List String}

/-- The words that are global flags. -/
def flags : List String :=
  ["--root", "--debug", "--log", "--log-format", "--systemd-cgroup", "--rootless=true", "--rootless=false"]

/-- The first word, if there is one, is no global flag. -/
def Unflagged (words : List String) : Prop := ∀ word ∈ words.head?, word ∉ flags

/-- What is set by a flag that stands alone. -/
def alone? (g : Globals) (word : String) : Option Globals :=
  if word = "--debug" then some { g with debug := true }
  else if word = "--systemd-cgroup" then some { g with systemdCgroup := true }
  else if word = "--rootless=true" then some { g with rootless := some true }
  else if word = "--rootless=false" then some { g with rootless := some false }
  else none

/-- What is set by a flag that takes the next word as its value. -/
def valued? (g : Globals) (word value : String) : Option Globals :=
  if word = "--root" then some { g with root := some value }
  else if word = "--log" then some { g with log := some value }
  else if word = "--log-format" then some { g with logFormat := LogFormat.ofName? value }
  else none

/-- Reads flags from the left and stops at the first word that is none; the words from there on are left. -/
def read (g : Globals) : List String → Globals × List String
  | [] => (g, [])
  | [word] =>
    match g.alone? word with
    | some h => (h, [])
    | none => (g, [word])
  | word :: value :: rest =>
    match g.alone? word with
    | some h => read h (value :: rest)
    | none =>
      match g.valued? word value with
      | some h => read h rest
      | none => (g, word :: value :: rest)

-- ---------------------------------------------------------------------------
-- Reading
-- ---------------------------------------------------------------------------

theorem alone?_other (other : word ∉ flags) : g.alone? word = none := by
  simp only [flags, List.mem_cons, not_or] at other
  simp [alone?, other]

theorem valued?_other (other : word ∉ flags) : g.valued? word value = none := by
  simp only [flags, List.mem_cons, not_or] at other
  simp [valued?, other]

theorem read_alone (set : g.alone? word = some h) : g.read (word :: rest) = h.read rest := by
  cases rest with
  | nil => simp only [read, set]
  | cons value rest => simp only [read, set]

theorem read_valued (awaits : g.alone? word = none) (set : g.valued? word value = some h) :
    g.read (word :: value :: rest) = h.read rest := by
  simp only [read, awaits, set]

/-- Nothing is read where no flag stands. -/
theorem read_unflagged (unflagged : Unflagged words) : g.read words = (g, words) := by
  match words with
  | [] => rfl
  | [word] =>
    have other : word ∉ flags := unflagged word rfl
    simp only [read, alone?_other other]
  | word :: value :: rest =>
    have other : word ∉ flags := unflagged word rfl
    simp only [read, alone?_other other, valued?_other other]

-- ---------------------------------------------------------------------------
-- Writing and reading
-- ---------------------------------------------------------------------------

theorem read_flag {on : Bool} (set : on = true → g.alone? name = some h) (unset : on = false → g = h) :
    g.read (flag name on ++ rest) = h.read rest := by
  cases on with
  | true => exact read_alone (set rfl)
  | false => rw [unset rfl]; rfl

theorem read_flagWith {value : Option String} (awaits : g.alone? name = none)
    (set : ∀ v, value = some v → g.valued? name v = some h) (unset : value = none → g = h) :
    g.read (flagWith name value ++ rest) = h.read rest := by
  cases value with
  | some v => exact read_valued awaits (set v rfl)
  | none => rw [unset rfl]; rfl

theorem read_flagSet {value : Option Bool}
    (set : ∀ v, value = some v → g.alone? (name ++ "=" ++ if v then "true" else "false") = some h)
    (unset : value = none → g = h) : g.read (flagSet name value ++ rest) = h.read rest := by
  cases value with
  | some v => exact read_alone (set v rfl)
  | none => rw [unset rfl]; rfl

/-- The flags of some settings are read to what the settings say, whatever follows. -/
theorem read_globalArgs (s : Settings) (rest : List String) :
    read {} (s.globalArgs ++ rest) = s.globals.read rest := by
  obtain ⟨command, root, debug, log, logFormat, systemdCgroup, rootless, setpgid, pdeathSignal, monitor⟩ := s
  simp only [Settings.globalArgs, List.append_assoc]
  -- Each flag sets its own field, which still has its default.
  rw [read_flagWith (h := { root }) rfl (by rintro v rfl; rfl) (by rintro rfl; rfl),
    read_flag (h := { root, debug }) (by rintro rfl; rfl) (by rintro rfl; rfl),
    read_flagWith (h := { root, debug, log }) rfl (by rintro v rfl; rfl) (by rintro rfl; rfl),
    read_flagWith (h := { root, debug, log, logFormat }) rfl ?format ?unset,
    read_flag (h := { root, debug, log, logFormat, systemdCgroup }) (by rintro rfl; rfl) (by rintro rfl; rfl),
    read_flagSet (h := { root, debug, log, logFormat, systemdCgroup, rootless }) ?rootless (by rintro rfl; rfl)]
  · rfl
  case format =>
    intro v named
    obtain ⟨f, rfl, rfl⟩ := Option.map_eq_some_iff.mp named
    simp [valued?, LogFormat.ofName?_name]
  case unset =>
    intro unnamed
    rw [Option.map_eq_none_iff.mp unnamed]
  case rootless =>
    rintro v rfl
    cases v with
    | true | false => rfl

-- ---------------------------------------------------------------------------
-- The commands of a client
-- ---------------------------------------------------------------------------

/-- What a client has to say behind the global flags: its queries, its two ways of sampling a container, and its
    operations. -/
inductive Requested : List String → Prop where
  | list : Requested Query.list.args
  | state (id : String) : Requested (Query.state id).args
  | processes (id : String) : Requested (Query.processes id).args
  | version : Requested Query.version.args
  | events (id : String) (seconds : Nat) : Requested (EventStream.args id seconds)
  | usage (id : String) : Requested (Usage.args id)
  | operation {cwd : String} {op : Operation} {args : List String} (spoken : op.args cwd = .ok args) :
      Requested args

theorem unflagged_cons (other : word ∉ flags) : Unflagged (word :: rest) := by
  intro first mem
  obtain rfl := Option.some.inj mem
  exact other

/-- Every operation starts with its name. -/
theorem unflagged_operation {cwd : String} {op : Operation} (spoken : op.args cwd = .ok words) :
    Unflagged words := by
  have bundle : ∀ {name id bundle flags}, name ∉ Globals.flags →
      Operation.bundleArgs cwd name id bundle flags = .ok words → Unflagged words := by
    intro name id bundle flags other spoken
    unfold Operation.bundleArgs at spoken
    split at spoken
    · cases spoken
    · cases spoken
      exact unflagged_cons other
  cases op with
  | create => exact bundle (by decide) spoken
  | run => exact bundle (by decide) spoken
  | exec =>
    simp only [Operation.args] at spoken
    split at spoken
    · cases spoken
    · cases spoken
      exact unflagged_cons (by decide)
  | start | pause | resume | delete | kill =>
    cases spoken
    exact unflagged_cons (by decide)

theorem Requested.unflagged (requested : Requested words) : Unflagged words := by
  cases requested with
  | operation spoken => exact unflagged_operation spoken
  | list | state | processes | version | events | usage => exact unflagged_cons (by decide)

theorem command_args {s : Settings} {l : Launcher} (made : Launcher.ofSettings s = .ok l) (rest : List String) :
    (l.command rest).args = s.globalArgs ++ rest := by
  unfold Launcher.ofSettings at made
  split at made
  · cases made
  · cases made
    rfl

/-- The flags alone tell what was set. -/
theorem globals_of_globalArgs {s t : Settings} (same : s.globalArgs = t.globalArgs) : s.globals = t.globals := by
  have alone (s : Settings) : read {} s.globalArgs = (s.globals, []) := by
    rw [← List.append_nil s.globalArgs, read_globalArgs]
    rfl
  have read := alone s
  rw [same, alone t] at read
  exact (Prod.mk.inj read).1.symm

/-- What the global flags of a launcher's commands say, and where the words behind them start, is read back, unless
    these words start with such a flag; no request of a client does. So settings that differ in what is passed on
    as a flag never make the same command for the same words. -/
theorem globals_recovered {s : Settings} {l : Launcher} (made : Launcher.ofSettings s = .ok l) :
    (∀ rest, Unflagged rest → read {} (l.command rest).args = (s.globals, rest)) ∧
    (∀ rest, Requested rest → Unflagged rest) ∧
    (∀ t k, Launcher.ofSettings t = .ok k → s.globals ≠ t.globals →
      ∀ rest, (l.command rest).args ≠ (k.command rest).args) ∧
    ∀ rest, rest <:+ (l.command rest).args := by
  refine ⟨fun rest unflagged => ?_, fun rest => Requested.unflagged, fun t k other differ rest same => ?_,
    fun rest => ?_⟩
  · rw [command_args made, read_globalArgs, read_unflagged unflagged]
  · rw [command_args made, command_args other] at same
    exact differ (globals_of_globalArgs (List.append_cancel_right same))
  · rw [command_args made]
    exact List.suffix_append _ _

/-- Values that are empty, look like flags or are the name of a subcommand, in front of a request that is itself
    a flag. -/
theorem globals_recovered_flaglike :
    let s : Settings := { root := some "--log", log := some "", logFormat := some .json, rootless := some false }
    let t : Settings := { root := some "--log", log := some "list", logFormat := some .json, rootless := some false }
    ∃ l k, Launcher.ofSettings s = .ok l ∧ Launcher.ofSettings t = .ok k ∧
      (l.command Query.version.args).args
        = ["--root", "--log", "--log", "", "--log-format", "json", "--rootless=false", "--version"] ∧
      read {} (l.command Query.version.args).args = (s.globals, ["--version"]) ∧
      ∀ rest, (l.command rest).args ≠ (k.command rest).args := by
  intro s t
  refine ⟨_, _, rfl, rfl, by decide, ?_, ?_⟩
  · obtain ⟨recovered, requested, -⟩ := globals_recovered (s := s) rfl
    exact recovered _ (requested _ .version)
  · obtain ⟨-, -, differs, -⟩ := globals_recovered (s := s) rfl
    exact differs t _ rfl (by decide)

end Globals

end Overseer
