-- SUMMARY: What the runtime gets for the signal of a kill command.
import Overseer.Proofs.CommandLine.Targets
import Overseer.Proofs.Number.Literal

/-!
# The signal of a kill command

The command line reads the signal as a number if it can, and keeps the text otherwise; the operation joins
the two again, the text outranking the number. Nothing is lost between them unless the text is empty: an
empty text gives way to the number, and that is the zero which stands for the missing one.
-/

namespace Overseer.CommandLine

open Literal (Denotes Int32)

/-- What becomes of the signal as it was given on its way to the runtime. -/
structure SignalPassed (signal argument : String) : Prop where
  /-- A number is passed on in its decimal form. -/
  number : ∀ v, Int32 signal v → argument = toString v
  /-- Any other text is passed on as it is. -/
  text : (∀ v, ¬ Int32 signal v) → signal ≠ "" → argument = signal
  /-- An empty text becomes a number that nobody gave. -/
  empty : signal = "" → argument = "0"
  /-- Apart from that, the argument stands for a number only if the signal stands for the same. -/
  stands : signal ≠ "" → ∀ v, Denotes argument.toList v ↔ Denotes signal.toList v

theorem not_int32_empty (v : Int) : ¬ Int32 "" v := fun literal => Literal.not_denotes_nil literal.denotes

/-- What is passed on for a number. -/
theorem SignalPassed.ofNumber {signal : String} {n : Int} (literal : Int32 signal n) :
    SignalPassed signal (toString n) where
  number v other := by rw [literal.denotes.unique other.denotes]
  text none := absurd literal (none n)
  empty none := by
    rw [none] at literal
    exact absurd literal (not_int32_empty n)
  stands _ v := by
    have printed := Literal.denotes_toString n
    constructor
    · intro argument
      exact printed.unique argument ▸ literal.denotes
    · intro signal
      exact literal.denotes.unique signal ▸ printed

/-- What is passed on for any other text. -/
theorem SignalPassed.ofText {signal : String} (none : ∀ v, ¬ Int32 signal v) :
    SignalPassed signal (if signal.isEmpty then toString (0 : Int) else signal) := by
  by_cases empty : signal = ""
  · subst empty
    exact ⟨fun v literal => absurd literal (none v), fun _ some => absurd rfl some, fun _ => rfl,
      fun some => absurd rfl some⟩
  · rw [if_neg (by simpa using empty)]
    exact ⟨fun v literal => absurd literal (none v), fun _ _ => rfl, fun nothing => absurd nothing empty,
      fun _ _ => Iff.rfl⟩

/-- The arguments of a kill command. -/
theorem args_killOperation (cwd id signal : String) (all : Bool) :
    ∃ argument, (killOperation id signal all).args cwd
        = .ok (["kill"] ++ flag "--all" all ++ [id, argument]) ∧
      SignalPassed signal argument := by
  unfold killOperation
  cases read : Literal.int32? signal with
  | some n => exact ⟨_, rfl, .ofNumber (Literal.int32?_eq_some.mp read)⟩
  | none =>
    refine ⟨_, rfl, .ofText fun v literal => ?_⟩
    rw [Literal.int32?_eq_some.mpr literal] at read
    exact absurd read nofun

variable {env : String → Option String} {file : String → Except SystemError Bytes} {args : List String}
  {flags : GlobalFlags} {id signal : String} {all : Bool} {client : Client} {w : World}

/-- A kill command performs its operation, whatever comes of it. -/
theorem call_kill (time : String)
    (accepted : Invocation.ofArgs env args = .ok ⟨flags, .kill id signal all⟩)
    (made : Invocation.made file ⟨flags, .kill id signal all⟩ = .ok client) :
    ∃ outcome : Client.Performance → Outcome, call env file time w args
      = ((w.perform client {} (killOperation id signal all)).1.map outcome,
          (w.perform client {} (killOperation id signal all)).2) := by
  obtain ⟨x, called⟩ := call_made (w := w) time accepted made
  refine ⟨fun p => .ofEnding ((performanceEnding {} p).after ""), called.trans ?_⟩
  simp only [runWith, performAndPrint, Option.map_map]
  rfl

/-- A kill command whose client could be made, in any world, makes one invocation of the runtime, which is
    a start unless it was cancelled before or something stands in the way. The call has an outcome if the
    invocation comes to an end, which it does if nobody interrupts the program and the runtime does not wait
    for ever. The last argument is the signal as it was given, except that a number is in decimal form and
    that an empty signal has become `0`. -/
theorem signal_reaches_runtime (time : String)
    (accepted : Invocation.ofArgs env args = .ok ⟨flags, .kill id signal all⟩)
    (made : Invocation.made file ⟨flags, .kill id signal all⟩ = .ok client) :
    ∃ argument c o w', c = client.launcher.command (["kill"] ++ flag "--all" all ++ [id, argument]) ∧
      c.args.getLast? = some argument ∧
      call env file time w args = (o, w') ∧ w' = w.afterStart c ∧
      (w.cancelled = false → w.host.obstacle? c = none → w'.starts = w.starts ++ [c.args]) ∧
      (∀ p, (w.perform client {} (killOperation id signal all)).1 = some p →
        p.commands = [c] ∧ o.isSome) ∧
      (w.Calm → (o = none ↔ w.idles c)) ∧
      SignalPassed signal argument := by
  obtain ⟨argument, spoken, passed⟩ := args_killOperation w.host.cwd id signal all
  obtain ⟨outcome, called⟩ := call_kill (w := w) time accepted made
  refine ⟨argument, _, _, _, rfl, ?_, called, perform_world spoken, fun live free => ?_,
    fun p comes => ⟨commands_of_perform spoken comes, ?_⟩, fun calm => ?_, passed⟩
  · simp only [Launcher.command, List.getLast?_append, List.getLast?_cons_cons, List.getLast?_singleton,
      Option.some_or]
  · rw [perform_world spoken]
    exact World.starts_afterStart live free
  · rw [comes]
    rfl
  · rw [Option.map_eq_none_iff]
    exact perform_eq_none calm spoken

/-- A host with a runtime. -/
def equipped : World where
  host := ⟨"/", ["runc"], []⟩

theorem equipped_ends (c : Command) : equipped.idles c = false := by
  simp [World.idles, EventStream.endless, World.behaviour, equipped]

/-- A number with a sign goes through as a number. -/
theorem signal_reaches_runtime_signed :
    ∃ o w', call (fun _ => none) (fun _ => .error .notFound) "" equipped ["kill", "-a", "c1", "+09"]
        = (some o, w') ∧
      w'.starts = [["kill", "--all", "c1", "9"]] := by
  have accepted : Invocation.ofArgs (fun _ => none) ["kill", "-a", "c1", "+09"]
      = .ok ⟨{}, .kill "c1" "+09" true⟩ := by
    decide +kernel
  obtain ⟨argument, c, o, w', rfl, -, called, -, started, -, ends, passed⟩ :=
    signal_reaches_runtime (w := equipped) "" accepted (Invocation.made_usual (fun _ => .error .notFound) _)
  have literal : Int32 "+09" 9 := Literal.int32?_eq_some.mp (by decide +kernel)
  obtain rfl : argument = "9" := passed.number 9 literal
  obtain ⟨o, rfl⟩ : ∃ outcome, o = some outcome := by
    rw [← Option.ne_none_iff_exists', Ne, ends ⟨rfl, rfl⟩, equipped_ends]
    nofun
  refine ⟨o, w', called, started rfl ?_⟩
  simp [equipped, Host.obstacle?, Command.isPassable, Launcher.command, Invocation.usualClient, flag]

/-- A signal that was given as an empty text, which is no number, reaches the runtime as a number. -/
theorem empty_signal_zero :
    ∃ o w', call (fun _ => none) (fun _ => .error .notFound) "" equipped ["kill", "c1", ""]
        = (some o, w') ∧
      w'.starts = [["kill", "c1", "0"]] ∧ ∀ v, ¬ Denotes "".toList v := by
  have accepted : Invocation.ofArgs (fun _ => none) ["kill", "c1", ""]
      = .ok ⟨{}, .kill "c1" "" false⟩ := by
    decide +kernel
  obtain ⟨outcome, called⟩ :=
    call_kill (w := equipped) "" accepted (Invocation.made_usual (fun _ => .error .notFound) _)
  obtain ⟨argument, spoken, passed⟩ := args_killOperation "/" "c1" "" false
  obtain rfl : argument = "0" := passed.empty rfl
  obtain ⟨p, comes⟩ : ∃ p,
      (equipped.perform Invocation.usualClient {} (killOperation "c1" "" false)).1 = some p := by
    rw [← Option.ne_none_iff_exists', Ne, perform_eq_none ⟨rfl, rfl⟩ spoken, equipped_ends]
    nofun
  rw [comes, perform_world spoken] at called
  refine ⟨_, _, called, World.starts_afterStart rfl ?_, fun v => Literal.not_denotes_nil⟩
  simp [equipped, Host.obstacle?, Command.isPassable, Launcher.command, Invocation.usualClient, flag]

end Overseer.CommandLine
