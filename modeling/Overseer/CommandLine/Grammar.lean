-- SUMMARY: Reading command lines: options, operands, subcommands, and what can be wrong with them.
import Overseer.Number.Literal

/-!
# Grammar of command lines

A command line is read from left to right. Options stand anywhere, long ones behind two dashes and short
ones in clusters behind one; the value of an option is attached to it or is the next argument. `--` ends
the options. At the top level the first other word names a subcommand, which reads the rest.

The value of an option is looked at when the next option follows or the line ends, so of two faults that
are found first counts.

Every level has options that ask for its page of help, and at the top level `help` stands for a subcommand
that names the page in words. The texts of the pages are left out.
-/

namespace Overseer.CommandLine

/-! ## Shapes -/

/-- What the value of an option has to be. -/
inductive ValueKind where
  | text
  /-- The path of a file, which cannot be empty. -/
  | path
  /-- A number of 64 bits that is at least `low`. -/
  | number (low : Nat)
  | choice (names : List String)
  deriving DecidableEq, Repr

/-- An option; without a kind of value it is a switch. -/
structure Opt where
  long : String
  short : Option Char := none
  value : Option ValueKind := none
  /-- The variable of the environment that stands in for the option. -/
  envName : Option String := none
  deriving DecidableEq, Repr

namespace Opt

/-- The name of the value in messages. -/
def valueName (o : Opt) : String :=
  String.ofList (o.long.toList.map fun c => if c = '-' then '_' else c.toUpper)

/-- The option in messages. -/
def shown (o : Opt) : String :=
  "--" ++ o.long ++ if o.value.isSome then " <" ++ o.valueName ++ ">" else ""

end Opt

/-- Which operands a level takes. -/
structure Operands where
  /-- How many have to be there. -/
  required : Nat := 0
  /-- How many there may be; any number if there is no limit. -/
  limit : Option Nat := some 0
  /-- Whether further ones may stand behind `--`, and only there. -/
  behindDashes : Bool := false
  deriving DecidableEq, Repr

/-- One level of a command line. -/
structure Shape where
  options : List Opt
  operands : Operands := {}
  /-- The words that lead to the next level. -/
  subcommands : List String := []
  /-- Whether the level has options that ask for the version. -/
  hasVersion : Bool := false
  /-- The subcommand that the page of help is about; the whole program if there is none. -/
  page : Option String := none
  deriving DecidableEq, Repr

/-! ## Faults -/

inductive UsageError where
  | unexpectedArgument (arg : String)
  | missingOperands
  | invalidValue (value : String) (shown : String) (reason : String)
  | notAChoice (value : String) (shown : String)
  | valueRequired (shown : String)
  | repeated (shown : String)
  | unneededValue (value : String) (shown : String)
  | unknownSubcommand (name : String)
  | missingSubcommand (program : String)
  deriving DecidableEq, Repr

/-- The first line of the complaint. -/
def UsageError.message : UsageError → String
  | unexpectedArgument arg => "unexpected argument '" ++ arg ++ "' found"
  | missingOperands => "the following required arguments were not provided:"
  | invalidValue value shown reason => "invalid value '" ++ value ++ "' for '" ++ shown ++ "': " ++ reason
  | notAChoice value shown => "invalid value '" ++ value ++ "' for '" ++ shown ++ "'"
  | valueRequired shown => "a value is required for '" ++ shown ++ "' but none was supplied"
  | repeated shown => "the argument '" ++ shown ++ "' cannot be used multiple times"
  | unneededValue value shown =>
    "unexpected value '" ++ value ++ "' for '" ++ shown ++ "' found; no more were expected"
  | unknownSubcommand name => "unrecognized subcommand '" ++ name ++ "'"
  | missingSubcommand program =>
    "'" ++ program ++ "' requires a subcommand but one was not provided"

/-- Why reading stops early. -/
inductive Stop where
  | usage (why : UsageError)
  /-- The version is asked for. -/
  | version
  /-- The page of help about a subcommand is asked for, or that about the program. -/
  | help (subcommand : Option String)
  /-- Nothing is said at all, which is answered with the page about the program. -/
  | nothing
  deriving DecidableEq, Repr

/-! ## What was read -/

/-- Where the value of an option comes from; the command line outranks the environment. -/
inductive Source where
  | environment
  | arguments
  deriving DecidableEq, Repr

/-- An option that is given, a switch with an empty value. -/
structure Setting where
  name : String
  value : String
  source : Source
  deriving DecidableEq, Repr

structure Level where
  settings : List Setting := []
  operands : List String := []
  /-- The operands behind `--` of a level that keeps them apart. -/
  rest : List String := []
  deriving DecidableEq, Repr

namespace Level

def find? (l : Level) (name : String) : Option Setting := l.settings.find? (·.name = name)

def value? (l : Level) (name : String) : Option String := (l.find? name).map (·.value)

def has (l : Level) (name : String) : Bool := (l.find? name).isSome

end Level

/-- Whether a value fits its option. -/
def check (o : Opt) (value : String) : Except UsageError Unit :=
  match o.value with
  | some .path => if value.isEmpty then .error (.valueRequired o.shown) else .ok ()
  | some (.number low) =>
    match Literal.uint64 value with
    | .error why => .error (.invalidValue value o.shown why.message)
    | .ok n =>
      if n < low then
        .error (.invalidValue value o.shown
          (toString n ++ " is not in " ++ toString low ++ ".." ++ toString (Width.unsignedMax 64)))
      else .ok ()
  | some (.choice names) =>
    if names.contains value then .ok ()
    else if value.isEmpty then .error (.valueRequired o.shown)
    else .error (.notAChoice value o.shown)
  | _ => .ok ()

/-- Puts an option among those given. -/
def give (source : Source) (o : Opt) (value : String) (l : Level) : Except Stop Level :=
  if l.has o.long then .error (.usage (.repeated o.shown))
  else
    match check o value with
    | .error why => .error (.usage why)
    | .ok () => .ok { l with settings := l.settings ++ [⟨o.long, value, source⟩] }

/-! ## Reading -/

/-- A level that is being read. -/
structure Progress where
  level : Level := {}
  /-- An option whose value is not looked at yet, and its value if that was read. -/
  pending : Option (Opt × Option String) := none
  /-- Whether `--` was read. -/
  trailing : Bool := false

namespace Progress

/-- Whether the next word is the value of an option. -/
def awaiting (p : Progress) : Bool :=
  match p.pending with
  | some (_, none) => true
  | _ => false

/-- Settles the option whose value is not looked at yet. -/
def settle (p : Progress) : Except Stop Progress :=
  match p.pending with
  | none => .ok p
  | some (o, none) => .error (.usage (.valueRequired o.shown))
  | some (o, some value) =>
    match give .arguments o value p.level with
    | .error stop => .error stop
    | .ok level => .ok { p with level, pending := none }

/-- An option together with its value, or a switch. -/
def set (o : Opt) (value : String) (p : Progress) : Except Stop Progress :=
  match p.settle with
  | .error stop => .error stop
  | .ok p =>
    match give .arguments o value p.level with
    | .error stop => .error stop
    | .ok level => .ok { p with level }

/-- An option whose value follows. -/
def expect (o : Opt) (p : Progress) : Except Stop Progress :=
  match p.settle with
  | .error stop => .error stop
  | .ok p => .ok { p with pending := some (o, none) }

end Progress

/-- An option that asks for something else than a run. -/
def asked (request : Stop) (p : Progress) : Stop :=
  match p.settle with
  | .error stop => stop
  | .ok _ => request

/-- What a long option asks for that every level has, or the top level. -/
def Shape.longRequest? (shape : Shape) (name : List Char) : Option Stop :=
  if name = "help".toList then some (.help shape.page)
  else if shape.hasVersion ∧ name = "version".toList then some .version
  else none

/-- What a short option asks for that every level has, or the top level. -/
def Shape.shortRequest? (shape : Shape) (c : Char) : Option Stop :=
  if c = 'h' then some (.help shape.page)
  else if shape.hasVersion ∧ c = 'V' then some .version
  else none

/-- A name and what stands behind the first equals sign. -/
def splitValue (cs : List Char) : List Char × Option (List Char) :=
  match cs.dropWhile (· ≠ '=') with
  | [] => (cs, none)
  | _ :: value => (cs.takeWhile (· ≠ '='), some value)

/-- A long option, given without its dashes. -/
def readLong (shape : Shape) (p : Progress) (cs : List Char) : Except Stop Progress :=
  let (name, attached) := splitValue cs
  match shape.options.find? (·.long.toList = name) with
  | some o =>
    match o.value, attached with
    | some _, some value => p.set o (String.ofList value)
    | some _, none => p.expect o
    | none, some value => .error (.usage (.unneededValue (String.ofList value) o.shown))
    | none, none => p.set o ""
  | none =>
    match shape.longRequest? name, attached with
    | some request, none => .error (asked request p)
    | some _, some value =>
      .error (.usage (.unneededValue (String.ofList value) ("--" ++ String.ofList name)))
    | none, _ => .error (.usage (.unexpectedArgument ("--" ++ String.ofList name)))

/-- A cluster of short options, given without its dash. What follows an option with a value is that
    value. -/
def readCluster (shape : Shape) (p : Progress) : List Char → Except Stop Progress
  | [] => .ok p
  | c :: rest =>
    match shape.options.find? (·.short = some c) with
    | some o =>
      if o.value.isSome then
        match rest with
        | [] => p.expect o
        | '=' :: value => p.set o (String.ofList value)
        | value => p.set o (String.ofList value)
      else
        match p.set o "" with
        | .error stop => .error stop
        | .ok p => readCluster shape p rest
    | none =>
      match shape.shortRequest? c with
      | some request => .error (asked request p)
      | none => .error (.usage (.unexpectedArgument ("-" ++ String.singleton c)))

/-- An operand. -/
def readOperand (shape : Shape) (p : Progress) (arg : String) : Except Stop Progress :=
  let count := p.level.operands.length
  if p.trailing && shape.operands.behindDashes then
    match p.settle with
    | .error stop => .error stop
    | .ok p => .ok { p with level := { p.level with rest := p.level.rest ++ [arg] } }
  else if (shape.operands.limit.getD (count + 1)) ≤ count then
    .error (.usage
      (if shape.subcommands.isEmpty || (p.trailing && shape.subcommands.contains arg) then
        .unexpectedArgument arg
      else .unknownSubcommand arg))
  else
    match p.settle with
    | .error stop => .error stop
    | .ok p => .ok { p with level := { p.level with operands := p.level.operands ++ [arg] } }

/-- One argument that is no subcommand. -/
def readArgument (shape : Shape) (p : Progress) (arg : String) : Except Stop Progress :=
  if p.trailing then readOperand shape p arg
  else
    match arg.toList with
    | ['-', '-'] => .ok { p with trailing := true }
    | '-' :: '-' :: cs => readLong shape p cs
    | '-' :: c :: cs => readCluster shape p (c :: cs)
    | _ =>
      match p.pending with
      | some (o, none) => .ok { p with pending := some (o, some arg) }
      | _ => readOperand shape p arg

/-- Reads arguments up to a subcommand or the end: what was read, and the subcommand with the arguments
    behind it. -/
def readLevel (shape : Shape) (p : Progress) :
    List String → Except Stop (Progress × Option (String × List String))
  | [] => .ok (p, none)
  | arg :: rest =>
    if !p.trailing && !p.awaiting && shape.subcommands.contains arg then .ok (p, some (arg, rest))
    else
      match readArgument shape p arg with
      | .error stop => .error stop
      | .ok p => readLevel shape p rest

/-- Takes from the environment what is not given on the command line. -/
def addVariables (env : String → Option String) : List Opt → Level → Except Stop Level
  | [], l => .ok l
  | o :: rest, l =>
    match if l.has o.long then none else o.envName.bind env with
    | none => addVariables env rest l
    | some value =>
      match give .environment o value l with
      | .error stop => .error stop
      | .ok l => addVariables env rest l

/-- The level that remains when everything was read. -/
def complete (env : String → Option String) (shape : Shape) (p : Progress) :
    Except Stop Level :=
  match p.settle with
  | .error stop => .error stop
  | .ok p =>
    match addVariables env shape.options p.level with
    | .error stop => .error stop
    | .ok l =>
      if l.operands.length < shape.operands.required then .error (.usage .missingOperands)
      else .ok l

/-- What holds of an option that is known at both levels: the inner level counts unless only the outer
    one has it from the command line. -/
def combine (outer inner : Option Setting) : Option Setting :=
  match outer, inner with
  | some a, some b => if a.source = .arguments ∧ b.source = .environment then some a else some b
  | some a, none => some a
  | none, b => b

/-- A subcommand with both levels. -/
structure Reading where
  subcommand : String
  outer : Level
  inner : Level
  deriving DecidableEq, Repr

/-- The value of an option that is known at both levels. -/
def Reading.global? (r : Reading) (name : String) : Option String :=
  (combine (r.outer.find? name) (r.inner.find? name)).map (·.value)

/-- The word behind which the page of help is named. -/
def helpName : String := "help"

/-- The page that some words name, or which of them is too much. -/
def pageOf (top : Shape) (sub : String → Shape) : List String → Stop
  | [] => .help top.page
  | [name] =>
    if top.subcommands.contains name then .help (sub name).page
    else .usage (.unknownSubcommand name)
  | name :: further :: _ =>
    .usage (.unknownSubcommand (if top.subcommands.contains name then further else name))

/-- Reads a whole command line. Everything at the inner level is looked at before what is left at the
    outer one. -/
def read (program : String) (env : String → Option String) (top : Shape)
    (sub : String → Shape) (args : List String) : Except Stop Reading :=
  match readLevel top {} args with
  | .error stop => .error stop
  | .ok (p, none) =>
    match complete env top p with
    | .error stop => .error stop
    | .ok l =>
      .error (if l.settings.isEmpty then .nothing else .usage (.missingSubcommand program))
  | .ok (p, some (subcommand, rest)) =>
    if subcommand = helpName then .error (pageOf top sub rest)
    else
      match readLevel (sub subcommand) {} rest with
      | .error stop => .error stop
      | .ok (q, _) =>
        match complete env (sub subcommand) q with
        | .error stop => .error stop
        | .ok inner =>
          match complete env top p with
          | .error stop => .error stop
          | .ok outer => .ok ⟨subcommand, outer, inner⟩

end Overseer.CommandLine
