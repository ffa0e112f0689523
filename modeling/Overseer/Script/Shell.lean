-- SUMMARY: A small command language: words, quotes, parameters, redirection, a few commands.
import Overseer.Number.Literal
import Overseer.Runtime.Behaviour
import Overseer.Text.Blank

/-!
# Shell scripts

Enough of the command language of a POSIX shell to say what short straight-line scripts do: quoting,
positional parameters, lists of simple commands, output redirection, and the commands that print, read a
file or end the script. There are no loops and no variables; an unset variable expands to nothing.
-/

namespace Overseer.Shell

/-! ## Words -/

/-- A part of a word. -/
inductive Piece where
  | text (cs : List Char)
  /-- A one-character parameter; unquoted, its value is cut at blanks. -/
  | parameter (name : Char) (quoted : Bool)
  deriving DecidableEq, Repr

abbrev Word := List Piece

inductive Token where
  | word (w : Word)
  /-- The end of a command; the next one runs whatever this one returns. -/
  | next
  | newline
  | andThen
  | orElse
  /-- Output stream `fd` goes where stream `target` goes. -/
  | duplicate (fd target : Nat)
  /-- Output stream `fd` goes into the file that the next word names. -/
  | into (fd : Nat) (appending : Bool)
  deriving DecidableEq, Repr

inductive Mode where
  | plain
  | single
  | double
  | comment
  | variable (quoted : Bool)
  deriving DecidableEq, Repr

/-- The token of an unfinished word, if there is one. -/
def close (word : Option Word) : List Token :=
  match word with
  | some w => [.word w.reverse]
  | none => []

/-- One character more in an unfinished word, whose latest piece stands first. -/
def extend (word : Option Word) (c : Char) : Option Word :=
  match word with
  | some (.text cs :: rest) => some (.text (cs ++ [c]) :: rest)
  | some w => some (.text [c] :: w)
  | none => some [.text [c]]

def addParameter (word : Option Word) (name : Char) (quoted : Bool) : Option Word :=
  some (.parameter name quoted :: word.getD [])

/-- The stream that stands in front of a redirection, and the tokens before it. -/
def streamBefore (word : Option Word) : Nat × List Token :=
  match word with
  | some [.text [c]] => if c.isDigit then (c.toNat - 48, []) else (1, close word)
  | _ => (1, close word)

def isSpecial (c : Char) : Bool := ['#', '@', '*', '?', '$'].contains c || c.isDigit

def isNameChar (c : Char) : Bool := c.isAlphanum || c = '_'

/-- What a character means that ends a word outside quotes. -/
def separator? (c : Char) : Option (List Token) :=
  if c = ' ' ∨ c = '\t' then some []
  else if c = '\n' then some [.newline]
  else if c = ';' then some [.next]
  else none

/-- Cuts a script into tokens. -/
def tokens : Mode → Option Word → List Char → List Token
  | _, word, [] => close word
  | .comment, word, c :: rest =>
    if c = '\n' then .newline :: tokens .plain word rest else tokens .comment word rest
  | .single, word, c :: rest =>
    if c = '\'' then tokens .plain word rest else tokens .single (extend word c) rest
  | .variable quoted, word, c :: rest =>
    if isNameChar c then tokens (.variable quoted) word rest
    else if quoted then
      if c = '\x22' then tokens .plain word rest else tokens .double (extend word c) rest
    else
      match separator? c with
      | some found => close word ++ found ++ tokens .plain none rest
      | none => tokens .plain (extend word c) rest
  | .double, word, '\\' :: d :: rest =>
    if d = '$' ∨ d = '\x22' ∨ d = '\\' then tokens .double (extend word d) rest
    else tokens .double (extend (extend word '\\') d) rest
  | .double, word, '$' :: d :: rest =>
    if isSpecial d then tokens .double (addParameter word d true) rest
    else if isNameChar d then tokens (.variable true) word rest
    else if d = '\x22' then tokens .plain (extend word '$') rest
    else tokens .double (extend (extend word '$') d) rest
  | .double, word, c :: rest =>
    if c = '\x22' then tokens .plain word rest else tokens .double (extend word c) rest
  | .plain, word, '\\' :: d :: rest =>
    if d = '\n' then tokens .plain word rest else tokens .plain (extend word d) rest
  | .plain, word, '$' :: d :: rest =>
    if isSpecial d then tokens .plain (addParameter word d false) rest
    else if isNameChar d then tokens (.variable false) (some (word.getD [])) rest
    else
      match separator? d with
      | some found => close (extend word '$') ++ found ++ tokens .plain none rest
      | none => tokens .plain (extend (extend word '$') d) rest
  | .plain, word, '&' :: '&' :: rest => close word ++ .andThen :: tokens .plain none rest
  | .plain, word, '|' :: '|' :: rest => close word ++ .orElse :: tokens .plain none rest
  | .plain, word, '>' :: '&' :: d :: rest =>
    let (fd, before) := streamBefore word
    before ++ .duplicate fd (d.toNat - 48) :: tokens .plain none rest
  | .plain, word, '>' :: '>' :: rest =>
    let (fd, before) := streamBefore word
    before ++ .into fd true :: tokens .plain none rest
  | .plain, word, c :: rest =>
    match separator? c with
    | some found => close word ++ found ++ tokens .plain none rest
    | none =>
      if c = '>' then
        let (fd, before) := streamBefore word
        before ++ .into fd false :: tokens .plain none rest
      else if c = '\'' then tokens .single (some (word.getD [])) rest
      else if c = '\x22' then tokens .double (some (word.getD [])) rest
      else if c = '#' && word.isNone then tokens .comment none rest
      else tokens .plain (extend word c) rest

/-! ## Commands -/

/-- When a command runs, in view of the one before it. -/
inductive Condition where
  | always
  | ifSucceeded
  | ifFailed
  deriving DecidableEq, Repr

/-- Where an output stream leads. -/
inductive Target where
  | stream (fd : Nat)
  | file (name : Word) (appending : Bool)
  deriving DecidableEq, Repr

structure Simple where
  condition : Condition := .always
  line : Nat
  words : List Word := []
  redirections : List (Nat × Target) := []
  deriving DecidableEq, Repr

/-- Groups tokens into commands; `current` is the unfinished one. -/
def commands (current : Simple) : List Token → List Simple
  | [] => [current]
  | .into fd appending :: .word w :: rest =>
    commands { current with
      redirections := current.redirections ++ [(fd, .file w appending)] } rest
  | .into .. :: rest => commands current rest
  | .word w :: rest => commands { current with words := current.words ++ [w] } rest
  | .duplicate fd target :: rest =>
    commands { current with
      redirections := current.redirections ++ [(fd, .stream target)] } rest
  | .next :: rest => current :: commands { line := current.line } rest
  | .newline :: rest => current :: commands { line := current.line + 1 } rest
  | .andThen :: rest =>
    current :: commands { line := current.line, condition := .ifSucceeded } rest
  | .orElse :: rest => current :: commands { line := current.line, condition := .ifFailed } rest

/-- The commands of a script. -/
def parse (script : String) : List Simple :=
  (commands { line := 1 } (tokens .plain none script.toList)).filter fun c =>
    !c.words.isEmpty || !c.redirections.isEmpty

/-! ## Running -/

/-- What a script sees: its name, its arguments and its input. -/
structure Setting where
  name : String
  args : List String := []
  input : Bytes := []

structure State where
  /-- The code of the last command. -/
  code : Nat := 0
  writes : List Write := []
  files : List (String × Bytes) := []
  /-- How the script has ended, if it has. -/
  ended : Option WaitStatus := none

/-- The values of a parameter: one for each argument, or a single one. -/
def parameter (setting : Setting) (s : State) (name : Char) : List String :=
  match name with
  | '@' | '*' => setting.args
  | '#' => [toString setting.args.length]
  | '?' => [toString s.code]
  | '0' => [setting.name]
  | '$' => ["1"]
  | c => [(setting.args[c.toNat - 49]?).getD ""]

/-- The words that a word expands to. A quoted `$@` gives one word for each argument; what is neither
    text nor quoted gives as many words as its value has. -/
def expand (setting : Setting) (s : State) (w : Word) : List String :=
  match w with
  | [.parameter '@' true] => setting.args
  | [.parameter name false] => (parameter setting s name).flatMap Text.words
  | [] => [""]
  | pieces =>
    [String.join (pieces.map fun piece =>
      match piece with
      | .text cs => String.ofList cs
      | .parameter name _ => " ".intercalate (parameter setting s name))]

/-- The octets in which backslash escapes of an `echo` argument are replaced, and whether the output is
    cut there. -/
def unescape : List Char → List Char × Bool
  | '\\' :: 'n' :: rest => let (cs, cut) := unescape rest; ('\n' :: cs, cut)
  | '\\' :: 't' :: rest => let (cs, cut) := unescape rest; ('\t' :: cs, cut)
  | '\\' :: 'r' :: rest => let (cs, cut) := unescape rest; ('\r' :: cs, cut)
  | '\\' :: 'a' :: rest => let (cs, cut) := unescape rest; ('\x07' :: cs, cut)
  | '\\' :: 'b' :: rest => let (cs, cut) := unescape rest; ('\x08' :: cs, cut)
  | '\\' :: 'f' :: rest => let (cs, cut) := unescape rest; ('\x0c' :: cs, cut)
  | '\\' :: 'v' :: rest => let (cs, cut) := unescape rest; ('\x0b' :: cs, cut)
  | '\\' :: '\\' :: rest => let (cs, cut) := unescape rest; ('\\' :: cs, cut)
  | '\\' :: 'c' :: _ => ([], true)
  | c :: rest => let (cs, cut) := unescape rest; (c :: cs, cut)
  | [] => ([], false)

/-- What `echo` prints. -/
def echoed (args : List String) : Bytes :=
  let (silent, args) :=
    match args with
    | "-n" :: rest => (true, rest)
    | _ => (false, args)
  let (cs, cut) := unescape (" ".intercalate args).toList
  Utf8.encode (if cut || silent then cs else cs ++ ['\n'])

/-- A `printf` format for one argument. -/
def filled (arg : String) : List Char → List Char
  | '%' :: 's' :: rest => arg.toList ++ filled arg rest
  | '%' :: '%' :: rest => '%' :: filled arg rest
  | '\\' :: 'n' :: rest => '\n' :: filled arg rest
  | '\\' :: 't' :: rest => '\t' :: filled arg rest
  | '\\' :: '\\' :: rest => '\\' :: filled arg rest
  | c :: rest => c :: filled arg rest
  | [] => []

/-- What `printf` prints: the format once for each argument, and at least once. -/
def printed (args : List String) : Bytes :=
  match args with
  | [] => []
  | [format] => Utf8.encode (filled "" format.toList)
  | format :: rest =>
    if format.contains '%' then Utf8.encode (rest.flatMap fun arg => filled arg format.toList)
    else Utf8.encode (filled "" format.toList)

/-- What a command does: its output, its complaint, its code, and the end of the script. -/
structure Effect where
  out : Bytes := []
  complaint : String := ""
  code : Nat := 0
  ends : Option WaitStatus := none

def complain (setting : Setting) (line : Nat) (what : String) : String :=
  setting.name ++ ": " ++ toString line ++ ": " ++ what ++ "\n"

/-- The script sends itself a signal. -/
def killed (setting : Setting) (line : Nat) (name : String) : Effect :=
  match Signal.parse name with
  | .ok signal => { ends := signal.fatal? }
  | .error _ => { complaint := complain setting line ("kill: Illegal option -" ++ name), code := 2 }

def effect (setting : Setting) (s : State) (line : Nat) : List String → Effect
  | [] => { code := s.code }
  | "echo" :: args => { out := echoed args }
  | "printf" :: args => { out := printed args }
  | "true" :: _ | ":" :: _ | "touch" :: _ => {}
  | "false" :: _ => { code := 1 }
  | "exit" :: args =>
    match args with
    | [] => { code := s.code, ends := some (.exited (UInt8.ofNat s.code)) }
    | arg :: _ =>
      match Literal.uint64 arg with
      | .ok n => { ends := some (.exited (UInt8.ofNat n)) }
      | .error _ =>
        { complaint := complain setting line ("exit: Illegal number: " ++ arg)
          ends := some (.exited 2) }
  | ["exec"] => {}
  | "exec" :: name :: rest =>
    let e := effect setting s line (name :: rest)
    { e with
      complaint :=
        if e.code = 127 then complain setting line ("exec: " ++ name ++ ": not found")
        else e.complaint
      ends := e.ends.or (some (.exited (UInt8.ofNat e.code))) }
  | "sleep" :: _ | "/bin/sleep" :: _ => {}
  | "cat" :: [] => { out := setting.input }
  | "cat" :: name :: _ =>
    match s.files.find? (·.1 = name) with
    | some (_, content) => { out := content }
    | none => { complaint := "cat: " ++ name ++ ": No such file or directory\n", code := 1 }
  | ["kill", "1"] => { ends := Signal.term.fatal? }
  | ["kill", "-0", "1"] => {}
  | "kill" :: "-s" :: name :: "1" :: _ => killed setting line name
  | "kill" :: flag :: "1" :: _ => killed setting line (String.ofList (flag.toList.drop 1))
  | name :: _ =>
    { complaint := complain setting line (name ++ ": not found"), code := 127 }

/-- Puts octets where an output stream leads: the last redirection of a stream counts. -/
def emit (setting : Setting) (c : Simple) (s : State) (fd : Nat) (octets : Bytes) : State :=
  match (c.redirections.filter (·.1 = fd)).getLast? with
  | some (_, .file name appending) =>
    match expand setting s name with
    | [path] =>
      let old := if appending then ((s.files.find? (·.1 = path)).map (·.2)).getD [] else []
      if path = "/dev/null" then s
      else { s with files := (path, old ++ octets) :: s.files.filter (·.1 ≠ path) }
    | _ => s
  | some (_, .stream 2) => write .stderr
  | some (_, .stream _) => write .stdout
  | none => write (if fd = 2 then .stderr else .stdout)
where
  write (stream : OutStream) : State :=
    if octets.isEmpty then s else { s with writes := s.writes ++ [⟨stream, octets⟩] }

/-- Runs one command. -/
def step (setting : Setting) (s : State) (c : Simple) : State :=
  let runs : Bool :=
    match c.condition with
    | .always => true
    | .ifSucceeded => s.code == 0
    | .ifFailed => s.code != 0
  if s.ended.isSome || !runs then s
  else
    let e := effect setting s c.line (c.words.flatMap (expand setting s))
    let s := emit setting c s 1 e.out
    let s := emit setting c s 2 (Bytes.ofString e.complaint)
    { s with code := e.code, ended := e.ends }

/-- Runs a script on some files. -/
def run (setting : Setting) (files : List (String × Bytes)) (script : String) : State :=
  (parse script).foldl (step setting) { files }

/-- How a script has ended: with the code of its last command unless it said otherwise. -/
def State.status (s : State) : WaitStatus := s.ended.getD (.exited (UInt8.ofNat s.code))

end Overseer.Shell
