-- SUMMARY: Signals: numbers, names, and reading them.
import Overseer.Text.Blank
import Overseer.Number.Literal

/-!
# Signals

The standard signals of Linux. A signal is given by its number or by its name, with or without the
leading `SIG`, in letters of either case. Real-time signals have no name.
-/

namespace Overseer

inductive Signal where
  | hup
  | int
  | quit
  | ill
  | trap
  | abrt
  | bus
  | fpe
  | kill
  | usr1
  | segv
  | usr2
  | pipe
  | alrm
  | term
  | stkflt
  | chld
  | cont
  | stop
  | tstp
  | ttin
  | ttou
  | urg
  | xcpu
  | xfsz
  | vtalrm
  | prof
  | winch
  | io
  | pwr
  | sys
  deriving DecidableEq, Repr

namespace Signal

/-- All signals, in the order of their numbers, which start at 1. -/
def all : List Signal := [
  hup, int, quit, ill, trap, abrt, bus, fpe, kill, usr1, segv, usr2, pipe, alrm, term, stkflt,
  chld, cont, stop, tstp, ttin, ttou, urg, xcpu, xfsz, vtalrm, prof, winch, io, pwr, sys]

def number : Signal → Nat
  | hup => 1
  | int => 2
  | quit => 3
  | ill => 4
  | trap => 5
  | abrt => 6
  | bus => 7
  | fpe => 8
  | kill => 9
  | usr1 => 10
  | segv => 11
  | usr2 => 12
  | pipe => 13
  | alrm => 14
  | term => 15
  | stkflt => 16
  | chld => 17
  | cont => 18
  | stop => 19
  | tstp => 20
  | ttin => 21
  | ttou => 22
  | urg => 23
  | xcpu => 24
  | xfsz => 25
  | vtalrm => 26
  | prof => 27
  | winch => 28
  | io => 29
  | pwr => 30
  | sys => 31

def name : Signal → String
  | hup => "SIGHUP"
  | int => "SIGINT"
  | quit => "SIGQUIT"
  | ill => "SIGILL"
  | trap => "SIGTRAP"
  | abrt => "SIGABRT"
  | bus => "SIGBUS"
  | fpe => "SIGFPE"
  | kill => "SIGKILL"
  | usr1 => "SIGUSR1"
  | segv => "SIGSEGV"
  | usr2 => "SIGUSR2"
  | pipe => "SIGPIPE"
  | alrm => "SIGALRM"
  | term => "SIGTERM"
  | stkflt => "SIGSTKFLT"
  | chld => "SIGCHLD"
  | cont => "SIGCONT"
  | stop => "SIGSTOP"
  | tstp => "SIGTSTP"
  | ttin => "SIGTTIN"
  | ttou => "SIGTTOU"
  | urg => "SIGURG"
  | xcpu => "SIGXCPU"
  | xfsz => "SIGXFSZ"
  | vtalrm => "SIGVTALRM"
  | prof => "SIGPROF"
  | winch => "SIGWINCH"
  | io => "SIGIO"
  | pwr => "SIGPWR"
  | sys => "SIGSYS"

def ofNumber? (n : Int) : Option Signal := all.find? fun s => (s.number : Int) = n

def ofName? (name : String) : Option Signal := all.find? fun s => s.name = name

/-- Why a text names no signal. -/
inductive Unknown where
  | number (n : Int)
  | name (text : String)
  deriving DecidableEq, Repr

def Unknown.message : Unknown → String
  | number n => "unknown signal number " ++ toString n
  | name text => "unknown signal '" ++ text ++ "'"

/-- The name in capitals, with `SIG` in front. -/
def fullName (text : String) : String :=
  let upper := String.ofList (text.toList.map Char.toUpper)
  if upper.startsWith "SIG" then upper else "SIG" ++ upper

/-- The signal that a text stands for; white space around it does not matter. -/
def parse (text : String) : Except Unknown Signal :=
  let text := Text.trim text
  match Literal.int32? text with
  | some n =>
    match ofNumber? n with
    | some s => .ok s
    | none => .error (.number n)
  | none =>
    match ofName? (fullName text) with
    | some s => .ok s
    | none => .error (.name text)

end Signal

end Overseer
