-- SUMMARY: Points in time in UTC, and their text after RFC 3339, read leniently.
import Overseer.Calendar.Date
import Overseer.Text.Blank

/-!
# Moments

A moment is a date and a time of day in UTC, with nanoseconds. A leap second is the second before it
with a thousand million nanoseconds more.

Written, a moment has a `T` between date and time, as few groups of three fraction digits as are exact,
and a `Z`. Read, white space may stand between the parts, a space may stand for the `T`, the numbers may
be shorter, and the time may be local with its offset from UTC.
-/

namespace Overseer.Calendar

def secondsPerDay : Nat := 86400

/-- The nanoseconds from which on a second is a leap second. -/
def leapNanos : Nat := 1000000000

structure Moment where
  date : Date
  /-- Seconds since midnight. -/
  second : Nat
  nano : Nat
  second_lt : second < secondsPerDay
  nano_lt : nano < 2 * leapNanos
  deriving DecidableEq

namespace Moment

/-! ## Writing -/

/-- A number with leading zeros up to the given width. -/
def padded (width n : Nat) : String :=
  let digits := toString n
  String.ofList (List.replicate (width - digits.length) '0') ++ digits

/-- Four digits; years before 0 and after 9999 have a sign and may have more digits. -/
def yearText (year : Int) : String :=
  if 0 ≤ year ∧ year ≤ 9999 then padded 4 year.toNat
  else (if year < 0 then "-" else "+") ++ padded 4 year.natAbs

def dateText (m : Moment) : String :=
  yearText m.date.year ++ "-" ++ padded 2 m.date.month ++ "-" ++ padded 2 m.date.day

/-- Hour, minute and second; a leap second is number 60. -/
def timeText (m : Moment) : String :=
  padded 2 (m.second / 3600) ++ ":" ++ padded 2 (m.second / 60 % 60) ++ ":"
    ++ padded 2 (m.second % 60 + m.nano / leapNanos)

/-- The fraction of the second, in the fewest groups of three digits. -/
def fractionText (m : Moment) : String :=
  let nano := m.nano % leapNanos
  if nano = 0 then ""
  else if nano % 1000000 = 0 then "." ++ padded 3 (nano / 1000000)
  else if nano % 1000 = 0 then "." ++ padded 6 (nano / 1000)
  else "." ++ padded 9 nano

def text (m : Moment) : String := m.dateText ++ "T" ++ m.timeText ++ m.fractionText ++ "Z"

/-- Date and time with a space between them and without the fraction. -/
def plainText (m : Moment) : String := m.dateText ++ " " ++ m.timeText

/-! ## Reading -/

/-- Why a text is no date and time. -/
inductive Problem where
  | outOfRange
  | impossible
  | invalid
  | tooShort
  | tooLong
  deriving DecidableEq, Repr

def Problem.message : Problem → String
  | outOfRange => "input is out of range"
  | impossible => "no possible date and time matching input"
  | invalid => "input contains invalid characters"
  | tooShort => "premature end of input"
  | tooLong => "trailing input"

/-- A part of the text that was read, and the text behind it. -/
abbrev Part (α : Type) := Except Problem (α × List Char)

def skipBlanks (cs : List Char) : List Char := cs.dropWhile isBlank

/-- The number written with the given digits. -/
def value (digits : List Char) : Nat :=
  digits.foldl (fun n c => n * 10 + (c.toNat - 48)) 0

/-- A number of one to `width` digits, not above `limit`. -/
def number (width limit : Nat) (cs : List Char) : Part Nat :=
  let digits := (cs.take width).takeWhile Char.isDigit
  if cs.isEmpty then .error .tooShort
  else if digits.isEmpty then .error .invalid
  else if limit < value digits then .error .outOfRange
  else .ok (value digits, cs.drop digits.length)

/-- A number of one or two digits between `low` and `high`, behind white space. -/
def small (low high : Nat) (cs : List Char) : Part Nat :=
  match number 2 high (skipBlanks cs) with
  | .error why => .error why
  | .ok (n, rest) => if n < low then .error .outOfRange else .ok (n, rest)

/-- A character, behind white space. -/
def mark (c : Char) (cs : List Char) : Except Problem (List Char) :=
  match skipBlanks cs with
  | [] => .error .tooShort
  | d :: rest => if d = c then .ok rest else .error .invalid

/-- The largest year that is read at all. -/
def yearLimit : Nat := 2147483647

/-- A year: up to four digits, or a sign and any number of digits. -/
def year (cs : List Char) : Part Int :=
  match skipBlanks cs with
  | '-' :: rest =>
    match number rest.length (yearLimit + 1) rest with
    | .error why => .error why
    | .ok (n, rest) => .ok (-n, rest)
  | '+' :: rest =>
    match number rest.length yearLimit rest with
    | .error why => .error why
    | .ok (n, rest) => .ok (n, rest)
  | cs =>
    match number 4 yearLimit cs with
    | .error why => .error why
    | .ok (n, rest) => .ok (n, rest)

/-- The fraction of a second in nanoseconds; digits behind the ninth do not count. -/
def fraction (cs : List Char) : Part Nat :=
  match cs with
  | '.' :: rest =>
    match number 9 leapNanos rest with
    | .error why => .error why
    | .ok (n, after) =>
      let count := rest.length - after.length
      .ok (n * Nat.pow 10 (9 - count), after.dropWhile Char.isDigit)
  | _ => .ok (0, cs)

/-- The sign of an offset: whether it is negative. -/
def offsetSign (cs : List Char) : Part Bool :=
  match cs with
  | '+' :: rest => .ok (false, rest)
  | '-' :: rest => .ok (true, rest)
  | '\u2212' :: rest => .ok (true, rest)
  | _ :: _ => .error .invalid
  | [] => .error .tooShort

/-- The two digits of the hours of an offset. A character of several octets counts as so many. -/
def offsetHours (cs : List Char) : Part Nat :=
  match cs with
  | a :: b :: rest =>
    if a.isDigit && b.isDigit then .ok (value [a, b], rest) else .error .invalid
  | [a] => .error (if a.utf8Size < 2 then .tooShort else .invalid)
  | [] => .error .tooShort

/-- The two digits of the minutes of an offset. -/
def offsetMinutes (cs : List Char) : Part Nat :=
  match cs with
  | a :: b :: rest =>
    if a.isDigit && b.isDigit then
      if value [a, b] < 60 then .ok (value [a, b], rest) else .error .outOfRange
    else .error .invalid
  | [a] => .error (if a.utf8Size < 2 then .tooShort else .invalid)
  | [] => .error .tooShort

/-- The offset of local time from UTC in seconds. -/
def offset (cs : List Char) : Part Int :=
  match skipBlanks cs with
  | 'Z' :: rest | 'z' :: rest => .ok (0, rest)
  | cs =>
    if (cs.take 3).map Char.toUpper = ['U', 'T', 'C'] then .ok (0, cs.drop 3)
    else
      match offsetSign cs with
      | .error why => .error why
      | .ok (negative, rest) =>
        match offsetHours rest with
        | .error why => .error why
        | .ok (hours, rest) =>
          match offsetMinutes (rest.dropWhile fun c => c = ':' || isBlank c) with
          | .error why => .error why
          | .ok (minutes, rest) =>
            let seconds : Int := hours * 3600 + minutes * 60
            .ok (if negative then -seconds else seconds, rest)

/-- The moment at which a clock that is `offset` seconds ahead of UTC shows a date and a time of
    day. -/
def ofLocal (date : Date) (second nano : Nat) (offset : Int) : Except Problem Moment :=
  if h : nano < 2 * leapNanos then
    if secondsPerDay ≤ offset.natAbs then .error .outOfRange
    else
      let shifted := (second : Int) - offset
      let day? :=
        if shifted < 0 then date.previous?
        else if secondsPerDay ≤ shifted then date.next?
        else some date
      match day? with
      | none => .error .impossible
      | some day =>
        .ok ⟨day, (shifted % secondsPerDay).toNat, nano, by
          simp only [secondsPerDay]; omega, h⟩
  else .error .outOfRange

/-- Year, month and day. -/
def dateFields (cs : List Char) : Part (Int × Nat × Nat) :=
  match year cs with
  | .error why => .error why
  | .ok (y, rest) =>
    match mark '-' rest with
    | .error why => .error why
    | .ok rest =>
      match small 1 12 rest with
      | .error why => .error why
      | .ok (m, rest) =>
        match mark '-' rest with
        | .error why => .error why
        | .ok rest =>
          match small 1 31 rest with
          | .error why => .error why
          | .ok (d, rest) => .ok ((y, m, d), rest)

/-- Hour, minute, second and nanoseconds. -/
def timeFields (cs : List Char) : Part (Nat × Nat × Nat × Nat) :=
  match small 0 23 cs with
  | .error why => .error why
  | .ok (hour, rest) =>
    match mark ':' rest with
    | .error why => .error why
    | .ok rest =>
      match small 0 59 rest with
      | .error why => .error why
      | .ok (minute, rest) =>
        match mark ':' rest with
        | .error why => .error why
        | .ok rest =>
          match small 0 60 rest with
          | .error why => .error why
          | .ok (second, rest) =>
            match fraction rest with
            | .error why => .error why
            | .ok (nano, rest) => .ok ((hour, minute, second, nano), rest)

/-- The mark between date and time. -/
def separator (cs : List Char) : Except Problem (List Char) :=
  match cs with
  | c :: rest => if c = 'T' ∨ c = 't' ∨ c = ' ' then .ok rest else .error .invalid
  | [] => .error .tooShort

/-- The moment of a date and a time of day that are shown `offset` seconds ahead of UTC. Second 60 is a
    leap second. -/
def assemble (date : Int × Nat × Nat) (time : Nat × Nat × Nat × Nat) (offset : Int) :
    Except Problem Moment :=
  let (y, m, d) := date
  let (hour, minute, second, nano) := time
  match Date.of? y m d with
  | none => .error .outOfRange
  | some date =>
    let (second, nano) := if second = 60 then (59, nano + leapNanos) else (second, nano)
    ofLocal date (hour * 3600 + minute * 60 + second) nano offset

def parse (text : String) : Except Problem Moment :=
  match dateFields text.toList with
  | .error why => .error why
  | .ok (date, rest) =>
    match separator rest with
    | .error why => .error why
    | .ok rest =>
      match timeFields rest with
      | .error why => .error why
      | .ok (time, rest) =>
        match offset rest with
        | .error why => .error why
        | .ok (shift, rest) =>
          if (skipBlanks rest).isEmpty then assemble date time shift else .error .tooLong

end Moment

end Overseer.Calendar
