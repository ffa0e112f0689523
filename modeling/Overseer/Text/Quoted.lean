-- SUMMARY: Quoted text with escapes, as diagnostics show it.
import Overseer.Text.Repertoire

/-!
# Quoted text

The form in which a diagnostic shows a string: between double quotes, with everything that is
invisible or would run together with its neighbour escaped.
-/

namespace Overseer.Quoted

/-- A code point in lower-case hexadecimal. -/
def hexadecimal (n : Nat) : String := String.ofList (Nat.toDigits 16 n)

/-- How one character is written between the quotes. -/
def escape (c : Char) : String :=
  if c = '\x00' then "\\0"
  else if c = '\t' then "\\t"
  else if c = '\n' then "\\n"
  else if c = '\r' then "\\r"
  else if c = '\\' then "\\\\"
  else if c = '\x22' then "\\\""
  else if Repertoire.isExtender c || !Repertoire.isPrintable c then
    "\\u\x7b" ++ hexadecimal c.toNat ++ "\x7d"
  else String.singleton c

/-- The quoted form of a text. -/
def quote (s : String) : String := "\"" ++ String.join (s.toList.map escape) ++ "\""

end Overseer.Quoted
