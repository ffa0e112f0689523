-- SUMMARY: Unicode white space: trimming, words, lines.

/-!
# Blanks

The characters with the Unicode property `White_Space`, and what is cut at them.
-/

namespace Overseer

/-- The Unicode property `White_Space`. -/
def isBlank (c : Char) : Bool :=
  c = ' ' || ('\x09' ≤ c && c ≤ '\x0d') || c = '\u0085' || c = '\u00a0' || c = '\u1680'
    || ('\u2000' ≤ c && c ≤ '\u200a') || c = '\u2028' || c = '\u2029' || c = '\u202f'
    || c = '\u205f' || c = '\u3000'

namespace Blank

/-- The text without its leading and trailing blanks. -/
def trim (cs : List Char) : List Char :=
  ((cs.dropWhile isBlank).reverse.dropWhile isBlank).reverse

/-- The words found from here on, behind those in `found`; `word` is the unfinished word. Both are
    kept with the latest in front. -/
def wordsFrom (found : List (List Char)) (word : List Char) : List Char → List (List Char)
  | [] => (if word.isEmpty then found else word.reverse :: found).reverse
  | c :: cs =>
    if isBlank c then
      wordsFrom (if word.isEmpty then found else word.reverse :: found) [] cs
    else wordsFrom found (c :: word) cs

/-- The maximal runs of characters that are not blank. -/
def words (cs : List Char) : List (List Char) := wordsFrom [] [] cs

/-- A finished line, given with its last character in front: one carriage return before the line feed
    belongs to the line end. -/
def closeLine (line : List Char) : List Char :=
  match line with
  | '\r' :: rest => rest.reverse
  | _ => line.reverse

def linesFrom (found : List (List Char)) (line : List Char) : List Char → List (List Char)
  | [] => (if line.isEmpty then found else line.reverse :: found).reverse
  | c :: cs =>
    if c = '\n' then linesFrom (closeLine line :: found) [] cs
    else linesFrom found (c :: line) cs

/-- The lines of a text, each without its line end. What follows the last line feed is a line only if
    it is not empty. -/
def lines (cs : List Char) : List (List Char) := linesFrom [] [] cs

end Blank

namespace Text

def trim (s : String) : String := String.ofList (Blank.trim s.toList)

def words (s : String) : List String := (Blank.words s.toList).map String.ofList

def lines (s : String) : List String := (Blank.lines s.toList).map String.ofList

/-- The rest of a text that starts with `head`. -/
def strip? (head s : String) : Option String :=
  if s.startsWith head then some (String.ofList (s.toList.drop head.length)) else none

end Text

end Overseer
