-- SUMMARY: Plain tables for terminals.
import Overseer.Text.Columns

/-!
# Tables

Columns stand side by side without lines between them. A cell is padded to the width of its column and
has a space on either side; a line feed in a cell makes its row higher.
-/

namespace Overseer.CommandLine.Table

abbrev Row := List String

/-- The lines of a cell; what follows the last line feed is a line too. -/
def cellLines (cell : String) : List (List Char) :=
  cell.toList.foldr
    (fun c lines =>
      if c = '\n' then [] :: lines
      else
        match lines with
        | line :: rest => (c :: line) :: rest
        | [] => [[c]])
    [[]]

def cellWidth (cell : String) : Nat := ((cellLines cell).map Columns.ofList).foldl max 0

/-- The widths of the columns of a table. -/
def widths (rows : List Row) : List Nat :=
  rows.foldl
    (fun found row =>
      let here := row.map cellWidth
      (List.range (max found.length here.length)).map fun i =>
        max ((found[i]?).getD 0) ((here[i]?).getD 0))
    []

/-- One line of a cell, padded. -/
def padded (width : Nat) (line : List Char) : List Char :=
  ' ' :: line ++ List.replicate (width - Columns.ofList line) ' ' ++ [' ']

/-- The lines of a row. -/
def rowLines (widths : List Nat) (row : Row) : List (List Char) :=
  let cells := row.map cellLines
  let height := (cells.map List.length).foldl max 0
  (List.range height).map fun i =>
    (cells.zip widths).flatMap fun (lines, width) => padded width ((lines[i]?).getD [])

/-- A table, its lines separated by line feeds. -/
def text (rows : List Row) : String :=
  let columns := widths rows
  "\n".intercalate ((rows.flatMap (rowLines columns)).map String.ofList)

end Overseer.CommandLine.Table
