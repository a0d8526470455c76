/-
EmbeddedGo.Console.Screen — what a command shows.

  §1 lines and tables
  §2 showing markup: characters that would move the cursor are dropped, and tabs become spaces
  §3 the lines that are seen
-/
import EmbeddedGo.Console.Markup
import EmbeddedGo.Text.Lines
import EmbeddedGo.Text.Width

namespace EmbeddedGo.Console

/-! ## §1 What is shown -/

/-- Something shown on its own lines. -/
inductive Shown where
  | text (s : Text)
  /-- What is being worked on. Its first line moves with the work, and does not stay. -/
  | task (s : Text)
  | table (title : Text) (rows : List (List Text))
  deriving DecidableEq

/-! ## §2 Showing -/

/-- The characters that are never shown: bell, backspace, vertical tab, form feed and carriage
return. -/
def isDropped (c : Char) : Bool :=
  let n := c.toNat
  n == 7 || n == 8 || n == 11 || n == 12 || n == 13

/-- The distance between tab stops, in cells. -/
def tabWidth : Nat := 8

/-- The pieces of a line between its tabs, with spaces up to the next stop for each tab, where so
many cells stand before them. A tab is at least one space. -/
def expandPieces : (column : Nat) → List Text → Text
  | _, [] => []
  | _, [piece] => piece
  | column, piece :: rest =>
    let reached := column + Text.width (piece ++ [' '])
    let stop := (reached + tabWidth - 1) / tabWidth * tabWidth
    piece ++ List.replicate (stop - reached + 1) ' ' ++ expandPieces stop rest

/-- A line with spaces for its tabs. -/
def expandLine (line : Text) : Text := expandPieces 0 (Text.splitOn '\t' line)

/-- A text with spaces for its tabs. -/
def expandTabs (s : Text) : Text := Text.join "\n" ((Text.splitOn '\n' s).map expandLine)

/-- A markup as it is shown, if it can be. -/
def shown (markup : Text) : Except Markup.Fault Text :=
  (Markup.render markup).map fun s => expandTabs (s.filter (!isDropped ·))

/-! ## §3 Lines -/

/-- The lines of a row of a table: those of its cells side by side, with nothing beside the longest
cell where another one has ended. -/
def rowLines (cells : List Text) : List (List Text) :=
  let columns := cells.map (Text.splitOn '\n')
  let height := columns.foldl (fun most lines => max most lines.length) 0
  (List.range height).map fun n => columns.map fun lines => lines[n]?.getD []

/-- The lines of what is shown, with bars between the cells of a row. -/
def Shown.lines : Shown → List Text
  | .text s => Text.lines s
  | .task s => (Text.splitOn '\n' s).drop 1
  | .table title rows =>
    Text.lines title ++
      (rows.flatMap rowLines).map fun cells => Text.join " | " (cells.map Text.trim)

end EmbeddedGo.Console
