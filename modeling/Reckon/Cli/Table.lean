/-!
# Command line — tables

A table with a title above it, a heavy frame around its head and a light
one around its rows. A column is as wide as its widest cell, with one blank
on either side.
-/

namespace Reckon

namespace Cli

/-- A table: a title, the head and the rows, all of one length. -/
structure Table where
  title : String
  head : List String
  rows : List (List String)

namespace Table

/-- The widest cell of each column. -/
def widths (t : Table) : List Nat :=
  t.rows.foldl (fun ws row => List.zipWith (fun w cell => max w cell.length) ws row)
    (t.head.map String.length)

/-- So many copies of a character. -/
def copies (c : Char) (n : Nat) : String :=
  String.ofList (List.replicate n c)

/-- A line of the frame: its left end, filling, joint and right end. -/
def rule (left fill joint right : Char) (ws : List Nat) : String :=
  String.ofList [left] ++
    (String.ofList [joint]).intercalate (ws.map fun w => copies fill (w + 2)) ++
    String.ofList [right]

/-- A line of cells between bars. -/
def line (bar : Char) (ws : List Nat) (cells : List String) : String :=
  let sides := String.ofList [bar]
  let cell (w : Nat) (s : String) : String := " " ++ s ++ copies ' ' (w - s.length) ++ " "
  sides ++ sides.intercalate (List.zipWith cell ws cells) ++ sides

/-- The title in the middle of a line, to the left where the middle is
uneven. -/
def centered (width : Nat) (s : String) : String :=
  let room := width - s.length
  copies ' ' (room / 2) ++ s ++ copies ' ' (room - room / 2)

/-- The lines of a table. -/
def lines (t : Table) : List String :=
  let ws := t.widths
  let top := rule '┏' '━' '┳' '┓' ws
  [centered top.length t.title, top, line '┃' ws t.head, rule '┡' '━' '╇' '┩' ws] ++
    t.rows.map (line '│' ws) ++ [rule '└' '─' '┴' '┘' ws]

end Table

end Cli

end Reckon
