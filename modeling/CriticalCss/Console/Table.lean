import CriticalCss.Console.Markup

/-!
# Tables

A table is printed in a frame, its head set off by heavy lines where there are strokes for them. Its cells hold marked texts. Every
column is as wide as its widest cell, with one blank on either side.
-/

namespace CriticalCss

/-- Where the text of a cell stands. -/
inductive Justification
  | left
  | right
  deriving DecidableEq, Repr

/-- A column of a table. -/
structure Column where
  label : Text
  justification : Justification := .left
  deriving DecidableEq, Repr

/-- A table. The cells of a row are marked texts, which belong to the columns one by one. -/
structure Table where
  title : Text
  columns : List Column
  rows : List (List Text)
  deriving DecidableEq, Repr

/-- The strokes of a line across a table: at its left end, along a column, between two columns, and at its right end. -/
structure Strokes where
  left : Char
  along : Char
  between : Char
  right : Char

/-- The lines of a table, by their strokes. -/
structure Frame where
  /-- Above the head. -/
  top : Strokes
  /-- Around the cells of the head. -/
  headCells : Strokes
  underHead : Strokes
  /-- Around the cells of a row. -/
  rowCells : Strokes
  /-- Under the rows. -/
  bottom : Strokes

namespace Frame

/-- A frame of strokes. -/
def drawn : Frame where
  top := ⟨'┏', '━', '┳', '┓'⟩
  headCells := ⟨'┃', ' ', '┃', '┃'⟩
  underHead := ⟨'┡', '━', '╇', '┩'⟩
  rowCells := ⟨'│', ' ', '│', '│'⟩
  bottom := ⟨'└', '─', '┴', '┘'⟩

/-- A frame of signs of ASCII. -/
def typed : Frame where
  top := ⟨'+', '-', '-', '+'⟩
  headCells := ⟨'|', ' ', '|', '|'⟩
  underHead := ⟨'|', '-', '+', '|'⟩
  rowCells := ⟨'|', ' ', '|', '|'⟩
  bottom := ⟨'+', '-', '-', '+'⟩

/-- The frame of the tables of a host. -/
def ofHost [Host] : Frame := if Host.hasStrokes then drawn else typed

end Frame

namespace Table

variable [Host]

/-- A text with blanks up to a width. -/
def fit (width : Nat) : Justification → Text → Text
  | .left, t => t ++ List.replicate (width - Host.columns t) ' '
  | .right, t => List.replicate (width - Host.columns t) ' ' ++ t

/-- The width of the widest cell in a place of each row. -/
def widthAt (rows : List (List Text)) (place : Nat) : Nat :=
  rows.foldl (fun width row => max width (Host.columns ((row[place]?).getD []))) 0

/-- The widths of the columns, without the blanks on either side, for a head and the rows under it as they look. -/
def widthsOf (columns : List Column) (rows : List (List Text)) : List Nat :=
  (List.range columns.length).map (widthAt (columns.map (·.label) :: rows))

/-- A line across the table with the given pieces in its columns. -/
def across (s : Strokes) (pieces : List Text) : Text := s.left :: (Text.joinWith [s.between] pieces ++ [s.right, '\n'])

/-- A line without cells. -/
def ruleLine (s : Strokes) (widths : List Nat) : Text := across s (widths.map fun w => List.replicate (w + 2) s.along)

/-- A line of cells. -/
def cellLine (s : Strokes) (columns : List (Column × Nat)) (cells : List Text) : Text :=
  across s ((columns.zip cells).map fun c => ' ' :: (fit c.1.2 c.1.1.justification c.2 ++ [' ']))

/-- The width of the whole table, with its frame. -/
def totalWidth (widths : List Nat) : Nat := widths.foldl (fun total width => total + width + 3) 1

/-- The table as it is printed: its title in the middle over it, and then its lines. -/
def printed (t : Table) : Text :=
  let rows := t.rows.map (·.map Markup.laidOut)
  let widths := widthsOf t.columns rows
  let columns := t.columns.zip widths
  let frame := Frame.ofHost
  List.replicate ((totalWidth widths - Host.columns t.title) / 2) ' ' ++ t.title ++ ['\n'] ++
  ruleLine frame.top widths ++ cellLine frame.headCells columns (t.columns.map (·.label)) ++ ruleLine frame.underHead widths ++
  rows.flatMap (cellLine frame.rowCells columns) ++ ruleLine frame.bottom widths

end Table

end CriticalCss
