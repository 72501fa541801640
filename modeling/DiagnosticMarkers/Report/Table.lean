import DiagnosticMarkers.Group
import DiagnosticMarkers.Number
import DiagnosticMarkers.Report.Markup

/-!
# Tables of markers

One row for each marker, with a space on both sides of each cell and lines around and between
the columns. A table is at most 80 cells wide: where its columns would need more, the widest
ones give way, and their cells are broken into several lines or cut off.
-/

namespace DiagnosticMarkers.Report

open Text

def tableWidth : Nat := 80

structure Column where
  header : String
  /-- Cells are set against the right side and cut off with an ellipsis if they do not fit;
  other cells are set against the left side. -/
  toRight : Bool := false
  /-- Words that fit on no line go on in the next one. -/
  folds : Bool := false
  /-- The markup of the cells below the header. -/
  cells : List Text

def table (markers : List Marker) : List Column :=
  [{ header := "Line", toRight := true
     cells := markers.map fun marker => Text.ofInt marker.location.line },
    { header := "Col", toRight := true
      cells := markers.map fun marker => (marker.location.col.map Text.ofInt).getD [] },
    { header := "Severity", cells := markers.map fun marker => marker.severity.word.toList },
    { header := "Message", folds := true, cells := markers.map Marker.message }]

def cellWidth (cell : Text) : Nat :=
  ((Text.lines cell).map width).foldl max 0 + 2

/-- The width of a column whose cells are not broken, if that is not too wide. -/
def naturalWidth (room : Nat) (cells : List Text) : Nat :=
  min room ((cells.map cellWidth).foldl max 0)

/-- Take `excess` from the columns that are marked, each time an even share of what is left,
but from none more than `most`. -/
def share (excess most : Nat) : List (Nat × Bool) → List Nat
  | [] => []
  | (width, false) :: rest => width :: share excess most rest
  | (width, true) :: rest =>
    let part := min most (roundDiv excess (1 + (rest.filter Prod.snd).length))
    (width - part) :: share (excess - part) most rest

/-- Narrow the widest columns to the width of the next widest ones, but no more than needed. -/
def narrowOnce (room : Nat) (widths : List Nat) : List Nat :=
  let excess := totalCells widths - room
  let widest := widths.foldl max 0
  let second := (widths.filter (· != widest)).foldl max 0
  share excess (min excess (widest - second)) (widths.map fun width => (width, width == widest))

/-- Narrow columns until they fit. Each round takes something, so there are no more rounds
than cells. -/
def narrow (room : Nat) : Nat → List Nat → List Nat
  | 0, widths => widths
  | rounds + 1, widths =>
    if totalCells widths ≤ room then widths else narrow room rounds (narrowOnce room widths)

def columnWidths (columns : List (List Text)) : List Nat :=
  let room := tableWidth - (columns.length + 1)
  let natural := columns.map (naturalWidth room)
  narrow room (totalCells natural) natural

/-- A line with an ellipsis in its last cell if it does not fit. -/
def withEllipsis (size : Nat) (line : StyledText) : StyledText :=
  if size < width line.text then line.replace (resize (size - 1) line.text ++ ['\u2026'])
  else line

/-- A line of a cell, set in a column: the blanks in front of it, and the line. -/
def setLine (column : Column) (size : Nat) (line : StyledText) : StyledText :=
  let line := line.dropOverhang size
  if column.toRight then
    let line := withEllipsis size (line.replace (trimEnd line.text))
    (StyledText.ofText (List.replicate (size - width line.text) ' ')).append line
  else (if column.folds then line else withEllipsis size line).resize size

/-- The lines of a cell in a column whose width includes the spaces at the sides. The styles on
all lines are read before the first line is filled. -/
def cellLines (column : Column) (columnWidth : Nat) (cell : StyledText) :
    Except MarkupFault (List Text) := do
  let size := columnWidth - 2
  let lines := cell.lines.flatMap fun line =>
    let line := line.expandTabs
    let broken := if column.folds then line.divide 0 (breakLine size line.text) else [line]
    broken.map (setLine column size)
  (lines.flatMap StyledText.parts).forM fun part =>
    (checkStyle part.style).mapError .component
  return lines.map fun line => ' ' :: fillRuns size line.runs ++ [' ']

/-- The lines of a row between the given marks. Cells with fewer lines are blank below. -/
def rowLines (mark : Char) (widths : List Nat) (cells : List (List Text)) : Text :=
  let height := (cells.map List.length).foldl max 1
  (List.range height).flatMap fun index =>
    let line := (cells.zip widths).map fun (lines, width) =>
      lines[index]?.getD (List.replicate width ' ')
    mark :: joinWith [mark] line ++ [mark, '\n']

/-- A line between rows: its left end, its stroke, its crossings and its right end. -/
def rule (left stroke crossing right : Char) (widths : List Nat) : Text :=
  left :: joinWith [crossing] (widths.map fun width => List.replicate width stroke)
    ++ [right, '\n']

/-- Draw a table. All cells are read to find the widths of the columns. Then one row after the
other is set. -/
def draw (columns : List Column) : Except MarkupFault Text := do
  let cells ← columns.mapM fun column => column.cells.mapM renderMarkup
  let headers := columns.map fun column => StyledText.ofText column.header.toList
  let widths := columnWidths <| (headers.zip cells).map fun (header, cells) =>
    (header :: cells).map StyledText.text
  let setRow (mark : Char) (row : List StyledText) : Except MarkupFault Text := do
    let lines ← ((columns.zip widths).zip row).mapM fun ((column, width), cell) =>
      cellLines column width cell
    return rowLines mark widths lines
  let rows := (List.range ((cells.map List.length).foldl max 0)).map fun index =>
    cells.map fun column => column[index]?.getD (.ofText [])
  let header ← setRow '\u2503' headers
  let body ← rows.mapM (setRow '\u2502')
  return rule '\u250F' '\u2501' '\u2533' '\u2513' widths ++ header
    ++ rule '\u2521' '\u2501' '\u2547' '\u2529' widths ++ body.flatten
    ++ rule '\u2514' '\u2500' '\u2534' '\u2518' widths

end DiagnosticMarkers.Report
