import DiagnosticMarkers.Text.Width

/-!
# Text in columns of a terminal

Tabs are widened, controls that would move the cursor are left out, and lines are broken
between words where they would not fit. A word is a run of characters that are no blanks,
with the blanks around it.
-/

namespace DiagnosticMarkers.Text

/-- The controls that are not shown: bell, backspace, vertical tab, form feed and carriage
return. -/
def isCursorControl (c : Char) : Bool :=
  let n := c.toNat
  n == 7 || n == 8 || n == 11 || n == 12 || n == 13

def withoutControls (text : Text) : Text :=
  text.filter fun c => !isCursorControl c

/-- A part of a line in front of a tab, with spaces up to the next multiple of eight cells.
The first space counts as part of the text. -/
def toTabStop (part : Text) : Text :=
  let used := width (part ++ [' '])
  part ++ List.replicate (1 + (8 - used % 8) % 8) ' '

def fillParts : List Text → Text
  | [] => []
  | [part] => part
  | part :: parts => toTabStop part ++ fillParts parts

def expandTabs (line : Text) : Text :=
  fillParts (cutAt '\t' line)

def joinFirst (text : Text) : List Text → List Text
  | [] => [text]
  | first :: rest => (text ++ first) :: rest

/-- The words of a line, the rest of the present word first. `inWord` says that the present
word has a character that is no blank, and `afterBlank` that the last character was one. -/
def wordsFrom (inWord afterBlank : Bool) : Text → List Text
  | [] => [[]]
  | c :: rest =>
    if isBlank c then joinFirst [c] (wordsFrom inWord true rest)
    else if inWord && afterBlank then [] :: joinFirst [c] (wordsFrom true false rest)
    else joinFirst [c] (wordsFrom true false rest)

def words (line : Text) : List Text :=
  wordsFrom false false line

def chopFrom (size room : Nat) : List Cluster → List Text
  | [] => [[]]
  | cluster :: rest =>
    if cluster.cells ≤ room then
      joinFirst cluster.text (chopFrom size (room - cluster.cells) rest)
    else [] :: joinFirst cluster.text (chopFrom size (size - cluster.cells) rest)

/-- Cut a text between clusters into pieces of at most `size` cells. -/
def chop (size : Nat) (text : Text) : List Text :=
  chopFrom size size (clusters text)

/-- A line that is being filled: the lines before it, its text, its cells, and whether a word
came before. -/
structure Filling where
  done : List Text := []
  line : Text := []
  cells : Nat := 0
  started : Bool := false

namespace Filling

/-- Put text on a new line, unless nothing came before. -/
def startLine (filling : Filling) (text : Text) : Filling :=
  if filling.started then
    { done := filling.line :: filling.done, line := text, cells := width text, started := true }
  else
    { filling with line := filling.line ++ text, cells := width text, started := !text.isEmpty }

/-- Add a word. It goes to the next line if it does not fit without the blanks behind it, and
it is cut if it fits on no line. -/
def add (size : Nat) (filling : Filling) (word : Text) : Filling :=
  let needed := width (trimEnd word)
  if filling.cells + needed ≤ size then
    { filling with
      line := filling.line ++ word, cells := filling.cells + width word, started := true }
  else if size < needed then (chop size word).foldl startLine filling
  else if filling.cells = 0 then { filling with line := filling.line ++ word, started := true }
  else filling.startLine word

def lines (filling : Filling) : List Text :=
  (filling.line :: filling.done).reverse

end Filling

/-- Break a line into lines of at most `size` cells, not counting blanks at their ends. -/
def breakLine (size : Nat) (line : Text) : List Text :=
  ((words line).foldl (Filling.add size) {}).lines

/-- Drop blanks that stand beyond the given number of characters at the end of a line. -/
def dropOverhang (size : Nat) (line : Text) : Text :=
  let blanks := line.length - (trimEnd line).length
  line.take (line.length - min blanks (line.length - size))

def fittingClusters (size : Nat) : List Cluster → Text
  | [] => []
  | cluster :: rest =>
    if cluster.cells ≤ size then
      cluster.text ++ fittingClusters (size - cluster.cells) rest
    else []

/-- The longest start of a line that has at most `size` cells. -/
def fitting (size : Nat) (line : Text) : Text :=
  fittingClusters size (clusters line)

def padEnd (size : Nat) (line : Text) : Text :=
  line ++ List.replicate (size - width line) ' '

/-- Exactly `size` cells of a line, with spaces where it has none. -/
def resize (size : Nat) (line : Text) : Text :=
  padEnd size (fitting size line)

end DiagnosticMarkers.Text
