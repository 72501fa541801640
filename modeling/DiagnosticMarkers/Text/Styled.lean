import DiagnosticMarkers.Text.Columns

/-!
# Styled text

Parts of a text may have a style, which is given in words. The styles themselves are not shown,
but where a part begins or ends a run of the text ends, and the cells of each run are counted for
itself: a joiner at the end of a run does not reach into the next one.
-/

namespace DiagnosticMarkers.Text

structure StyledPart where
  start : Nat
  stop : Nat
  style : Text
deriving DecidableEq, Repr

/-- The part of a styled part that lies in a piece of the text, if it is not empty. -/
def StyledPart.within? (offset size : Nat) (part : StyledPart) : Option StyledPart :=
  let start := part.start - offset
  let stop := min (part.stop - offset) size
  if start < stop then some { part with start, stop } else none

def StyledPart.shift (offset : Nat) (part : StyledPart) : StyledPart :=
  { part with start := part.start + offset, stop := part.stop + offset }

structure StyledText where
  text : Text
  parts : List StyledPart
deriving DecidableEq, Repr

namespace StyledText

def ofText (text : Text) : StyledText :=
  ⟨text, []⟩

def append (first second : StyledText) : StyledText :=
  ⟨first.text ++ second.text, first.parts ++ second.parts.map (StyledPart.shift first.text.length)⟩

def piece (styled : StyledText) (offset : Nat) (text : Text) : StyledText :=
  ⟨text, styled.parts.filterMap (StyledPart.within? offset text.length)⟩

/-- The pieces of a text from an offset on, with gaps between them. -/
def piecesFrom (styled : StyledText) (gap offset : Nat) : List Text → List StyledText
  | [] => []
  | text :: texts =>
    styled.piece offset text :: styled.piecesFrom gap (offset + text.length + gap) texts

/-- A text in pieces with gaps between them. One that is not divided keeps its empty parts,
too. -/
def divide (styled : StyledText) (gap : Nat) (texts : List Text) : List StyledText :=
  if texts.length ≤ 1 then [styled] else styled.piecesFrom gap 0 texts

def lines (styled : StyledText) : List StyledText :=
  styled.divide 1 (cutAt '\n' styled.text)

/-- A text in which a tab at its end is widened. What is styled up to there stays so. -/
def toTabStop (styled : StyledText) : StyledText :=
  let filled := Text.toTabStop styled.text.dropLast
  let extend (part : StyledPart) : StyledPart :=
    if part.stop = styled.text.length then { part with stop := filled.length } else part
  ⟨filled, styled.parts.map extend⟩

def fillParts (styled : StyledText) (offset : Nat) : List Text → StyledText
  | [] => ofText []
  | [last] => styled.piece offset last
  | text :: texts =>
    (styled.piece offset (text ++ ['\t'])).toTabStop.append
      (styled.fillParts (offset + text.length + 1) texts)

def expandTabs (styled : StyledText) : StyledText :=
  let texts := cutAt '\t' styled.text
  if texts.length ≤ 1 then styled else styled.fillParts 0 texts

/-- Replace a text by one that is no longer. -/
def replace (styled : StyledText) (text : Text) : StyledText :=
  let keep (part : StyledPart) : Option StyledPart :=
    if part.start < text.length then some { part with stop := min part.stop text.length }
    else none
  ⟨text, styled.parts.filterMap keep⟩

/-- Drop blanks that stand beyond the given number of characters at the end of a line. -/
def dropOverhang (size : Nat) (styled : StyledText) : StyledText :=
  if styled.text.length ≤ size then styled
  else styled.replace (Text.dropOverhang size styled.text)

/-- Cut a line off behind `size` cells, or fill it with spaces up to there. -/
def resize (size : Nat) (styled : StyledText) : StyledText :=
  if size < width styled.text then styled.replace (Text.resize size styled.text)
  else { styled with text := padEnd size styled.text }

def isEdge (styled : StyledText) (position : Nat) : Bool :=
  styled.parts.any fun part => part.start = position || part.stop = position

/-- The runs of the rest of a text from a place on. -/
def runsFrom (styled : StyledText) (position : Nat) : Text → List Text
  | [] => [[]]
  | c :: rest =>
    let runs := joinFirst [c] (styled.runsFrom (position + 1) rest)
    if styled.isEdge position then [] :: runs else runs

def runs (styled : StyledText) : List Text :=
  styled.runsFrom 0 styled.text

end StyledText

def runsWidth (runs : List Text) : Nat :=
  totalCells (runs.map width)

/-- Cut runs off behind `room` cells. The run that reaches there is the last one. -/
def cutRuns (room : Nat) : List Text → Text
  | [] => []
  | run :: runs =>
    if width run < room then run ++ cutRuns (room - width run) runs else resize room run

/-- Runs in exactly `size` cells, with spaces where they have none. -/
def fillRuns (size : Nat) (runs : List Text) : Text :=
  if size < runsWidth runs then cutRuns size runs
  else runs.flatten ++ List.replicate (size - runsWidth runs) ' '

end DiagnosticMarkers.Text
