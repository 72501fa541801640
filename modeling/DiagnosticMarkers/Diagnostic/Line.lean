import DiagnosticMarkers.Diagnostic.Basic
import DiagnosticMarkers.Number

/-!
# Diagnostic lines

A diagnostic is printed on one line as

    path:line: severity: text
    path:line:col: severity: text
    path:line:col:endLine:endCol: severity: text

The path ends at the first colon from which the rest of the line can be read, so a colon
after a drive letter stays in the path. What follows the path can be read in one way at
most. End positions are read and dropped.
-/

namespace DiagnosticMarkers

open Text

namespace Diagnostic

structure Written where
  line : Text
  col : Option Text
  word : Text
  message : Text
deriving DecidableEq, Repr

def colonNumber? : Text → Option (Text × Text)
  | ':' :: rest =>
    if (rest.takeWhile isDigit).isEmpty then none
    else some (rest.takeWhile isDigit, rest.dropWhile isDigit)
  | _ => none

/-- Drop an end line and an end column, if both are written. -/
def dropEnd (rest : Text) : Text :=
  match colonNumber? rest with
  | none => rest
  | some (_, afterLine) =>
    match colonNumber? afterLine with
    | none => rest
    | some (_, afterCol) => afterCol

def column (rest : Text) : Option Text × Text :=
  match colonNumber? rest with
  | none => (none, rest)
  | some (col, afterCol) => (some col, dropEnd afterCol)

/-- A colon, blanks, a word of ASCII letters, a colon and a message to the end of the line. -/
def wordAndMessage? : Text → Option (Text × Text)
  | ':' :: rest =>
    let body := rest.dropWhile isBlank
    match body.takeWhile Char.isAlpha, body.dropWhile Char.isAlpha with
    | [], _ => none
    | word, ':' :: message => if message.contains '\n' then none else some (word, message)
    | _, _ => none
  | _ => none

/-- Read a line from the colon on that ends the path. -/
def afterPath? (rest : Text) : Option Written :=
  match colonNumber? rest with
  | none => none
  | some (line, afterLine) =>
    match wordAndMessage? (column afterLine).2 with
    | none => none
    | some (word, message) => some ⟨line, (column afterLine).1, word, message⟩

/-- Read a line of which a part may already belong to the path. The path takes one more
character until the rest can be read; it holds no newline and is not empty. -/
def splitPath? (inPath : Bool) : Text → Option (Text × Written)
  | [] => none
  | c :: rest =>
    match if inPath then afterPath? (c :: rest) else none with
    | some written => some ([], written)
    | none =>
      if c = '\n' then none
      else (splitPath? true rest).map fun (path, written) => (c :: path, written)

/-- Take a line apart at the end of its shortest path. -/
def factor? (line : Text) : Option (Text × Written) :=
  splitPath? false line

/-- The diagnostic that the written parts stand for. There is none if the severity word is
unknown, or if the line or the column is zero. Numbers are converted once the word is known,
the line before the column. -/
def ofWritten (path : Text) (written : Written) : Except OverlongNumber (Option Diagnostic) :=
  match Severity.ofWord? written.word with
  | none => .ok none
  | some severity => do
    let line ← numberOf written.line
    match written.col with
    | none =>
      if one_le_line : 1 ≤ line then
        return some
          { path, location := ⟨line, none⟩, severity,
            text := trim written.message, one_le_line := Int.ofNat_le.mpr one_le_line,
            one_le_col := by simp }
      else return none
    | some digits =>
      let col ← numberOf digits
      if bounds : 1 ≤ line ∧ 1 ≤ col then
        return some
          { path, location := ⟨line, some col⟩, severity,
            text := trim written.message, one_le_line := Int.ofNat_le.mpr bounds.1,
            one_le_col := by simpa using Int.ofNat_le.mpr bounds.2 }
      else return none

/-- Read one line of output. Blank lines, summaries and lines of any other form hold no
diagnostic. -/
def ofLine (raw : Text) : Except OverlongNumber (Option Diagnostic) :=
  match factor? (trim raw) with
  | none => .ok none
  | some (path, written) => ofWritten path written

end Diagnostic

end DiagnosticMarkers
