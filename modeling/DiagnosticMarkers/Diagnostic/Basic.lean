import DiagnosticMarkers.Text.Basic

/-!
# Diagnostics

One record of a type checker's output: where it is, how serious it is, and what it says. Lines
and columns count from one. Two diagnostics are at one place only if their lines and their columns
agree, and a missing column agrees only with a missing column. Errors and warnings stand for
themselves; notes explain them.
-/

namespace DiagnosticMarkers

structure Location where
  line : Int
  col : Option Int
deriving DecidableEq, Repr

/-- The location as written in output: the line, then a colon and the column if there is one. -/
def Location.display (location : Location) : Text :=
  match location.col with
  | none => Text.ofInt location.line
  | some col => Text.ofInt location.line ++ ':' :: Text.ofInt col

inductive Severity where
  | error
  | warning
  | note
deriving DecidableEq, Repr

namespace Severity

def word : Severity → String
  | error => "error"
  | warning => "warning"
  | note => "note"

/-- Errors and warnings open a group of diagnostics; notes do not. -/
def isPrimary : Severity → Bool
  | error | warning => true
  | note => false

/-- The severity with exactly this word, in lower case. -/
def ofWord? (text : Text) : Option Severity :=
  [error, warning, note].find? fun severity => severity.word.toList == text

end Severity

/-- What a type checker says about one place of a file. -/
structure Diagnostic where
  path : Text
  location : Location
  severity : Severity
  text : Text
  one_le_line : 1 ≤ location.line
  one_le_col : ∀ col ∈ location.col, 1 ≤ col
deriving DecidableEq

end DiagnosticMarkers
