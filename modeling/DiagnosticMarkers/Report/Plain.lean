import DiagnosticMarkers.Group
import DiagnosticMarkers.Text.Columns
import DiagnosticMarkers.Text.Quoted

/-!
# Reports without markup

Markers are written as a JSON array of objects, indented by two spaces, in ASCII. Characters
outside of ASCII are escaped by their UTF-16 units. A status line begins with a symbol for what
happened. Its text is shown as it is, but for tabs and controls.
-/

namespace DiagnosticMarkers.Report

open Text

/-- The escape of one UTF-16 unit. -/
def unitEscape (unit : Nat) : Text :=
  '\\' :: 'u' :: hexDigits 4 unit

/-- A character between the quotation marks of a JSON string. -/
def jsonChar (c : Char) : Text :=
  let n := c.toNat
  if c = '"' || c = '\\' then ['\\', c]
  else if c = '\n' then ['\\', 'n']
  else if c = '\r' then ['\\', 'r']
  else if c = '\t' then ['\\', 't']
  else if n = 8 then ['\\', 'b']
  else if n = 12 then ['\\', 'f']
  else if 32 ≤ n && n < 128 then [c]
  else if n < 0x10000 then unitEscape n
  else
    unitEscape (0xD800 + (n - 0x10000) / 0x400) ++ unitEscape (0xDC00 + (n - 0x10000) % 0x400)

def jsonText (text : Text) : Text :=
  '"' :: text.flatMap jsonChar ++ ['"']

def jsonEntries (marker : Marker) : List (String × Text) :=
  [("line", Text.ofInt marker.location.line),
    ("col", (marker.location.col.map Text.ofInt).getD "null".toList),
    ("severity", jsonText marker.severity.word.toList),
    ("message", jsonText marker.message)]

def indent (depth : Nat) : Text :=
  '\n' :: List.replicate (2 * depth) ' '

/-- An object, indented by one level. -/
def jsonObject (entries : List (String × Text)) : Text :=
  let written := entries.map fun (key, value) =>
    indent 2 ++ jsonText key.toList ++ [':', ' '] ++ value
  '\x7b' :: joinWith [','] written ++ indent 1 ++ ['\x7d']

def json (markers : List Marker) : Text :=
  if markers.isEmpty then ['[', ']']
  else
    '[' :: joinWith [','] (markers.map fun marker => indent 1 ++ jsonObject (jsonEntries marker))
      ++ indent 0 ++ [']']

/-! ## Status lines -/

inductive Status where
  | success
  | warning
  | failure
deriving DecidableEq, Repr

/-- The symbol of a status: a check mark, a warning sign, or a cross. -/
def Status.symbol : Status → Text
  | success => ['\u2705']
  | warning => ['\u26A0', '\uFE0F']
  | failure => ['\u274C']

/-- Text of any number of lines as it is shown. -/
def shown (text : Text) : Text :=
  joinWith ['\n'] ((cutAt '\n' (withoutControls text)).map expandTabs)

/-- A status line with its symbol, unless symbols are not wanted. -/
def status (kind : Status) (message : Text) (withSymbol : Bool) : Text :=
  shown (if withSymbol then kind.symbol ++ ' ' :: message else message) ++ ['\n']

end DiagnosticMarkers.Report
