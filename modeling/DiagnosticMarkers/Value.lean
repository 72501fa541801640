import DiagnosticMarkers.Number
import DiagnosticMarkers.Text.Basic

/-!
# Values

What a settings file or a record of fields can hold. The entries of a table keep the order in
which their keys first came.
-/

namespace DiagnosticMarkers

/-- A value before it is validated. -/
inductive Value where
  | null
  | boolean (value : Bool)
  | integer (value : Int)
  | float (value : Binary64)
  | text (value : Text)
  /-- A date, a time or both. Nothing accepts one, so it is not kept. -/
  | moment
  | array (items : List Value)
  | table (entries : List (Text × Value))

abbrev Table := List (Text × Value)

namespace Table

def find? (table : Table) (key : Text) : Option Value :=
  table.lookup key

/-- Give a key a value: in its place if it is there, else at the end. -/
def insert : Table → Text → Value → Table
  | [], key, value => [(key, value)]
  | (k, v) :: entries, key, value =>
    if k = key then (key, value) :: entries else (k, v) :: insert entries key value

/-- The table of some entries, of which later ones replace earlier ones. -/
def ofEntries (entries : List (Text × Value)) : Table :=
  entries.foldl (fun table (key, value) => insert table key value) []

end Table

end DiagnosticMarkers
