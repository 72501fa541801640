import DiagnosticMarkers.FileTree
import DiagnosticMarkers.Settings.Basic
import DiagnosticMarkers.Text.Utf8
import DiagnosticMarkers.Toml.Document

/-!
# Loading settings

Settings stand in a table of the project file. The project file is the one nearest to the
working directory, in it or above it, unless another is named. Without a file or without the
table all settings have their defaults.
-/

namespace DiagnosticMarkers.Settings

def projectFile : Text := "pyproject.toml".toList

def toolKey : Text := "tool".toList

def tableKey : Text := "typemarks".toList

inductive LoadError where
  /-- The file is no TOML document. -/
  | malformed (path : Text)
  /-- The settings are no table. -/
  | notTable (path : Text)
  /-- Some settings are refused. -/
  | refused (errors : List FieldError)
  /-- The file is no text. -/
  | undecodable (fault : Utf8.Fault)
  /-- The file has an integer with too many digits. -/
  | overlong (number : OverlongNumber)
  /-- The file has values that stand too deep in each other. -/
  | tooDeep

def refusedMessage (count : Nat) : String :=
  let errors := if count = 1 then "validation error" else "validation errors"
  s!"invalid typemarks configuration: {count} {errors} for MarkerConfig"

def LoadError.message : LoadError → Text
  | malformed path => "cannot read ".toList ++ path
  | notTable path => "[tool.typemarks] in ".toList ++ path ++ " must be a table".toList
  | refused errors => (refusedMessage errors.length).toList
  | undecodable fault => fault.message.toList
  | overlong number => number.message.toList
  | tooDeep => "maximum recursion depth exceeded".toList

/-- The project file in the nearest directory, for a place given from its last name on. -/
def nearestFrom (tree : FileTree) : List Text → Option Place
  | [] => if (tree.file? [projectFile]).isSome then some [projectFile] else none
  | name :: above =>
    let candidate := (name :: above).reverse ++ [projectFile]
    if (tree.file? candidate).isSome then some candidate else nearestFrom tree above

/-- The project file at a place or in the nearest directory above it. -/
def find? (tree : FileTree) (start : Place) : Option Place :=
  nearestFrom tree start.reverse

def ofDocument (path : Text) (document : Table) : Except LoadError Settings :=
  match document.find? toolKey with
  | some (.table tools) =>
    match Table.find? tools tableKey with
    | some (.table given) => (ofTable given).mapError .refused
    | some _ => .error (.notTable path)
    | none => .ok {}
  | _ => .ok {}

def ofOctets (stack : Toml.Stack) (path : Text) (octets : List UInt8) :
    Except LoadError Settings :=
  match Utf8.decode octets with
  | .error fault => .error (.undecodable fault)
  | .ok text =>
    match Toml.parse stack text with
    | .error .malformed => .error (.malformed path)
    | .error (.overlong number) => .error (.overlong number)
    | .error .tooDeep => .error .tooDeep
    | .ok document => ofDocument path document

/-- The text of the path to the file of settings, and its octets: those of the named file, or
of the project file. -/
def source? (tree : FileTree) (directory : Place) :
    Option PathName → Option (Text × List UInt8)
  | some path => (tree.read? directory path).map fun octets => (path.display, octets)
  | none => do
    let place ← find? tree directory
    let octets ← tree.file? place
    return (place.toPath.display, octets)

/-- Load the settings from a named file, or from the project file. -/
def load (stack : Toml.Stack) (tree : FileTree) (directory : Place) (named : Option PathName) :
    Except LoadError Settings :=
  match source? tree directory named with
  | none => .ok {}
  | some (path, octets) => ofOctets stack path octets

end DiagnosticMarkers.Settings
