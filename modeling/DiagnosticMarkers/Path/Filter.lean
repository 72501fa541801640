import DiagnosticMarkers.Diagnostic.Basic
import DiagnosticMarkers.Text.Basic
import DiagnosticMarkers.Text.Case

/-!
# Diagnostics of one document

A path is absolute if it begins with a slash or names a drive. A drive is a letter and a
colon, or a server and a share after two leading separators. Both slashes separate in a
path with a drive.

The segments of a path are the names on the way to a file, whichever of the two slashes stands
between them. Empty names and single dots are left out, and two dots take back the name before
them, if there is one.

A checker reports paths relative to some directory of the project, or absolute. A reported
path means the document if its segments end the segments of the document's path. A relative
path is also tried from the directory in which the checker ran.
-/

namespace DiagnosticMarkers.Path

open Text

/-! ## Absolute paths -/

def hasDriveLetter : Text → Bool
  | letter :: ':' :: _ => letter.isAlpha
  | _ => false

/-- Whether a server is followed by a share, from the character after the two leading
separators on. The share may be missing at the end of the text, but no second separator
follows the server. -/
def hasShare : Text → Bool
  | [] => false
  | first :: rest =>
    first != '\\' &&
      match rest.dropWhile (· != '\\') with
      | [] => false
      | _ :: '\\' :: _ => false
      | _ :: _ => true

/-- Does the path, written with backslashes, name a drive? The mark for extended paths is a
drive by itself. -/
def namesDrive : Text → Bool
  | '\\' :: '\\' :: '?' :: '\\' :: _ => true
  | '\\' :: '\\' :: rest => hasShare rest
  | text => hasDriveLetter text

/-- Is the path absolute? Blanks around it are no part of it. -/
def isAbsolute (path : Text) : Bool :=
  (trim path).head? == some '/' || namesDrive (substitute '/' '\\' (trim path))

end DiagnosticMarkers.Path

namespace DiagnosticMarkers

open Text

/-! ## Segments -/

inductive CaseMode where
  | sensitive
  | insensitive
deriving DecidableEq, Repr

/-- The form in which a segment is compared. -/
def CaseMode.normalize : CaseMode → Text → Text
  | sensitive, segment => segment
  | insensitive, segment => foldCase segment

namespace Path

def current : Text := ['.']

def parent : Text := ['.', '.']

/-- Put one more name on a stack of segments, the last segment on top. -/
def pushSegment (stack : List Text) (part : Text) : List Text :=
  if part.isEmpty || part = current then stack
  else if part = parent then
    match stack with
    | [] => [parent]
    | top :: below => if top = parent then parent :: top :: below else below
  else part :: stack

/-- The names between the slashes of a path. Blanks around the path are no part of it. -/
def parts (path : Text) : List Text :=
  cutAt '/' (substitute '\\' '/' (trim path))

/-- The segments of a path in the form in which they are compared. -/
def segments (mode : CaseMode) (path : Text) : List Text :=
  (((parts path).foldl pushSegment []).reverse).map mode.normalize

end Path

/-! ## The filter -/

structure PathFilter where
  /-- The path of the document; a document that was never saved has none and takes all. -/
  document : Option Text
  mode : CaseMode := .sensitive
  /-- The directory in which the checker ran. -/
  base : Option Text := none

namespace PathFilter

/-- Do the segments end the document's segments? No segments do not. -/
def endsDocument (candidate document : List Text) : Bool :=
  !candidate.isEmpty && candidate.isSuffixOf document

def fromBase (base reported : Text) : Text :=
  base ++ '/' :: trim reported

def acceptsPath (filter : PathFilter) (reported : Text) : Bool :=
  match filter.document with
  | none => true
  | some path =>
    let document := Path.segments filter.mode path
    endsDocument (Path.segments filter.mode reported) document ||
      match filter.base with
      | none => false
      | some base =>
        !Path.isAbsolute reported &&
          endsDocument (Path.segments filter.mode (fromBase base reported)) document

def accepts (filter : PathFilter) (diagnostic : Diagnostic) : Bool :=
  filter.acceptsPath diagnostic.path

end PathFilter

end DiagnosticMarkers
