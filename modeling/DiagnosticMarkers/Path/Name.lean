import DiagnosticMarkers.Text.Basic

/-!
# Path names

The normal form of a path of the file system: how it begins, and the names on the way. Empty
names and single dots are left out, two dots stay. Exactly two slashes at the start are kept,
as they may mean something else than one.
-/

namespace DiagnosticMarkers

inductive PathRoot where
  | relative
  | slash
  | twoSlashes
deriving DecidableEq, Repr

structure PathName where
  root : PathRoot
  names : List Text
deriving DecidableEq, Repr

/-- The slashes of a root. -/
def PathRoot.display : PathRoot → Text
  | relative => []
  | slash => ['/']
  | twoSlashes => ['/', '/']

/-- The slashes that a text begins with. -/
def PathRoot.ofText : Text → PathRoot
  | '/' :: '/' :: '/' :: _ => slash
  | '/' :: '/' :: _ => twoSlashes
  | '/' :: _ => slash
  | _ => relative

namespace PathName

def ofText (text : Text) : PathName where
  root := PathRoot.ofText text
  names := (Text.cutAt '/' text).filter fun name => !name.isEmpty && name != ['.']

/-- The text of a path. The empty relative path is a dot. -/
def display (path : PathName) : Text :=
  if path.root = .relative && path.names.isEmpty then ['.']
  else path.root.display ++ Text.joinWith ['/'] path.names

def isAbsolute (path : PathName) : Bool :=
  path.root != .relative

/-- A path inside another; an absolute path stands for itself. -/
def join (path inner : PathName) : PathName :=
  if inner.isAbsolute then inner else { path with names := path.names ++ inner.names }

def entry (path : PathName) (name : Text) : PathName :=
  { path with names := path.names ++ [name] }

end PathName

end DiagnosticMarkers
