import DiagnosticMarkers.Path.Name

/-!
# File trees

A file tree is a file or a directory with named entries. There are no links. A place is the
names on the way from the root. A path is followed name by name: two dots lead to the
directory above, and only directories are passed through.
-/

namespace DiagnosticMarkers

/-- The names on the way from the root. -/
abbrev Place := List Text

namespace Place

def toPath (place : Place) : PathName :=
  ⟨.slash, place⟩

def step (place : Place) (name : Text) : Place :=
  if name = ['.', '.'] then place.dropLast else place ++ [name]

/-- The place that a path means, seen from another place, without looking at files. -/
def resolve (origin : Place) (path : PathName) : Place :=
  path.names.foldl step (if path.isAbsolute then [] else origin)

end Place

/-- A file with its octets, or a directory with its entries. Of entries of one name the first
one counts. -/
inductive FileTree where
  | file (octets : List UInt8)
  | directory (entries : List (Text × FileTree))

namespace FileTree

def empty : FileTree := .directory []

def at? : FileTree → Place → Option FileTree
  | tree, [] => some tree
  | .file _, _ :: _ => none
  | .directory entries, name :: names =>
    match entries.lookup name with
    | some entry => at? entry names
    | none => none

/-- Put something at a place. Missing directories on the way are made. A directory that is
there already stays if an empty one is put in its place, and nothing is put below a file. -/
def put (content : FileTree) : FileTree → Place → FileTree
  | tree, [] =>
    match content, tree with
    | .directory [], .directory entries => .directory entries
    | content, _ => content
  | .file octets, _ :: _ => .file octets
  | .directory entries, name :: names =>
    let entry := (entries.lookup name).getD empty
    .directory ((name, put content entry names) :: entries.filter fun (key, _) => key != name)

def ofPlaces (contents : List (Place × FileTree)) : FileTree :=
  contents.foldl (fun tree (place, content) => put content tree place) empty

def isDirectoryAt (tree : FileTree) (place : Place) : Bool :=
  match tree.at? place with
  | some (.directory _) => true
  | _ => false

def file? (tree : FileTree) (place : Place) : Option (List UInt8) :=
  match tree.at? place with
  | some (.file octets) => some octets
  | _ => none

/-- Follow names from a place, through directories only. Empty names and single dots stay at
their directory. -/
def follow (tree : FileTree) : Place → List Text → Option Place
  | place, [] => some place
  | place, name :: names =>
    if tree.isDirectoryAt place then
      tree.follow (if name.isEmpty || name = ['.'] then place else place.step name) names
    else none

/-- What a path text leads to, seen from a place. The empty text leads nowhere. -/
def look (tree : FileTree) (origin : Place) (text : Text) : Option FileTree := do
  if text.isEmpty then none
  let start := if text.head? = some '/' then [] else origin
  let place ← tree.follow start (Text.cutAt '/' text)
  tree.at? place

def read? (tree : FileTree) (origin : Place) (path : PathName) : Option (List UInt8) :=
  match tree.look origin path.display with
  | some (.file octets) => some octets
  | _ => none

end FileTree

end DiagnosticMarkers
