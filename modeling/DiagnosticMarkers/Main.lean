import DiagnosticMarkers.CommandLine.Check

/-!
# The program

Reads the part of the file system that the arguments can mean, runs the command on it, and
writes what the command leaves behind. Programs are looked up but cannot be started from
here, so the output of the checker has to come from a file or from the input.
-/

namespace DiagnosticMarkers.Program

/-- The octets of a file, a directory, or nothing. -/
def contentAt? (place : Place) : IO (Option FileTree) := do
  let path := String.ofList place.toPath.display
  try
    return some (.file (← IO.FS.readBinFile path).toList)
  catch _ =>
    try
      let _ ← IO.FS.realPath path
      return some .empty
    catch _ => return none

/-- The places that the command can look at: those that arguments can mean, and the project
files in the working directory and above it. -/
def candidates (directory : Place) (arguments : List Text) : List Place :=
  let values := arguments.flatMap fun argument =>
    [argument, (argument.dropWhile (· != '=')).drop 1, argument.drop 2]
  let above := (List.range (directory.length + 1)).map fun count => directory.take count
  values.map (fun value => directory.resolve (.ofText value)) ++
    above.map fun place => place ++ [Settings.projectFile]

/-- The part of the file system that the command can look at. -/
def readTree (directory : Place) (arguments : List Text) : IO FileTree := do
  let mut tree := FileTree.put .empty .empty directory
  for place in candidates directory arguments do
    if let some content ← contentAt? place then
      tree := FileTree.put content tree place
  return tree

partial def readAll (stream : IO.FS.Stream) (before : ByteArray) : IO ByteArray := do
  let octets ← stream.read 4096
  if octets.isEmpty then return before
  readAll stream (before ++ octets)

def readInput (arguments : List Text) : IO CommandLine.Input := do
  match CommandLine.readRequest arguments with
  | .error _ => return .decoded []
  | .ok request =>
    if (request.output.map fun output => (PathName.ofText output).display) = some ['-'] then
      return .ofOctets (← readAll (← IO.getStdin) .empty).toList
    else return .decoded []

def findProgram (directory : Place) (name : Text) : IO (Option Text) := do
  let path := ((← IO.getEnv "PATH").getD "").toList
  for entry in Text.cutAt ':' path do
    let place := directory.resolve ((PathName.ofText entry).entry name)
    if let some (.file _) ← contentAt? place then
      return some place.toPath.display
  return none

/-- Programs of which one was looked up. -/
def programs (name : Text) (found : Option Text) : Programs :=
  .ofSystem (fun wanted => if wanted = name then found else none) fun _ =>
    .error "programs cannot be started from here".toList

/-- The name of the checker that the arguments lead to. -/
def checkerName (tree : FileTree) (directory : Place) (arguments : List Text) : Text :=
  let settings : Except Unit Settings := do
    let request ← (CommandLine.readRequest arguments).mapError fun _ => ()
    (Settings.load .usual tree directory (request.config.map PathName.ofText)).mapError fun _ => ()
  match settings with
  | .ok settings => settings.executable
  | .error _ => []

end DiagnosticMarkers.Program

open DiagnosticMarkers in
def main (arguments : List String) : IO UInt32 := do
  let arguments := arguments.map String.toList
  let directory := Place.resolve [] (.ofText (← IO.currentDir).toString.toList)
  let tree ← Program.readTree directory arguments
  let stdin ← Program.readInput arguments
  let name := Program.checkerName tree directory arguments
  let programs := Program.programs name (← Program.findProgram directory name)
  let outcome := CommandLine.run { tree, directory, stdin, programs } arguments
  match outcome.result with
  | .ok finished =>
    (← IO.getStderr).putStr (String.ofList finished.stderr)
    (← IO.getStdout).putStr (String.ofList finished.stdout)
  | .error fault => (← IO.getStderr).putStrLn (String.ofList fault.message)
  return outcome.status.toUInt32
