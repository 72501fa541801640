import DiagnosticMarkers.Log
import DiagnosticMarkers.Path.Name
import DiagnosticMarkers.Settings.Basic

/-!
# Running the checker

The checker is a program that is started with a list of arguments. The program is found
first: an absolute path stands for itself and any other name is looked up.
-/

namespace DiagnosticMarkers

inductive RunError where
  | emptyCommand
  | notFound (name : Text)
  | notStarted (program reason : Text)
  /-- The command holds the null character. This is no fault of the system. -/
  | nullInCommand
deriving DecidableEq, Repr

def RunError.message : RunError → Text
  | emptyCommand => "subprocess command requires at least one argument".toList
  | notFound name => "Executable '".toList ++ name ++ "' was not found on PATH".toList
  | notStarted program reason =>
    "failed to start ".toList ++ program ++ ": ".toList ++ reason
  | nullInCommand => "embedded null byte".toList

structure ToolOutput where
  stdout : Text
  stderr : Text
  status : Int
deriving DecidableEq, Repr

/-- How a program is started: its output is captured as text, its input is empty, no shell
stands between, and its exit status is no failure. -/
structure Launch where
  command : List Text
  directory : Option Text
  failsOnStatus : Bool := false
  capturesOutput : Bool := true
  asText : Bool := true
  emptyInput : Bool := true
  throughShell : Bool := false
deriving DecidableEq, Repr

inductive StartFault where
  /-- The system refuses to start it. -/
  | refused (reason : Text)
  | nullInCommand
deriving DecidableEq, Repr

/-- What the system does about programs: look up a name, and start a program. -/
structure Programs where
  find : Text → Option Text
  start : Launch → Except StartFault ToolOutput

/-- Programs of a system that finds and starts them. A command that holds the null character does
not come to the system. -/
def Programs.ofSystem (find : Text → Option Text) (start : Launch → Except Text ToolOutput) :
    Programs where
  find
  start launch :=
    if launch.command.any Text.holdsNull then .error .nullInCommand
    else (start launch).mapError .refused

namespace Checker

def command (settings : Settings) (target : PathName) : List Text :=
  settings.executable :: settings.arguments ++ [target.display]

/-- The command line with its program found. -/
def locate (find : Text → Option Text) : List Text → Except RunError (List Text)
  | [] => .error .emptyCommand
  | program :: arguments =>
    let path := PathName.ofText program
    if path.isAbsolute then .ok (path.display :: arguments)
    else
      match find program with
      | none => .error (.notFound program)
      | some found => .ok (found :: arguments)

/-- A run of the checker: what came of it, what was started, and what was reported. -/
structure Run where
  result : Except RunError ToolOutput
  launches : List Launch
  events : List Event

def run (programs : Programs) (settings : Settings) (target : PathName)
    (directory : Option PathName) : Run :=
  match locate programs.find (command settings target) with
  | .error fault => ⟨.error fault, [], []⟩
  | .ok command =>
    let launch : Launch := { command, directory := directory.map PathName.display }
    let result :=
      match programs.start launch with
      | .error (.refused reason) => .error (.notStarted (command.headD []) reason)
      | .error .nullInCommand => .error .nullInCommand
      | .ok output => .ok output
    ⟨result, [launch], [.running command]⟩

end Checker

end DiagnosticMarkers
