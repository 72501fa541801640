import DiagnosticMarkers.Analysis
import DiagnosticMarkers.Checker
import DiagnosticMarkers.CommandLine.Options
import DiagnosticMarkers.Report.Plain
import DiagnosticMarkers.Report.Table
import DiagnosticMarkers.Settings.Load

/-!
# The check command

The command shows the markers of one source file. Its exit status is 0 if there are none, 1
if there are some, and 2 if it fails. Some faults interrupt it without a report. A fault of usage
is a failure. Nothing handles the others: overlong numbers, settings that stand too deep in each
other, a null character in the command that is started, and faults of drawing a table. What
nothing handles ends a process with the status 1.
-/

namespace DiagnosticMarkers.CommandLine

open Text

/-- What stands on the standard input: a text, or octets that are none. -/
inductive Input where
  | decoded (text : Text)
  | undecodable (fault : Utf8.Fault)

instance : Coe Text Input :=
  ⟨Input.decoded⟩

def Input.ofOctets (octets : List UInt8) : Input :=
  match Utf8.decode octets with
  | .ok text => .decoded text
  | .error fault => .undecodable fault

structure Surroundings where
  tree : FileTree
  directory : Place
  stdin : Input
  programs : Programs
  /-- The room for calls when the settings are read. -/
  stack : Toml.Stack := .usual
  /-- How a table is drawn. -/
  draw : List Report.Column → Except Report.MarkupFault Text := Report.draw

def version : String := "0.1.0"

def cleanStatus : Nat := 0

def markersStatus : Nat := 1

def failureStatus : Nat := 2

/-- The exit status of a process that is ended by a fault that nothing handles. -/
def unhandledStatus : Nat := 1

/-- What the command leaves behind if it finishes. -/
structure Finished where
  status : Nat
  stdout : Text
  stderr : Text
deriving DecidableEq

inductive Interruption where
  | usage (fault : UsageFault)
  | overlong (number : OverlongNumber)
  | tooDeep
  | nullInCommand
  | markup (fault : Report.MarkupFault)
deriving DecidableEq

/-- What came of the command, and what it has started. -/
structure Outcome where
  result : Except Interruption Finished
  launches : List Launch := []

def Interruption.message : Interruption → Text
  | usage fault => fault.message
  | overlong number => number.message.toList
  | tooDeep => Settings.LoadError.tooDeep.message
  | nullInCommand => RunError.nullInCommand.message
  | markup fault => fault.message

/-- The exit status of an interrupted command. Showing the help screen is no failure. -/
def Interruption.status : Interruption → Nat
  | usage .helpWanted => cleanStatus
  | usage _ => failureStatus
  | overlong _ | tooDeep | nullInCommand | markup _ => unhandledStatus

def Outcome.status (outcome : Outcome) : Nat :=
  match outcome.result with
  | .ok finished => finished.status
  | .error interruption => interruption.status

inductive Failure where
  | settings (fault : Settings.LoadError)
  | run (fault : RunError)
  | undecodable (fault : Utf8.Fault)

def Failure.message : Failure → Text
  | settings (.undecodable fault) | undecodable fault =>
    "cannot read input: ".toList ++ fault.message.toList
  | settings fault => fault.message
  | run fault => fault.message

/-- What a failure that nothing handles interrupts the command with. -/
def Failure.unhandled? : Failure → Option Interruption
  | settings (.overlong number) => some (.overlong number)
  | settings .tooDeep => some .tooDeep
  | run .nullInCommand => some .nullInCommand
  | _ => none

def Request.logSetup (request : Request) : LogSetup :=
  if request.verbose then LogSetup.makeVerbose {} else {}

/-- Output of the checker, with what it took to get it. -/
structure Obtained where
  result : Except Failure ToolOutput
  launches : List Launch := []
  events : List Event := []

/-- The text of a file with unified newlines. -/
def decodeFile (octets : List UInt8) : Except Failure Text :=
  match Utf8.decode octets with
  | .ok text => .ok (unifyNewlines text)
  | .error fault => .error (.undecodable fault)

def Input.read : Input → Except Failure Text
  | decoded text => .ok (unifyNewlines text)
  | undecodable fault => .error (.undecodable fault)

/-- Output in which nothing went wrong. -/
def written (text : Text) : ToolOutput :=
  ⟨text, [], 0⟩

/-- Get the output of the checker: from a file, from the input if the file is a dash, or from
a run. -/
def obtainOutput (around : Surroundings) (settings : Settings) (source : PathName) :
    Option PathName → Except UsageFault Obtained
  | none =>
    let run := Checker.run around.programs settings source none
    .ok ⟨run.result.mapError .run, run.launches, run.events⟩
  | some output =>
    if output.display = ['-'] then
      .ok { result := around.stdin.read.map written }
    else
      match around.tree.read? around.directory output with
      | none => .error (.outputNotFound output)
      | some octets => .ok { result := (decodeFile octets).map written }

def report (around : Surroundings) (asJson : Bool) (source : PathName) (markers : List Marker) :
    Except Report.MarkupFault Text :=
  if asJson then .ok (Report.json markers ++ ['\n'])
  else if markers.isEmpty then
    .ok (Report.status .success ("No markers for ".toList ++ source.display) true)
  else
    let count := Text.ofNat markers.length ++ " marker(s) for ".toList
    let summary := Report.status .warning (count ++ source.display) true
    (around.draw (Report.table markers)).map (· ++ summary)

def fail (failure : Failure) (stderr : Text) : Except Interruption Finished :=
  match failure.unhandled? with
  | some interruption => .error interruption
  | none => .ok ⟨failureStatus, Report.status .failure failure.message true, stderr⟩

/-- The analysis of a source that is read from a path. A source without a path of its own
takes the diagnostics of all files. -/
def analysisOf (around : Surroundings) (request : Request) (settings : Settings)
    (source : PathName) : Analysis TextBuffer where
  document := TextBuffer.document <|
    if request.noPathFilter then none
    else some (around.directory.resolve source).toPath.display
  settings := settings
  base := some around.directory.toPath.display

/-- The end of a command that obtained output and read its source. -/
def conclude (around : Surroundings) (request : Request) (settings : Settings)
    (source : PathName) (output : ToolOutput) (text : Text) (obtained : Obtained) :
    Except Interruption Finished :=
  let analysis := analysisOf around request settings source
  let findings :=
    (analysis.run (.whole output.stdout) (.whole output.stderr) (.ofText text)).result
  match findings.result with
  | .error number => .error (.overlong number)
  | .ok markers =>
    match report around request.json source markers with
    | .error fault => .error (.markup fault)
    | .ok stdout =>
      let status := if markers.isEmpty then cleanStatus else markersStatus
      let events := obtained.events ++ findings.events
      .ok ⟨status, stdout, events.flatMap request.logSetup.write⟩

/-- Load the settings, get the output of the checker, read the source, and conclude. The
octets of the source are given. -/
def checkSource (around : Surroundings) (request : Request) (source : PathName)
    (octets : List UInt8) : Outcome :=
  match Settings.load around.stack around.tree around.directory
    (request.config.map PathName.ofText) with
  | .error fault => { result := fail (.settings fault) [] }
  | .ok settings =>
    match obtainOutput around settings source (request.output.map PathName.ofText) with
    | .error fault => { result := .error (.usage fault) }
    | .ok obtained =>
      let log := obtained.events.flatMap request.logSetup.write
      let result :=
        match obtained.result, decodeFile octets with
        | .error failure, _ | .ok _, .error failure => fail failure log
        | .ok output, .ok text => conclude around request settings source output text obtained
      { result, launches := obtained.launches }

/-- The source that the request asks for and its octets. The paths behind options are looked
at first, then the source, then the other arguments, then the two ways to get output. -/
def findSource (around : Surroundings) (request : Request) :
    Except UsageFault (PathName × List UInt8) :=
  if request.output.any holdsNull || request.config.any holdsNull then .error .nullInPath
  else
    match request.arguments with
    | [] => .error .missingSource
    | source :: extra =>
      if holdsNull source then .error .nullInPath
      else
        match around.tree.look around.directory (PathName.ofText source).display with
        | none => .error (.sourceNotFound source)
        | some (.directory _) => .error (.sourceIsDirectory source)
        | some (.file octets) =>
          if !extra.isEmpty then .error (.extraArguments extra)
          else if request.output.isSome == request.run then .error .notOneOutput
          else .ok (.ofText source, octets)

def run (around : Surroundings) (arguments : List Text) : Outcome :=
  let found := do
    let request ← readRequest arguments
    return (request, ← findSource around request)
  match found with
  | .error fault => { result := .error (.usage fault) }
  | .ok (request, source, octets) => checkSource around request source octets

end DiagnosticMarkers.CommandLine
