import DiagnosticMarkers.Text.Basic

/-!
# Log records

What happens on the way from output to markers is an event. Each event has a level, the
name of the logger that reports it, and a message.
-/

namespace DiagnosticMarkers

inductive Level where
  | debug
  | warning
deriving DecidableEq, Repr

def Level.name : Level → String
  | debug => "DEBUG"
  | warning => "WARNING"

structure LogRecord where
  level : Level
  logger : String
  message : Text
deriving DecidableEq, Repr

inductive Event where
  /-- A line of output that is no diagnostic and not blank. -/
  | skippedLine (line : Text)
  /-- A diagnostic of another file. -/
  | unrelatedFile (path : Text)
  /-- A source line that cannot be read. -/
  | unreadableLine (line : Int) (reason : Text)
  /-- A marker whose source line has a suppression comment. -/
  | suppressed (line : Int)
  /-- The error output of the checker. -/
  | checkerErrors (text : Text)
  /-- The error output tells of a crash of the checker. -/
  | checkerCrash
  /-- The end of an analysis of the document with this path, if it has one. -/
  | produced (markers groups : Nat) (document : Option Text)
  /-- The command line of a checker that is started. -/
  | running (command : List Text)
deriving DecidableEq, Repr

namespace Event

def level : Event → Level
  | unreadableLine .. | checkerCrash => .warning
  | _ => .debug

def logger : Event → String
  | skippedLine _ => "typemarks.parsers"
  | unrelatedFile _ => "typemarks.paths"
  | unreadableLine .. | suppressed _ => "typemarks.suppression"
  | checkerErrors _ | checkerCrash | produced .. => "typemarks.analysis"
  | running _ => "typemarks.runner"

def message : Event → Text
  | skippedLine line => "skipping non-diagnostic line: ".toList ++ line
  | unrelatedFile path => "ignoring diagnostic for unrelated file ".toList ++ path
  | unreadableLine line reason =>
    "cannot check suppression for line ".toList ++ Text.ofInt line ++ ": ".toList ++ reason
  | suppressed line =>
    "marker at line ".toList ++ Text.ofInt line ++ " suppressed by inline comment".toList
  | checkerErrors text => "mypy stderr:\n".toList ++ text
  | checkerCrash => "mypy reported an internal failure on stderr".toList
  | produced markers groups document =>
    "produced ".toList ++ Text.ofNat markers ++ " marker(s) from ".toList ++ Text.ofNat groups
      ++ " group(s) for ".toList ++ document.getD "<unsaved buffer>".toList
  | running command => "running ".toList ++ Text.joinWith [' '] command

def toRecord (event : Event) : LogRecord :=
  ⟨event.level, event.logger, event.message⟩

end Event

/-- How log records are written: to how many streams, and from which level on, if that is
set. -/
structure LogSetup where
  streams : Nat := 0
  level : Option Level := none
deriving DecidableEq, Repr

namespace LogSetup

def loggerName : String := "typemarks"

def levelName (setup : LogSetup) : String :=
  (setup.level.map Level.name).getD "NOTSET"

/-- Write all records from now on to one stream. Once this is so, nothing more is added. -/
def makeVerbose (setup : LogSetup) : LogSetup :=
  if setup.level = some .debug then setup
  else { streams := setup.streams + 1, level := some .debug }

def line (record : LogRecord) : Text :=
  record.level.name.toList ++ ' ' :: record.logger.toList ++ ": ".toList ++ record.message
    ++ ['\n']

/-- What is written for an event. Where no stream was set up, warnings are written by their
message alone. -/
def write (setup : LogSetup) (event : Event) : Text :=
  let record := event.toRecord
  if setup.streams = 0 then
    if record.level = .warning then record.message ++ ['\n'] else []
  else (List.replicate setup.streams (line record)).flatten

end LogSetup

end DiagnosticMarkers
