import DiagnosticMarkers.Diagnostic.Line
import DiagnosticMarkers.Log
import DiagnosticMarkers.Path.Filter

/-!
# Output of the checker

Output is one text or a list of lines. It is read line by line: a line gives a diagnostic of
the document, or it is passed over with an event, or, if it is blank, without one. An
overlong number ends the reading; the events of the lines before it stay.
-/

namespace DiagnosticMarkers

inductive Output where
  | whole (text : Text)
  | items (lines : List Text)
deriving DecidableEq, Repr

namespace Output

/-- The end of a line of its own: any mix of carriage returns and newlines. -/
def dropLineEnd (item : Text) : Text :=
  Text.dropEndWhile (fun c => c == '\r' || c == '\n') item

def lines : Output → List Text
  | whole text => Text.lines text
  | items given => given.map dropLineEnd

def text : Output → Text
  | whole text => text
  | items given => Text.joinWith ['\n'] given

structure Reading where
  events : List Event
  result : Except OverlongNumber (List Diagnostic)

/-- Read lines and keep the diagnostics that are accepted. -/
def read (accepts : Diagnostic → Bool) : List Text → Reading
  | [] => ⟨[], .ok []⟩
  | line :: rest =>
    match Diagnostic.ofLine line with
    | .error fault => ⟨[], .error fault⟩
    | .ok none =>
      let event := if Text.allBlank line then [] else [Event.skippedLine line]
      ⟨event ++ (read accepts rest).events, (read accepts rest).result⟩
    | .ok (some diagnostic) =>
      if accepts diagnostic then
        ⟨(read accepts rest).events, (read accepts rest).result.map (diagnostic :: ·)⟩
      else
        ⟨.unrelatedFile diagnostic.path :: (read accepts rest).events,
          (read accepts rest).result⟩

/-- Keep the diagnostics that the filter accepts; each other one is an event. -/
def keep (filter : PathFilter) : List Diagnostic → List Event × List Diagnostic
  | [] => ([], [])
  | diagnostic :: rest =>
    let (events, kept) := keep filter rest
    if filter.accepts diagnostic then (events, diagnostic :: kept)
    else (.unrelatedFile diagnostic.path :: events, kept)

end Output

end DiagnosticMarkers
