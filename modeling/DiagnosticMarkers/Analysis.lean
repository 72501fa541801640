import DiagnosticMarkers.Group
import DiagnosticMarkers.Output
import DiagnosticMarkers.Settings.Basic
import DiagnosticMarkers.Suppression

/-!
# Analysis

From the output of the checker to the markers of one document: read the lines, keep the
diagnostics of the document, group them, make a marker of each group, and leave out the
markers that are suppressed. The document is not read unless all lines were.
-/

namespace DiagnosticMarkers

def crashSigns : List Text :=
  ["Traceback (most recent call last)".toList, "INTERNAL ERROR".toList]

/-- The events for error output. Blank error output is none. -/
def errorEvents (stderr : Output) : List Event :=
  let text := stderr.text
  if Text.allBlank text then []
  else
    .checkerErrors text ::
      if crashSigns.any fun sign => Text.occursIn sign text then [.checkerCrash] else []

structure Analysis (σ : Type) where
  document : Document σ
  settings : Settings
  /-- The directory in which the checker ran. -/
  base : Option Text

/-- The outcome of an analysis: its markers or a fault in `ε`, and the events on the way. -/
structure Findings (ε : Type) where
  result : Except ε (List Marker)
  events : List Event

namespace Analysis

variable {σ : Type}

def filter (analysis : Analysis σ) : PathFilter where
  document := analysis.document.path
  mode := analysis.settings.caseMode
  base := analysis.base

def mark (analysis : Analysis σ) (diagnostics : List Diagnostic) (state : σ) :
    Visit σ Suppression.Kept :=
  let groups := groupDiagnostics diagnostics
  let candidates := Marker.ofGroups analysis.settings.heading groups
  let visit :=
    Suppression.filter analysis.document analysis.settings.tokens candidates state
  let kept := visit.result
  let produced := Event.produced kept.markers.length groups.length analysis.document.path
  { visit with result := ⟨kept.markers, kept.events ++ [produced]⟩ }

def run (analysis : Analysis σ) (stdout stderr : Output) (state : σ) :
    Visit σ (Findings OverlongNumber) :=
  let reading := Output.read analysis.filter.accepts stdout.lines
  let before := errorEvents stderr ++ reading.events
  match reading.result with
  | .error fault => ⟨⟨.error fault, before⟩, state, []⟩
  | .ok diagnostics =>
    let visit := analysis.mark diagnostics state
    { result := ⟨.ok visit.result.markers, before ++ visit.result.events⟩
      state := visit.state
      accesses := visit.accesses }

end Analysis

inductive AnalysisError where
  | cancelled
  | overlong (fault : OverlongNumber)
deriving DecidableEq, Repr

def AnalysisError.message : AnalysisError → String
  | cancelled => "analysis cancelled before parsing"
  | overlong fault => fault.message

/-- A document under analysis: the state of the document, the markers of the last analysis
that gave some, and whether analyses are to be given up. -/
structure Session (σ : Type) where
  state : σ
  markers : List Marker := []
  cancelled : Bool := false

namespace Session

inductive Operation (σ : Type) where
  | analyze (stdout stderr : Output)
  /-- Replace the content of the document. -/
  | edit (state : σ)
  /-- Say whether analyses are to be given up. -/
  | cancel (cancelled : Bool)

variable {σ : Type}

def edit (session : Session σ) (state : σ) : Session σ :=
  { session with state }

def cancel (session : Session σ) (cancelled : Bool) : Session σ :=
  { session with cancelled }

/-- Analyse output, unless analyses are given up, and remember the markers. -/
def analyze (analysis : Analysis σ) (session : Session σ) (stdout stderr : Output) :
    Visit (Session σ) (Findings AnalysisError) :=
  if session.cancelled then ⟨⟨.error .cancelled, []⟩, session, []⟩
  else
    let visit := analysis.run stdout stderr session.state
    let findings := visit.result
    let after := { session with state := visit.state }
    match findings.result with
    | .error fault => ⟨⟨.error (.overlong fault), findings.events⟩, after, visit.accesses⟩
    | .ok markers =>
      ⟨⟨.ok markers, findings.events⟩, { after with markers }, visit.accesses⟩

/-- Do one operation. Only an analysis has findings. -/
def perform (analysis : Analysis σ) (session : Session σ) :
    Operation σ → Visit (Session σ) (Option (Findings AnalysisError))
  | .analyze stdout stderr =>
    let visit := session.analyze analysis stdout stderr
    ⟨some visit.result, visit.state, visit.accesses⟩
  | .edit state => ⟨none, session.edit state, []⟩
  | .cancel cancelled => ⟨none, session.cancel cancelled, []⟩

/-- Do operations in order: what came of each, with the session after it. -/
def performAll (analysis : Analysis σ) (session : Session σ) :
    List (Operation σ) → List (Visit (Session σ) (Option (Findings AnalysisError)))
  | [] => []
  | operation :: operations =>
    let visit := session.perform analysis operation
    visit :: performAll analysis visit.state operations

end Session

end DiagnosticMarkers
