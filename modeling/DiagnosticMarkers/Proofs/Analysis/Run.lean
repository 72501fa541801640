import DiagnosticMarkers.Analysis
import DiagnosticMarkers.Proofs.Output
import DiagnosticMarkers.Proofs.Suppression.Calls

/-!
# Analyses of steady documents

The markers of an analysis are told by the diagnostics in the output and by the lines of the
document as they were in the beginning. Reading leads the document from state to state, but
its lines stay what they were.
-/

namespace DiagnosticMarkers

namespace Suppression

variable {σ : Type}

/-- Judging markers does nothing to a document but read its lines. -/
theorem reaches_collect (document : Document σ) (tokens : List Text) (markers : List Marker)
    (start : σ) : document.Reaches start (collect document tokens markers start).state := by
  induction markers generalizing start with
  | nil => exact .start
  | cons marker markers ih => exact .of_line (ih (document.line marker.location.line start).2)

end Suppression

namespace Analysis

variable {σ τ : Type} {analysis : Analysis σ}

def accepted (analysis : Analysis σ) (stdout : Output) : List Diagnostic :=
  (Output.diagnosticsOn stdout.lines).filter analysis.filter.accepts

/-- Is something at a place to be shown, by its line in some state of the document? -/
def shows (analysis : Analysis σ) (state : σ) (location : Location) : Bool :=
  Suppression.showsAt analysis.document analysis.settings.tokens state location.line

def reading (analysis : Analysis σ) (stdout : Output) : Output.Reading :=
  Output.read analysis.filter.accepts stdout.lines

/-- A fault in the output ends the analysis before the document is read. -/
theorem run_of_error {stdout : Output} {fault : OverlongNumber}
    (h : (analysis.reading stdout).result = .error fault) (stderr : Output) (state : σ) :
    analysis.run stdout stderr state =
      ⟨⟨.error fault, errorEvents stderr ++ (analysis.reading stdout).events⟩, state, []⟩ := by
  rw [reading] at h
  simp only [run, h]
  rfl

theorem run_of_ok {stdout : Output} {diagnostics : List Diagnostic}
    (h : (analysis.reading stdout).result = .ok diagnostics) (stderr : Output) (state : σ) :
    analysis.run stdout stderr state =
      ⟨⟨.ok (analysis.mark diagnostics state).result.markers,
          errorEvents stderr ++ (analysis.reading stdout).events ++
            (analysis.mark diagnostics state).result.events⟩,
        (analysis.mark diagnostics state).state,
        (analysis.mark diagnostics state).accesses⟩ := by
  rw [reading] at h
  simp only [run, h]
  rfl

/-- An analysis fails with the first fault in the output, of whatever file, and not otherwise. -/
theorem result_run_eq_error_iff (analysis : Analysis σ) (stdout stderr : Output) (state : σ)
    (fault : OverlongNumber) :
    (analysis.run stdout stderr state).result.result = .error fault ↔
      FirstFault Diagnostic.ofLine stdout.lines fault := by
  rw [← Output.result_read_eq_error_iff analysis.filter.accepts]
  change _ ↔ (analysis.reading stdout).result = .error fault
  cases hread : (analysis.reading stdout).result with
  | error found =>
    rw [run_of_error hread]
    exact ⟨fun h => congrArg _ (Except.error.inj h), fun h => congrArg _ (Except.error.inj h)⟩
  | ok diagnostics =>
    rw [run_of_ok hread]
    exact iff_of_false nofun nofun

theorem result_reading {stdout : Output}
    (hlines : ∀ line ∈ stdout.lines, ∃ found, Diagnostic.ofLine line = .ok found) :
    (analysis.reading stdout).result = .ok (analysis.accepted stdout) :=
  Output.result_read analysis.filter.accepts hlines

theorem markers_mark {state : σ} (hsteady : analysis.document.Steady state)
    (diagnostics : List Diagnostic) :
    (analysis.mark diagnostics state).result.markers =
      (Marker.ofGroups analysis.settings.heading (groupDiagnostics diagnostics)).filter
        fun marker => analysis.shows state marker.location :=
  Suppression.markers_collect hsteady _ _

/-- An analysis leaves the document as it looks. -/
theorem view_run {view : σ → τ} (htold : analysis.document.ToldBy view)
    (stdout stderr : Output) (state : σ) :
    view (analysis.run stdout stderr state).state = view state := by
  cases hread : (analysis.reading stdout).result with
  | error fault => rw [run_of_error hread]
  | ok diagnostics =>
    rw [run_of_ok hread]
    exact htold.view_of_reaches (Suppression.reaches_collect analysis.document _ _ state)

/-- Documents that look alike give the same markers or the same fault, whatever the error
output was. -/
theorem result_run_of_toldBy {view : σ → τ} (htold : analysis.document.ToldBy view)
    {state other : σ} (hview : view state = view other) (stdout stderr otherErrors : Output) :
    (analysis.run stdout stderr state).result.result =
      (analysis.run stdout otherErrors other).result.result := by
  cases hread : (analysis.reading stdout).result with
  | error fault => rw [run_of_error hread, run_of_error hread]
  | ok diagnostics =>
    have hshows : analysis.shows state = analysis.shows other := by
      funext location
      exact Suppression.showsAt_of_toldBy htold _ hview location.line
    rw [run_of_ok hread, run_of_ok hread, markers_mark (htold.steady state),
      markers_mark (htold.steady other), hshows]

end Analysis

end DiagnosticMarkers
