import DiagnosticMarkers.CommandLine.Check
import Mathlib.Logic.IsEmpty.Defs

/-!
# The way to the markers

Before the command computes markers it reads its arguments, finds the source, loads the settings,
obtains the output of the checker and decodes the source. A preparation is what these steps gave.
With one, the end of the command is told by the markers and by the report on them. Without one,
some step failed, and the command shows help, tells what is wrong with the arguments, or fails.
-/

namespace DiagnosticMarkers.CommandLine

variable {around : Surroundings} {arguments : List Text}

/-- What the arguments ask for: a request, and the source that it names. -/
structure Target (around : Surroundings) (arguments : List Text) where
  request : Request
  source : PathName
  octets : List UInt8
  request_eq : readRequest arguments = .ok request
  source_eq : findSource around request = .ok (source, octets)

namespace Target

variable (target : Target around arguments)

/-- The settings that are loaded for the target. -/
def settings : Except Settings.LoadError Settings :=
  Settings.load around.stack around.tree around.directory
    (target.request.config.map PathName.ofText)

/-- The output of the checker that is obtained under some settings. -/
def obtain (settings : Settings) : Except UsageFault Obtained :=
  obtainOutput around settings target.source (target.request.output.map PathName.ofText)

/-- The command loads the settings of its target, obtains output, and decodes the source. -/
theorem result_run : (run around arguments).result =
    match target.settings with
    | .error fault => fail (.settings fault) []
    | .ok settings =>
      match target.obtain settings with
      | .error fault => .error (.usage fault)
      | .ok obtained =>
        match obtained.result, decodeFile target.octets with
        | .error failure, _ | .ok _, .error failure =>
          fail failure (obtained.events.flatMap target.request.logSetup.write)
        | .ok output, .ok text =>
          conclude around target.request settings target.source output text obtained := by
  have hrun : run around arguments =
      checkSource around target.request target.source target.octets := by
    simp [run, target.request_eq, target.source_eq, bind, Except.bind, pure, Except.pure]
  simp only [hrun, checkSource, settings, obtain]
  cases Settings.load around.stack around.tree around.directory
      (target.request.config.map PathName.ofText) with
  | error fault => rfl
  | ok settings =>
    dsimp only
    cases obtainOutput around settings target.source
      (target.request.output.map PathName.ofText) <;> rfl

end Target

/-- What the steps in front of the analysis gave. -/
structure Preparation (around : Surroundings) (arguments : List Text) extends
    Target around arguments where
  settings : Settings
  obtained : Obtained
  output : ToolOutput
  text : Text
  settings_eq : toTarget.settings = .ok settings
  obtained_eq : toTarget.obtain settings = .ok obtained
  output_eq : obtained.result = .ok output
  text_eq : decodeFile octets = .ok text

namespace Preparation

/-- The markers that are computed, or the overlong number in the output. -/
def markers (preparation : Preparation around arguments) : Except OverlongNumber (List Marker) :=
  ((analysisOf around preparation.request preparation.settings preparation.source).run
    (.whole preparation.output.stdout) (.whole preparation.output.stderr)
    (.ofText preparation.text)).result.result

/-- The report on markers that the request asks for. -/
def report (preparation : Preparation around arguments) (markers : List Marker) :
    Except Report.MarkupFault Text :=
  CommandLine.report around preparation.request.json preparation.source markers

theorem result_run (preparation : Preparation around arguments) :
    (run around arguments).result =
      conclude around preparation.request preparation.settings preparation.source
        preparation.output preparation.text preparation.obtained := by
  simp only [preparation.toTarget.result_run, preparation.settings_eq, preparation.obtained_eq,
    preparation.output_eq, preparation.text_eq]

theorem result_run_of_overlong {preparation : Preparation around arguments}
    {number : OverlongNumber} (h : preparation.markers = .error number) :
    (run around arguments).result = .error (.overlong number) := by
  rw [markers] at h
  simp only [result_run preparation, conclude, h]

theorem result_run_of_markup {preparation : Preparation around arguments} {markers : List Marker}
    {fault : Report.MarkupFault} (h : preparation.markers = .ok markers)
    (hreport : preparation.report markers = .error fault) :
    (run around arguments).result = .error (.markup fault) := by
  rw [Preparation.markers] at h
  rw [report] at hreport
  simp only [result_run preparation, conclude, h, hreport]

end Preparation

end DiagnosticMarkers.CommandLine
