import DiagnosticMarkers.Proofs.Analysis.Run
import DiagnosticMarkers.Proofs.CommandLine.Preparation
import DiagnosticMarkers.Proofs.Settings.Load

/-!
# Faults that the command does not handle

Five faults escape: an overlong number in the file of settings or in the output, settings that
stand too deep in each other, a null character in the command that is started, and a table that
cannot be drawn. Each of them is what the command ends with, and its status is then that of
markers. Of the faults in front of the analysis no other is left unhandled.
-/

namespace DiagnosticMarkers

/-- The checker is not started for a null character only if starting it finds one. -/
theorem Checker.result_run_eq_nullInCommand_iff (programs : Programs) (settings : Settings)
    (target : PathName) :
    (run programs settings target none).result = .error .nullInCommand ↔
      ∃ command, locate programs.find (Checker.command settings target) = .ok command ∧
        programs.start { command, directory := none } = .error .nullInCommand := by
  unfold run
  cases hcommand : locate programs.find (Checker.command settings target) with
  | error fault =>
    have hfault : fault ≠ .nullInCommand := by
      rintro rfl
      unfold locate at hcommand
      split at hcommand
      · cases hcommand
      · dsimp only at hcommand
        split at hcommand
        · cases hcommand
        · split at hcommand <;> cases hcommand
    simpa using hfault
  | ok command =>
    cases hstart : programs.start { command, directory := none } with
    | error fault => cases fault <;> simp [hstart]
    | ok output => simp [hstart]

namespace CommandLine

variable {around : Surroundings} {arguments : List Text}

/-- The faults that the command does not handle. -/
inductive Escapes (around : Surroundings) (arguments : List Text) : Interruption → Prop
  /-- An integer in the file of settings has too many digits. -/
  | overlongSettings (target : Target around arguments) {path text : Text}
      {number : OverlongNumber}
      (hfile : Settings.source? around.tree around.directory
        (target.request.config.map PathName.ofText) = some (path, Utf8.encode text))
      (hnumber : Toml.parse around.stack text = .error (.overlong number)) :
    Escapes around arguments (.overlong number)
  /-- Values in the file of settings stand deeper in each other than the call stack allows. -/
  | deepSettings (target : Target around arguments) {path text : Text}
      (hfile : Settings.source? around.tree around.directory
        (target.request.config.map PathName.ofText) = some (path, Utf8.encode text))
      (hdeep : Toml.parse around.stack text = .error .tooDeep) :
    Escapes around arguments .tooDeep
  /-- The checker is to be run, and the command that is started holds the null character. -/
  | command (target : Target around arguments) {settings : Settings} {command : List Text}
      (hsettings : target.settings = .ok settings) (houtput : target.request.output = none)
      (hcommand : Checker.locate around.programs.find
        (Checker.command settings target.source) = .ok command)
      (hstart : around.programs.start { command, directory := none } = .error .nullInCommand) :
    Escapes around arguments .nullInCommand
  /-- A line or a column in the output has too many digits. -/
  | output (preparation : Preparation around arguments) {number : OverlongNumber}
      (hnumber : FirstFault Diagnostic.ofLine (Output.whole preparation.output.stdout).lines
        number) :
    Escapes around arguments (.overlong number)
  /-- The markers are to stand in a table that cannot be drawn. -/
  | table (preparation : Preparation around arguments) {markers : List Marker}
      {fault : Report.MarkupFault} (hmarkers : preparation.markers = .ok markers)
      (hne : markers ≠ []) (hjson : preparation.request.json = false)
      (hfault : around.draw (Report.table markers) = .error fault) :
    Escapes around arguments (.markup fault)

namespace Target

variable (target : Target around arguments)

theorem obtain_of_run (settings : Settings) (houtput : target.request.output = none) :
    let run := Checker.run around.programs settings target.source none
    target.obtain settings = .ok ⟨run.result.mapError .run, run.launches, run.events⟩ := by
  rw [obtain, houtput]
  rfl

end Target

namespace Preparation

/-- The steps in front of the analysis give one thing only. -/
theorem eq (preparation other : Preparation around arguments) : preparation = other := by
  obtain ⟨⟨request, source, octets, hrequest, hsource⟩, settings, obtained, output, text,
    hsettings, hobtained, houtput, htext⟩ := preparation
  obtain ⟨⟨_, _, _, hrequest', hsource'⟩, _, _, _, _, hsettings', hobtained', houtput', htext'⟩ :=
    other
  obtain rfl := Except.ok.inj (hrequest.symm.trans hrequest')
  obtain ⟨rfl, rfl⟩ := Prod.mk.inj (Except.ok.inj (hsource.symm.trans hsource'))
  obtain rfl := Except.ok.inj (hsettings.symm.trans hsettings')
  obtain rfl := Except.ok.inj (hobtained.symm.trans hobtained')
  obtain rfl := Except.ok.inj (houtput.symm.trans houtput')
  obtain rfl := Except.ok.inj (htext.symm.trans htext')
  rfl

theorem markers_eq_error_iff (preparation : Preparation around arguments)
    (number : OverlongNumber) :
    preparation.markers = .error number ↔
      FirstFault Diagnostic.ofLine (Output.whole preparation.output.stdout).lines number :=
  Analysis.result_run_eq_error_iff _ _ _ _ number

/-- A report fails only as a table that cannot be drawn. -/
theorem report_eq_error_iff (preparation : Preparation around arguments) (markers : List Marker)
    (fault : Report.MarkupFault) :
    preparation.report markers = .error fault ↔
      markers ≠ [] ∧ preparation.request.json = false ∧
        around.draw (Report.table markers) = .error fault := by
  unfold report CommandLine.report
  split
  · next hjson => simp [hjson]
  next hjson =>
  split
  · next hempty => simp [List.isEmpty_iff.mp hempty]
  · next hne =>
    have hmarkers : markers ≠ [] := fun h => hne (List.isEmpty_iff.mpr h)
    cases around.draw (Report.table markers) <;> simp [hjson, hmarkers, Except.map]

end Preparation

/-- A fault that escapes is what the command ends with. -/
theorem Escapes.result_run {interruption : Interruption}
    (h : Escapes around arguments interruption) :
    (run around arguments).result = .error interruption := by
  cases h with
  | overlongSettings target hfile hnumber =>
    have hsettings := (Settings.load_eq_overlong_iff _ _ _ _ _).mpr ⟨_, _, hfile, hnumber⟩
    rw [← Target.settings] at hsettings
    simp only [target.result_run, hsettings]
    rfl
  | deepSettings target hfile hdeep =>
    have hsettings := (Settings.load_eq_tooDeep_iff _ _ _ _).mpr ⟨_, _, hfile, hdeep⟩
    rw [← Target.settings] at hsettings
    simp only [target.result_run, hsettings]
    rfl
  | command target hsettings houtput hcommand hstart =>
    have hrun := (Checker.result_run_eq_nullInCommand_iff _ _ _).mpr ⟨_, hcommand, hstart⟩
    simp only [target.result_run, hsettings, target.obtain_of_run _ houtput, hrun]
    rfl
  | output preparation hnumber =>
    exact Preparation.result_run_of_overlong ((preparation.markers_eq_error_iff _).mpr hnumber)
  | table preparation hmarkers hne hjson hfault =>
    exact Preparation.result_run_of_markup hmarkers
      ((preparation.report_eq_error_iff _ _).mpr ⟨hne, hjson, hfault⟩)

end CommandLine

end DiagnosticMarkers
