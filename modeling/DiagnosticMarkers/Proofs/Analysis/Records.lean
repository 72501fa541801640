import DiagnosticMarkers.Proofs.Analysis.Session
import DiagnosticMarkers.Proofs.Output
import DiagnosticMarkers.Proofs.Suppression.Calls
import DiagnosticMarkers.Proofs.Text.Trim

/-!
# The log of an analysis

An analysis logs what it does in the order in which it does it: the error output, then each line as
it is read, then each marker as its source line is looked up, and at last how many markers came of
how many groups. A line without a diagnostic is skipped with a record unless it is blank, a
diagnostic of another file is ignored with a record, and a diagnostic of the document leaves none.
Every group is accounted for, as a marker that is shown or as one that a comment suppresses. A line
that cannot be read ends the log where the reading ends, and the document is not touched.
-/

namespace DiagnosticMarkers.Output

open Text

/-! ## Lines of output -/

/-- What is logged about a line. -/
def lineRecord? (accepts : Diagnostic → Bool) (line : Text) : Option LogRecord :=
  match Diagnostic.ofLine line with
  | .error _ => none
  | .ok none =>
    if allBlank line then none
    else some ⟨.debug, "typemarks.parsers", "skipping non-diagnostic line: ".toList ++ line⟩
  | .ok (some diagnostic) =>
    if accepts diagnostic then none
    else some ⟨.debug, "typemarks.paths",
      "ignoring diagnostic for unrelated file ".toList ++ diagnostic.path⟩

variable {accepts : Diagnostic → Bool} {line : Text} {lines : List Text}

theorem lineRecord?_of_none (hread : Diagnostic.ofLine line = .ok none) :
    lineRecord? accepts line =
      if allBlank line then none else some (Event.skippedLine line).toRecord := by
  rw [lineRecord?, hread]
  rfl

theorem lineRecord?_of_some {diagnostic : Diagnostic}
    (hread : Diagnostic.ofLine line = .ok (some diagnostic)) :
    lineRecord? accepts line =
      if accepts diagnostic then none
      else some (Event.unrelatedFile diagnostic.path).toRecord := by
  rw [lineRecord?, hread]
  rfl

/-- A line that can be read is logged by itself, before the lines behind it. -/
theorem records_read_cons_of_ok {found : Option Diagnostic}
    (hread : Diagnostic.ofLine line = .ok found) (rest : List Text) :
    (read accepts (line :: rest)).events.map Event.toRecord =
      (lineRecord? accepts line).toList ++ (read accepts rest).events.map Event.toRecord := by
  cases found with
  | none =>
    rw [lineRecord?_of_none hread]
    simp only [read, hread]
    split <;> rfl
  | some diagnostic =>
    rw [lineRecord?_of_some hread]
    simp only [read, hread]
    split <;> rfl

/-- Nothing is logged about a line that cannot be read, nor behind it. -/
theorem events_read_cons_of_error {fault : OverlongNumber}
    (hread : Diagnostic.ofLine line = .error fault) (rest : List Text) :
    (read accepts (line :: rest)).events = [] := by
  simp only [read, hread]

/-- Lines that can be read are logged one after the other, before anything behind them. -/
theorem records_read_append (hlines : ∀ line ∈ lines, ∃ found, Diagnostic.ofLine line = .ok found)
    (rest : List Text) :
    (read accepts (lines ++ rest)).events.map Event.toRecord =
      lines.filterMap (lineRecord? accepts) ++ (read accepts rest).events.map Event.toRecord := by
  induction lines with
  | nil => rfl
  | cons line lines ih =>
    obtain ⟨found, hfound⟩ := hlines line List.mem_cons_self
    have hrest := ih fun other hother => hlines other (List.mem_cons_of_mem line hother)
    rw [List.cons_append, records_read_cons_of_ok hfound, hrest, ← List.append_assoc,
      List.filterMap_cons]
    cases lineRecord? accepts line <;> rfl

theorem records_read (hlines : ∀ line ∈ lines, ∃ found, Diagnostic.ofLine line = .ok found) :
    (read accepts lines).events.map Event.toRecord = lines.filterMap (lineRecord? accepts) := by
  have hall : (read accepts (lines ++ [])).events.map Event.toRecord = _ :=
    records_read_append hlines []
  rwa [List.append_nil, read, List.map_nil, List.append_nil] at hall

/-- The lines up to the first that cannot be read are logged. -/
theorem records_read_of_fault
    (hlines : ∀ line ∈ lines, ∃ found, Diagnostic.ofLine line = .ok found) {fault : OverlongNumber}
    (hread : Diagnostic.ofLine line = .error fault) (rest : List Text) :
    (read accepts (lines ++ line :: rest)).events.map Event.toRecord =
      lines.filterMap (lineRecord? accepts) := by
  rw [records_read_append hlines, events_read_cons_of_error hread, List.map_nil, List.append_nil]

end DiagnosticMarkers.Output

namespace DiagnosticMarkers

/-! ## Analyses -/

variable {σ : Type}

def Findings.records {ε : Type} (findings : Findings ε) : List LogRecord :=
  findings.events.map Event.toRecord

namespace Analysis

variable {analysis : Analysis σ}

/-- The markers of all groups in some output, before any is suppressed. -/
def candidates (analysis : Analysis σ) (stdout : Output) : List Marker :=
  Marker.ofGroups analysis.settings.heading (groupDiagnostics (analysis.accepted stdout))

/-- The last record of an analysis. -/
def producedRecord (markers groups : Nat) (document : Option Text) : LogRecord :=
  ⟨.debug, "typemarks.analysis",
    "produced ".toList ++ Text.ofNat markers ++ " marker(s) from ".toList ++ Text.ofNat groups
      ++ " group(s) for ".toList ++ document.getD "<unsaved buffer>".toList⟩

/-- The calls for the source lines of all markers that come into question. -/
def calls (analysis : Analysis σ) (stdout : Output) (state : σ) : List Suppression.Call :=
  Suppression.calls analysis.document (analysis.candidates stdout) state

theorem records_mark (stdout : Output) (state : σ) :
    (analysis.mark (analysis.accepted stdout) state).result.events.map Event.toRecord =
      (analysis.calls stdout state).filterMap
          (Suppression.Call.record? analysis.settings.tokens) ++
        [producedRecord (analysis.mark (analysis.accepted stdout) state).result.markers.length
          (groupDiagnostics (analysis.accepted stdout)).length analysis.document.path] := by
  rw [calls, candidates, ← Suppression.records_collect_calls, mark, List.map_append]
  rfl

/-- The markers of an analysis are those whose call lets them stay. -/
theorem markers_mark_calls (stdout : Output) (state : σ) :
    (analysis.mark (analysis.accepted stdout) state).result.markers =
      ((analysis.calls stdout state).filter
        (Suppression.Call.stays analysis.settings.tokens)).map Suppression.Call.marker :=
  Suppression.markers_collect_calls analysis.document analysis.settings.tokens _ state

theorem length_calls (stdout : Output) (state : σ) :
    (analysis.calls stdout state).length =
      (groupDiagnostics (analysis.accepted stdout)).length := by
  have hmarkers := congrArg List.length
    (Suppression.map_marker_calls analysis.document (analysis.candidates stdout) state)
  rwa [List.length_map, candidates, Marker.ofGroups, List.length_map] at hmarkers

theorem records_run {stdout : Output}
    (hlines : ∀ line ∈ stdout.lines, ∃ found, Diagnostic.ofLine line = .ok found)
    (stderr : Output) (state : σ) :
    (analysis.run stdout stderr state).result.records =
      (errorEvents stderr).map Event.toRecord ++
        stdout.lines.filterMap (Output.lineRecord? analysis.filter.accepts) ++
        (analysis.calls stdout state).filterMap
          (Suppression.Call.record? analysis.settings.tokens) ++
        [producedRecord (analysis.mark (analysis.accepted stdout) state).result.markers.length
          (groupDiagnostics (analysis.accepted stdout)).length analysis.document.path] := by
  have hread : (analysis.reading stdout).events.map Event.toRecord =
      stdout.lines.filterMap (Output.lineRecord? analysis.filter.accepts) :=
    Output.records_read hlines
  rw [run_of_ok (result_reading hlines), Findings.records, List.map_append, List.map_append, hread,
    records_mark, ← List.append_assoc]

section Fault

variable {stdout : Output} {before behind : List Text} {line : Text} {fault : OverlongNumber}

theorem result_reading_of_fault (hlines : stdout.lines = before ++ line :: behind)
    (hbefore : ∀ earlier ∈ before, ∃ found, Diagnostic.ofLine earlier = .ok found)
    (hfault : Diagnostic.ofLine line = .error fault) :
    (analysis.reading stdout).result = .error fault := by
  rw [reading, Output.result_read_eq_error_iff, hlines]
  exact firstFault_append hbefore hfault behind

theorem records_run_of_fault (hlines : stdout.lines = before ++ line :: behind)
    (hbefore : ∀ earlier ∈ before, ∃ found, Diagnostic.ofLine earlier = .ok found)
    (hfault : Diagnostic.ofLine line = .error fault) (stderr : Output) (state : σ) :
    (analysis.run stdout stderr state).result.records =
      (errorEvents stderr).map Event.toRecord ++
        before.filterMap (Output.lineRecord? analysis.filter.accepts) := by
  rw [run_of_error (result_reading_of_fault hlines hbefore hfault), Findings.records,
    List.map_append, reading, hlines, Output.records_read_of_fault hbefore hfault]

end Fault

end Analysis

namespace Session

variable {analysis : Analysis σ} {session : Session σ}

theorem records_analyze (hgoing : session.cancelled = false) (stdout stderr : Output) :
    (session.analyze analysis stdout stderr).result.records =
      (analysis.run stdout stderr session.state).result.records := by
  rw [analyze_of_not_cancelled hgoing]
  rfl

/-- An analysis that is not given up logs the error output, then each line of output by itself,
then each call for the source line of a marker, and last the number of markers and of groups, where
each group has given a marker or a debug record. If a line cannot be read, the log ends in front of
it, the analysis fails, and the document is not accessed. -/
theorem analyze_logs_lines_and_groups (analysis : Analysis σ) (session : Session σ)
    (hgoing : session.cancelled = false) (stdout stderr : Output) :
    ((∀ line ∈ stdout.lines, ∃ found, Diagnostic.ofLine line = .ok found) →
      ∃ (markers : List Marker) (calls : List Suppression.Call),
        (session.analyze analysis stdout stderr).result.result = .ok markers ∧
        calls.map Suppression.Call.marker = analysis.candidates stdout ∧
        calls.map Suppression.Call.answer = analysis.document.answers
          ((analysis.candidates stdout).map (·.location.line)) session.state ∧
        markers = (calls.filter (Suppression.Call.stays analysis.settings.tokens)).map
          Suppression.Call.marker ∧
        (session.analyze analysis stdout stderr).result.records =
          (errorEvents stderr).map Event.toRecord ++
            stdout.lines.filterMap (Output.lineRecord? analysis.filter.accepts) ++
            calls.filterMap (Suppression.Call.record? analysis.settings.tokens) ++
            [Analysis.producedRecord markers.length
              (groupDiagnostics (analysis.accepted stdout)).length analysis.document.path] ∧
        markers.length + (calls.filterMap
            (Suppression.Call.record? analysis.settings.tokens)).countP
              (fun record => record.level = .debug) =
          (groupDiagnostics (analysis.accepted stdout)).length) ∧
      ∀ (before : List Text) (line : Text) (behind : List Text) (fault : OverlongNumber),
        stdout.lines = before ++ line :: behind →
        (∀ earlier ∈ before, ∃ found, Diagnostic.ofLine earlier = .ok found) →
        Diagnostic.ofLine line = .error fault →
        (session.analyze analysis stdout stderr).result.result = .error (.overlong fault) ∧
          (session.analyze analysis stdout stderr).result.records =
            (errorEvents stderr).map Event.toRecord ++
              before.filterMap (Output.lineRecord? analysis.filter.accepts) ∧
          (session.analyze analysis stdout stderr).accesses = [] := by
  rw [records_analyze hgoing, analyze_of_not_cancelled hgoing]
  constructor
  · intro hlines
    have hmarkers := analysis.markers_mark_calls stdout session.state
    refine ⟨_, analysis.calls stdout session.state, ?_, Suppression.map_marker_calls _ _ _,
      Suppression.map_answer_calls _ _ _, hmarkers,
      Analysis.records_run hlines stderr session.state, ?_⟩
    · rw [Analysis.run_of_ok (Analysis.result_reading hlines)]
      rfl
    · rw [hmarkers, List.length_map, Suppression.length_filter_stays_add_countP,
        Analysis.length_calls]
  · intro before line behind fault hlines hbefore hfault
    have hrecords := analysis.records_run_of_fault hlines hbefore hfault stderr session.state
    rw [hrecords, Analysis.run_of_error (Analysis.result_reading_of_fault hlines hbefore hfault)]
    exact ⟨rfl, rfl, rfl⟩

/-- A crash, a line of each kind, an error that is suppressed and a note whose line cannot be read;
and the same host with output of which the second line holds an overlong number. -/
theorem analyze_logs_lines_and_groups_of_each_kind :
    let host : Document Unit :=
      { path := some "/pkg/mod.py".toList
        hasLock := true
        line := fun number _ =>
          (if number = 3 then .error (.refused "KeyError".toList "gone".toList)
            else .ok (if number = 2 then "y = x  # noqa".toList else "x = y".toList), ()) }
    let analysis : Analysis Unit := ⟨host, {}, none⟩
    let session : Session Unit := { state := () }
    let stdout : Output := .items ["mod.py:1: error: boom".toList, [],
      "other.py:1: note: elsewhere".toList, "mod.py:1: note: why".toList, "Found 1 error".toList,
      "mod.py:2: error: hidden".toList, "mod.py:3: note: loose".toList]
    let far : Text := "mod.py:".toList ++ List.replicate 4301 '1' ++ ": error: far".toList ++ ['!']
    let faulty : Output := .items ["Found 1 error".toList, far, "Found 2 errors".toList]
    let stderr : Output := .whole "INTERNAL ERROR".toList
    session.cancelled = false ∧
      (∃ (markers : List Marker) (calls : List Suppression.Call),
        (session.analyze analysis stdout stderr).result.result = .ok markers ∧
        calls.map Suppression.Call.marker = analysis.candidates stdout ∧
        markers.length + (calls.filterMap
          (Suppression.Call.record? analysis.settings.tokens)).countP
            (fun record => record.level = .debug) = 3) ∧
      (session.analyze analysis stdout stderr).result.records.map LogRecord.message =
        ["mypy stderr:\nINTERNAL ERROR".toList,
          "mypy reported an internal failure on stderr".toList,
          "ignoring diagnostic for unrelated file other.py".toList,
          "skipping non-diagnostic line: Found 1 error".toList,
          "cannot check suppression for line 3: gone".toList,
          "marker at line 2 suppressed by inline comment".toList,
          "produced 2 marker(s) from 3 group(s) for /pkg/mod.py".toList] ∧
      (session.analyze analysis faulty stderr).result.records.map LogRecord.message =
        ["mypy stderr:\nINTERNAL ERROR".toList,
          "mypy reported an internal failure on stderr".toList,
          "skipping non-diagnostic line: Found 1 error".toList] ∧
      (session.analyze analysis faulty stderr).accesses = [] := by
  intro host analysis session stdout far faulty stderr
  have hlines : ∀ line ∈ stdout.lines, ∃ found, Diagnostic.ofLine line = .ok found :=
    Output.exists_ok_of_isOk (by decide +kernel)
  have hgroups : (groupDiagnostics (analysis.accepted stdout)).length = 3 := by decide +kernel
  obtain ⟨hgoes, -⟩ := analyze_logs_lines_and_groups analysis session rfl stdout stderr
  obtain ⟨-, hfails⟩ := analyze_logs_lines_and_groups analysis session rfl faulty stderr
  obtain ⟨markers, calls, hresult, hmarkers, -, -, -, hcount⟩ := hgoes hlines
  refine ⟨rfl, ⟨markers, calls, hresult, hmarkers, hcount.trans hgroups⟩, by decide +kernel, ?_⟩
  have hbefore : ∀ line ∈ ["Found 1 error".toList].map Output.dropLineEnd,
      ∃ found, Diagnostic.ofLine line = .ok found :=
    Output.exists_ok_of_isOk (by decide +kernel)
  have hfaulty : faulty.lines = ["Found 1 error".toList].map Output.dropLineEnd ++
      far :: ["Found 2 errors".toList].map Output.dropLineEnd := by
    have hfar : Output.dropLineEnd far = far := Text.dropEndWhile_append_cons rfl _ _
    simp only [faulty, Output.lines, List.map_cons, List.map_nil, List.cons_append, List.nil_append,
      hfar]
  cases hread : Diagnostic.ofLine far with
  | ok read =>
    have hfault : (Diagnostic.ofLine far).isOk = false := by decide +kernel
    rw [hread] at hfault
    cases hfault
  | error fault =>
    obtain ⟨-, hrecords, haccesses⟩ := hfails _ _ _ fault hfaulty hbefore hread
    exact ⟨(congrArg (List.map LogRecord.message) hrecords).trans (by decide +kernel), haccesses⟩

end Session

end DiagnosticMarkers
