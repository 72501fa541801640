import DiagnosticMarkers.Proofs.Analysis.Run
import DiagnosticMarkers.Proofs.Group.Blocks

/-!
# Analyses of output that is put together

Where output goes on with a primary, nothing that was open before has a part in what follows. So
the markers of both parts, one behind the other, are the markers of the whole. Lines without a
diagnostic of the document may stand in front of that primary.
-/

namespace DiagnosticMarkers.Analysis

variable {σ τ : Type} {analysis : Analysis σ} {first second whole : Output}

theorem accepted_append (hwhole : whole.lines = first.lines ++ second.lines) :
    analysis.accepted whole = analysis.accepted first ++ analysis.accepted second := by
  rw [accepted, hwhole, Output.diagnosticsOn, List.filterMap_append, List.filter_append]
  rfl

/-- If all lines can be read, the markers are those of the groups that are shown. -/
theorem result_run {stdout : Output}
    (hlines : ∀ line ∈ stdout.lines, ∃ found, Diagnostic.ofLine line = .ok found) {state : σ}
    (hsteady : analysis.document.Steady state) (stderr : Output) :
    (analysis.run stdout stderr state).result.result =
      .ok ((Marker.ofGroups analysis.settings.heading
        (groupDiagnostics (analysis.accepted stdout))).filter
          fun marker => analysis.shows state marker.location) := by
  rw [run_of_ok (result_reading hlines), markers_mark hsteady]

/-- Output whose first diagnostic of the document is a primary, if there is one, adds its markers
to those of the output in front of it. -/
theorem run_append_of_primary (analysis : Analysis σ) {view : σ → τ}
    (htold : analysis.document.ToldBy view) (first second whole : Output)
    (hwhole : whole.lines = first.lines ++ second.lines)
    (hlines : ∀ line ∈ whole.lines, ∃ found, Diagnostic.ofLine line = .ok found)
    (hprimary : ∀ diagnostic ∈ (analysis.accepted second).head?,
      diagnostic.severity.isPrimary = true)
    (stderr : Output) (state before behind : σ) (hbefore : view before = view state)
    (hbehind : view behind = view state) :
    ∃ firstMarkers secondMarkers,
      (analysis.run first stderr before).result.result = .ok firstMarkers ∧
        (analysis.run second stderr behind).result.result = .ok secondMarkers ∧
        (analysis.run whole stderr state).result.result =
          .ok (firstMarkers ++ secondMarkers) := by
  have hsteady := htold.steady state
  rw [hwhole] at hlines
  have hfirst := result_run (fun line hline => hlines line (List.mem_append_left _ hline))
    hsteady stderr
  have hsecond := result_run (fun line hline => hlines line (List.mem_append_right _ hline))
    hsteady stderr
  refine ⟨_, _, (result_run_of_toldBy htold hbefore first stderr stderr).trans hfirst,
    (result_run_of_toldBy htold hbehind second stderr stderr).trans hsecond, ?_⟩
  have hgroups : groupDiagnostics (analysis.accepted whole) =
      groupDiagnostics (analysis.accepted first) ++
        groupDiagnostics (analysis.accepted second) := by
    rw [accepted_append hwhole]
    exact Grouper.run_append_of_endsBlock {} _ hprimary
  rw [← hwhole] at hlines
  rw [result_run hlines hsteady, hgroups, Marker.ofGroups, List.map_append, List.filter_append]
  rfl

/-- The first output leaves an explained error and a loose note open. The second one goes on with
other lines, and then with an error at the place of the first one. -/
theorem run_append_of_primary_after_open_groups :
    let analysis : Analysis TextBuffer :=
      ⟨TextBuffer.document (some "/pkg/mod.py".toList), {}, none⟩
    let buffer : TextBuffer := .ofText "x = y\nz = x\n".toList
    let first : List Text := ["mod.py:1:5: error: boom".toList,
      "mod.py:1:5: note: because".toList, "mod.py:3: note: loose".toList]
    let second : List Text := ["Found 1 error".toList, "other.py:3: note: elsewhere".toList,
      "mod.py:1:5: error: again".toList, "mod.py:3: note: stray".toList,
      "mod.py:1:5: note: late".toList]
    analysis.document.ToldBy id ∧
      (∀ line ∈ (Output.items (first ++ second)).lines,
        ∃ found, Diagnostic.ofLine line = .ok found) ∧
      (∀ diagnostic ∈ (analysis.accepted (.items second)).head?,
        diagnostic.severity.isPrimary = true) ∧
      ∃ firstMarkers secondMarkers,
        (analysis.run (.items (first ++ second)) (.whole []) buffer).result.result =
            .ok (firstMarkers ++ secondMarkers) ∧
          firstMarkers.map Marker.message =
            ["Mypy: loose".toList, "Mypy: boom\nbecause".toList] ∧
          secondMarkers.map Marker.message =
            ["Mypy: stray".toList, "Mypy: late".toList, "Mypy: again".toList] := by
  intro analysis buffer first second
  have htold : analysis.document.ToldBy id := TextBuffer.toldBy_id _
  have hlines : ∀ line ∈ (Output.items (first ++ second)).lines,
      ∃ found, Diagnostic.ofLine line = .ok found :=
    Output.exists_ok_of_isOk (by decide +kernel)
  have hprimary : ∀ diagnostic ∈ (analysis.accepted (.items second)).head?,
      diagnostic.severity.isPrimary = true := by
    decide +kernel
  obtain ⟨firstMarkers, secondMarkers, hfirst, hsecond, hwhole⟩ :=
    run_append_of_primary analysis htold (.items first) (.items second)
      (.items (first ++ second)) (by rfl) hlines hprimary (.whole []) buffer buffer buffer rfl rfl
  refine ⟨htold, hlines, hprimary, firstMarkers, secondMarkers, hwhole, ?_, ?_⟩
  · have hmessages : ((analysis.run (.items first) (.whole []) buffer).result.result.toOption.map
        fun markers => markers.map Marker.message) =
          some ["Mypy: loose".toList, "Mypy: boom\nbecause".toList] := by
      decide +kernel
    rw [hfirst] at hmessages
    exact Option.some.inj hmessages
  · have hmessages : ((analysis.run (.items second) (.whole []) buffer).result.result.toOption.map
        fun markers => markers.map Marker.message) =
          some ["Mypy: stray".toList, "Mypy: late".toList, "Mypy: again".toList] := by
      decide +kernel
    rw [hsecond] at hmessages
    exact Option.some.inj hmessages

end DiagnosticMarkers.Analysis
