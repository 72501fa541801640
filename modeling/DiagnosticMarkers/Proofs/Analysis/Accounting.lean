import DiagnosticMarkers.Proofs.Analysis.Run
import DiagnosticMarkers.Proofs.Diagnostic.Reading
import DiagnosticMarkers.Proofs.Group.Invariant
import DiagnosticMarkers.Proofs.Text.Pieces
import DiagnosticMarkers.Proofs.Text.Trim

/-!
# Every diagnostic is accounted for

Behind the heading the message of a marker can be cut into the texts of its group, since no
text that is read holds a newline. All diagnostics of a group are at the place of its marker,
so suppressing a marker suppresses what is at its line and nothing else. Together: the texts
in the markers are those of the accepted diagnostics that are not suppressed, each once.
-/

namespace DiagnosticMarkers

open Text

/-- The place and the text of a diagnostic. -/
def Diagnostic.fragment (diagnostic : Diagnostic) : Location × Text :=
  (diagnostic.location, diagnostic.text)

/-- The place of a marker with each line of its message behind the heading. -/
def Marker.fragments (heading : Text) (marker : Marker) : List (Location × Text) :=
  (cutAt '\n' (marker.message.drop heading.length)).map fun text => (marker.location, text)

/-- No text that is read from a line holds a newline. -/
theorem Diagnostic.newline_notMem_text {raw : Text} {diagnostic : Diagnostic}
    (h : ofLine raw = .ok (some diagnostic)) : '\n' ∉ diagnostic.text := by
  have hexists : ∃ factorization : Factorization, factorization.IsShortest (trim raw) := by
    by_contra hnone
    have hne : ∀ factorization : Factorization, factorization.text ≠ trim raw :=
      fun factorization htext => hnone (exists_isShortest factorization htext)
    rw [ofLine_of_forall_ne hne] at h
    cases h
  obtain ⟨factorization, hshortest⟩ := hexists
  have hdecides := decides_ofLine hshortest
  rw [h] at hdecides
  cases hdecides with
  | diagnostic _ _ _ _ _ _ htext _ =>
    rw [← htext.trim_eq]
    exact fun hmem => factorization.remainder.body.newline_notMem (mem_of_mem_trim hmem)

theorem Output.newline_notMem_text {lines : List Text} {diagnostic : Diagnostic}
    (h : diagnostic ∈ diagnosticsOn lines) : '\n' ∉ diagnostic.text := by
  obtain ⟨line, -, hline⟩ := List.mem_filterMap.mp h
  unfold diagnosticOn? at hline
  cases hread : Diagnostic.ofLine line with
  | error fault => simp [hread, Except.toOption] at hline
  | ok found =>
    obtain rfl : found = some diagnostic := by simpa [hread, Except.toOption] using hline
    exact Diagnostic.newline_notMem_text hread

namespace Marker

variable {heading : Text}

theorem heading_prefix_ofGroup (group : Group) : heading <+: (ofGroup heading group).message :=
  List.prefix_append heading _

/-- A marker holds the diagnostics of its group, each at its place. -/
theorem fragments_ofGroup {group : Group} (hgroup : group.WellFormed)
    (htexts : ∀ diagnostic ∈ group.members, '\n' ∉ diagnostic.text) :
    (ofGroup heading group).fragments heading = group.members.map Diagnostic.fragment := by
  have hparts : ∀ text ∈ group.texts, '\n' ∉ text := by
    intro text htext
    obtain ⟨diagnostic, hmem, rfl⟩ := List.mem_map.mp htext
    exact htexts diagnostic hmem
  have hne : group.texts ≠ [] := by simpa [Group.texts] using group.members_ne_nil
  rw [fragments, ofGroup, List.drop_left, cutAt_joinWith hne hparts, Group.texts, List.map_map]
  refine List.map_congr_left fun diagnostic hmem => ?_
  simp [Diagnostic.fragment, hgroup.location_eq hmem]

/-- Leaving out markers by their place leaves out the diagnostics at those places. -/
theorem fragments_filter_ofGroups {groups : List Group}
    (hgroups : ∀ group ∈ groups, group.WellFormed)
    (htexts : ∀ diagnostic ∈ groups.flatMap Group.members, '\n' ∉ diagnostic.text)
    (keeps : Location → Bool) :
    ((ofGroups heading groups).filter fun marker => keeps marker.location).flatMap
        (fragments heading) =
      ((groups.flatMap Group.members).filter fun diagnostic =>
        keeps diagnostic.location).map Diagnostic.fragment := by
  induction groups with
  | nil => rfl
  | cons group groups ih =>
    have hgroup := hgroups group List.mem_cons_self
    rw [List.flatMap_cons] at htexts
    have hhead : ∀ diagnostic ∈ group.members, '\n' ∉ diagnostic.text :=
      fun diagnostic hmem => htexts diagnostic (List.mem_append_left _ hmem)
    have hrest := ih (fun other hother => hgroups other (List.mem_cons_of_mem _ hother))
      fun diagnostic hmem => htexts diagnostic (List.mem_append_right _ hmem)
    have hlocation : (ofGroup heading group).location = group.location := rfl
    rw [List.flatMap_cons, List.filter_append, List.map_append, ← hrest, ofGroups,
      List.map_cons, List.filter_cons, hlocation, hgroup.filter_members]
    split
    · rw [List.flatMap_cons, fragments_ofGroup hgroup hhead]
      rfl
    · rfl

end Marker

namespace Analysis

variable {σ : Type}

/-- Every marker begins with the heading, and the lines of the messages behind it are the
texts of the accepted diagnostics that are to be shown, each once and at its place. -/
theorem run_accounts_for_diagnostics (analysis : Analysis σ) (stdout stderr : Output) (state : σ)
    (hlines : ∀ line ∈ stdout.lines, ∃ found, Diagnostic.ofLine line = .ok found)
    (hsteady : analysis.document.Steady state) :
    ∃ markers, (analysis.run stdout stderr state).result.result = .ok markers ∧
      (∀ marker ∈ markers, analysis.settings.heading <+: marker.message) ∧
      (markers.flatMap (Marker.fragments analysis.settings.heading)).Perm
        (((analysis.accepted stdout).filter fun diagnostic =>
          analysis.shows state diagnostic.location).map Diagnostic.fragment) := by
  refine ⟨(analysis.mark (analysis.accepted stdout) state).result.markers, ?_, ?_, ?_⟩
  · rw [run_of_ok (result_reading hlines)]
  · rw [markers_mark hsteady]
    intro marker hmarker
    obtain ⟨group, -, rfl⟩ := List.mem_map.mp (List.mem_of_mem_filter hmarker)
    exact Marker.heading_prefix_ofGroup group
  · have hmembers := members_groupDiagnostics_perm (analysis.accepted stdout)
    have htexts : ∀ diagnostic ∈ (groupDiagnostics (analysis.accepted stdout)).flatMap
        Group.members, '\n' ∉ diagnostic.text := fun diagnostic hmem =>
      Output.newline_notMem_text (List.mem_of_mem_filter (hmembers.mem_iff.mp hmem))
    rw [markers_mark hsteady, Marker.fragments_filter_ofGroups
      (fun group hgroup => wellFormed_of_mem_groupDiagnostics hgroup) htexts]
    exact (hmembers.filter _).map _

/-- One of three accepted diagnostics is suppressed, and a note shares the marker of its
error. -/
theorem run_accounts_for_merged_note :
    let analysis : Analysis TextBuffer :=
      ⟨TextBuffer.document (some "/pkg/mod.py".toList), {}, none⟩
    let stdout : Output := .items ["mod.py:1:5: error: boom".toList,
      "mod.py:1:5: note: because".toList, "mod.py:2: error: hidden".toList,
      "other.py:1:5: note: elsewhere".toList, "Found 2 errors".toList]
    let buffer : TextBuffer := .ofText "x = y\nz = x  # noqa\n".toList
    (∀ line ∈ stdout.lines, ∃ found, Diagnostic.ofLine line = .ok found) ∧
      analysis.document.Steady buffer ∧
      ∃ markers, (analysis.run stdout (.whole []) buffer).result.result = .ok markers ∧
        (∀ marker ∈ markers, analysis.settings.heading <+: marker.message) ∧
        (markers.flatMap (Marker.fragments analysis.settings.heading)).Perm
          [(⟨1, some 5⟩, "boom".toList), (⟨1, some 5⟩, "because".toList)] := by
  intro analysis stdout buffer
  have hlines : ∀ line ∈ stdout.lines, ∃ found, Diagnostic.ofLine line = .ok found := by
    have hok : ∀ line ∈ stdout.lines, (Diagnostic.ofLine line).isOk = true := by
      decide +kernel
    intro line hline
    cases hread : Diagnostic.ofLine line with
    | error fault => simpa [hread, Except.isOk, Except.toBool] using hok line hline
    | ok found => exact ⟨found, rfl⟩
  have hsteady := (TextBuffer.toldBy_id (some "/pkg/mod.py".toList)).steady buffer
  obtain ⟨markers, hresult, hheading, hperm⟩ :=
    run_accounts_for_diagnostics analysis stdout (.whole []) buffer hlines hsteady
  have hshown : ((analysis.accepted stdout).filter fun diagnostic =>
      analysis.shows buffer diagnostic.location).map Diagnostic.fragment =
        [(⟨1, some 5⟩, "boom".toList), (⟨1, some 5⟩, "because".toList)] := by
    decide +kernel
  exact ⟨hlines, hsteady, markers, hresult, hheading, hshown ▸ hperm⟩

end Analysis

end DiagnosticMarkers
