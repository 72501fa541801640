import DiagnosticMarkers.Proofs.Output
import DiagnosticMarkers.Proofs.Path.Recognition

/-!
# Paths without case

Case is left aside at the very end: the segments of a path are found with case and then folded, in
the reported path, in the base directory and in the document alike. So what ends the document's
path with case ends it without, and without case a path is told by its folded segments alone. The
base directory is an exception to this only in that blanks at its end are part of its last name.
-/

namespace DiagnosticMarkers

open Text

namespace Path

/-- The paths have the same segments, but for case. -/
def AgreeFolded (path other : Text) : Prop :=
  (segments .sensitive path).map foldCase = (segments .sensitive other).map foldCase

instance (path other : Text) : Decidable (AgreeFolded path other) :=
  inferInstanceAs (Decidable (_ = _))

theorem AgreeFolded.segments_eq {path other : Text} (h : AgreeFolded path other) :
    segments .insensitive path = segments .insensitive other := by
  rw [segments_insensitive, segments_insensitive]
  exact h

end Path

namespace PathFilter

open DiagnosticMarkers.Path

/-- An end stays an end if all segments are changed alike. -/
theorem endsDocument_map (change : Text → Text) {candidate document : List Text}
    (h : endsDocument candidate document = true) :
    endsDocument (candidate.map change) (document.map change) = true := by
  obtain ⟨hne, hends⟩ := (endsDocument_iff _ _).mp h
  exact (endsDocument_iff _ _).mpr ⟨mt List.map_eq_nil_iff.mp hne, hends.map change⟩

/-- What is accepted with case is accepted without. -/
theorem acceptsPath_insensitive {document base : Option Text} {reported : Text}
    (h : PathFilter.acceptsPath { document, mode := .sensitive, base } reported = true) :
    PathFilter.acceptsPath { document, mode := .insensitive, base } reported = true := by
  cases document with
  | none => rfl
  | some path =>
    rw [acceptsPath_iff_exists] at h ⊢
    simp only [segments_insensitive]
    rcases h with hends | ⟨directory, hdirectory, hrelative, hends⟩
    · exact .inl (endsDocument_map foldCase hends)
    · exact .inr ⟨directory, hdirectory, hrelative, endsDocument_map foldCase hends⟩

/-- Read from directories with the same segments, paths with the same segments have the same. -/
theorem segments_fromBase_congr {mode : CaseMode} {base directory reported path : Text}
    (hbase : trim base = base) (hdirectory : trim directory = directory)
    (hsame : segments mode base = segments mode directory)
    (hreported : segments mode reported = segments mode path) :
    segments mode (fromBase base reported) = segments mode (fromBase directory path) := by
  rw [segments_eq_iff] at hsame hreported ⊢
  rw [foldl_fromBase, foldl_fromBase, baseStack_of_trim_eq hbase, baseStack_of_trim_eq hdirectory]
  exact foldl_pushSegment_congr mode hreported hsame

/-- Without case the diagnostics that are kept with case are kept in their order, and there may be
more. Whether a path is accepted then stays the same if the document, the base directory and the
path are replaced by others whose segments agree but for case, as long as there are no blanks
around the base directories and the path stays absolute or relative. -/
theorem keep_widens_without_case (document base : Option Text) :
    (∀ diagnostics,
      (Output.keep { document, mode := .sensitive, base } diagnostics).2.Sublist
        (Output.keep { document, mode := .insensitive, base } diagnostics).2) ∧
      ∀ (otherDocument otherBase : Option Text) (reported path : Text),
        Option.Rel AgreeFolded document otherDocument →
        Option.Rel (fun directory other =>
          AgreeFolded directory other ∧ trim directory = directory ∧ trim other = other)
          base otherBase →
        AgreeFolded reported path → isAbsolute reported = isAbsolute path →
        PathFilter.acceptsPath { document, mode := .insensitive, base } reported =
          PathFilter.acceptsPath
            { document := otherDocument, mode := .insensitive, base := otherBase } path := by
  constructor
  · intro diagnostics
    rw [Output.keep_eq_filter, Output.keep_eq_filter]
    exact List.monotone_filter_right _ fun diagnostic => acceptsPath_insensitive
  · intro otherDocument otherBase reported path hdocument hbase hreported habsolute
    cases hdocument with
    | none => rfl
    | some hdocument =>
      have hdirect := hreported.segments_eq
      rw [acceptsPath, acceptsPath]
      simp only [hdocument.segments_eq, hdirect, habsolute]
      cases hbase with
      | none => rfl
      | some hbase =>
        obtain ⟨hsame, hleft, hright⟩ := hbase
        simp only [segments_fromBase_congr hleft hright hsame.segments_eq hdirect]

/-- Foldings that are longer than what they fold, in the document, in the base directory and in a
path that climbs from there. -/
theorem keep_widens_without_case_longer_foldings :
    let document : Text := "/srv/Straße/ŉew.py".toList
    let base : Text := "/srv/ﬁx".toList
    let reported : Text := "../straße/ŉEW.py".toList
    let otherDocument : Text := "C:\\..\\SRV/STRASSE/ʼnew.PY".toList
    let otherBase : Text := "SRV\\.\\FIX".toList
    let path : Text := "./..\\strasse/ʼNew.py".toList
    let strict : PathFilter := { document := some document, base := some base }
    let loose : PathFilter :=
      { document := some document, mode := .insensitive, base := some base }
    let other : PathFilter :=
      { document := some otherDocument, mode := .insensitive, base := some otherBase }
    AgreeFolded document otherDocument ∧ AgreeFolded base otherBase ∧
      (trim base = base ∧ trim otherBase = otherBase) ∧ AgreeFolded reported path ∧
      isAbsolute reported = isAbsolute path ∧
      other.acceptsPath path = true ∧ strict.acceptsPath reported = false ∧
      ∀ diagnostics, (Output.keep strict diagnostics).2.Sublist
        (Output.keep loose diagnostics).2 := by
  intro document base reported otherDocument otherBase path strict loose other
  have hdocument : AgreeFolded document otherDocument := by decide +kernel
  have hbase : AgreeFolded base otherBase := by decide +kernel
  have hreported : AgreeFolded reported path := by decide +kernel
  have htrim : trim base = base ∧ trim otherBase = otherBase := by decide +kernel
  have habsolute : isAbsolute reported = isAbsolute path := by decide +kernel
  obtain ⟨hwidens, hfolds⟩ := keep_widens_without_case (some document) (some base)
  have hsame := hfolds (some otherDocument) (some otherBase) reported path (.some hdocument)
    (.some ⟨hbase, htrim⟩) hreported habsolute
  exact ⟨hdocument, hbase, htrim, hreported, habsolute,
    hsame.symm.trans (by decide +kernel), by decide +kernel, hwidens⟩

end PathFilter

end DiagnosticMarkers
