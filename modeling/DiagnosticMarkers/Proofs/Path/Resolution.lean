import DiagnosticMarkers.Proofs.Path.Recognition

/-!
# What accepted paths stand for

An absolute path stands for itself, and any other can be read from the base directory. A path that
was not recognised as it was reported is accepted if what it stands for ends the path of the
document. That may be less than the whole path, so a file nearer to the root is taken for the
document if its path ends the document's path. It is the document if both begin in the same
directory of the root, unless that name comes again on the way down.

A path that does not climb leaves the segments of the base directory as they are and adds its own
behind them. So the base directory makes a difference only for a path that climbs, or that names
nothing. There it can lead to a document, and it never leads away from one.
-/

namespace DiagnosticMarkers.PathFilter

open DiagnosticMarkers.Path Text

/-- The path that a reported one stands for. -/
def resolve (base reported : Text) : Text :=
  if isAbsolute reported then reported else fromBase base reported

/-- The path begins with a slash, and nothing in it climbs. -/
structure IsPlainAbsolute (path : Text) : Prop where
  head_eq : path.head? = some '/'
  parent_notMem : parent ∉ parts path

/-- The path stands for something: it is absolute, or it does not end the document's path as it
was reported. -/
def IsResolvable (mode : CaseMode) (document reported : Text) : Prop :=
  isAbsolute reported = true ∨
    endsDocument (segments mode reported) (segments mode document) = false

variable {mode : CaseMode} {document base reported : Text}

theorem acceptsPath_iff_resolve (base : Text) (h : IsResolvable mode document reported) :
    PathFilter.acceptsPath { document := some document, mode, base := some base } reported = true ↔
      endsDocument (segments mode (resolve base reported)) (segments mode document) = true := by
  rw [acceptsPath_iff, resolve]
  cases habsolute : isAbsolute reported with
  | true => simp
  | false =>
    have hends : endsDocument (segments mode reported) (segments mode document) = false :=
      h.resolve_left (by simp [habsolute])
    simp [hends]

theorem parent_notMem_segments {path : Text} (h : parent ∉ parts path) (mode : CaseMode) :
    parent ∉ segments mode path := by
  intro hmem
  obtain ⟨segment, hsegment, hparent⟩ := List.mem_map.mp hmem
  obtain rfl := (normalize_eq_parent_iff mode segment).mp hparent
  exact h ((mem_foldl_pushSegment (List.mem_reverse.mp hsegment)).resolve_left List.not_mem_nil)

theorem segments_fromBase_nil (mode : CaseMode) (base : Text) :
    segments mode (fromBase base []) = (baseStack base).reverse.map mode.normalize := by
  rw [segments, foldl_fromBase]
  rfl

/-- If nothing climbs in the end, a path read from the base directory takes back segments of the
directory, as many as it climbs, and goes on with its names. -/
theorem exists_climbs_of_fromBase (h : parent ∉ segments mode (fromBase base reported)) :
    ∃ climbs names, segments mode reported = List.replicate climbs parent ++ names ∧
      climbs ≤ (segments mode (fromBase base [])).length ∧
      segments mode (fromBase base reported) =
        (segments mode (fromBase base [])).take
          ((segments mode (fromBase base [])).length - climbs) ++ names := by
  obtain ⟨route, hroute, hreported⟩ := exists_segments_eq mode reported
  have hjoined : segments mode (fromBase base reported) =
      (climb route.climbs (baseStack base)).reverse.map mode.normalize ++
        (route.normalize mode).names.reverse := by
    rw [segments, foldl_fromBase, hroute, Route.follow, List.reverse_append, List.map_append,
      List.map_reverse (l := route.names)]
    rfl
  have hclimbed : parent ∉ climb route.climbs (baseStack base) := fun hmem => by
    refine h (hjoined ▸ List.mem_append_left _ (List.mem_map.mpr ⟨parent, ?_, ?_⟩))
    · exact List.mem_reverse.mpr hmem
    · exact (normalize_eq_parent_iff mode parent).mpr rfl
  obtain ⟨hdepth, hdrop⟩ := climb_eq_drop_of_notMem hclimbed
  have hlength : (segments mode (fromBase base [])).length = (baseStack base).length := by
    rw [segments_fromBase_nil, List.length_map, List.length_reverse]
  refine ⟨route.climbs, (route.normalize mode).names.reverse, hreported, hlength ▸ hdepth, ?_⟩
  rw [hjoined, hdrop, hlength, segments_fromBase_nil, List.reverse_drop, List.map_take]

/-- An end of a list is the whole list if it begins like the list and that beginning does not come
again. -/
theorem eq_of_suffix_of_head?_eq {ending whole : List Text} (h : ending <:+ whole)
    (hhead : ending.head? = whole.head?) (honce : ∀ first ∈ whole.head?, whole.count first = 1) :
    ending = whole := by
  obtain ⟨above, rfl⟩ := h
  cases above with
  | nil => rfl
  | cons first above =>
    have hcount := honce first rfl
    have hagain : first ∈ ending := List.mem_of_head? hhead
    rw [List.cons_append, List.count_cons_self, List.count_append] at hcount
    have := List.count_pos_iff.mpr hagain
    omega

/-- For a document whose path never climbs, a path that stands for something is accepted exactly if
the segments of what it stands for end those of the document. Then nothing in them climbs, and
they are the document's own segments if they are as many, or if they begin with the document's
first one and that one does not come again. A path that is not absolute climbs no further than the
base directory is deep. -/
theorem acceptsPath_iff_resolve_ends (base : Text) (hdocument : parent ∉ parts document)
    (hresolvable : IsResolvable mode document reported) :
    (PathFilter.acceptsPath { document := some document, mode, base := some base } reported = true ↔
      segments mode (resolve base reported) ≠ [] ∧
        segments mode (resolve base reported) <:+ segments mode document) ∧
    (PathFilter.acceptsPath { document := some document, mode, base := some base } reported = true →
      parent ∉ segments mode (resolve base reported) ∧
      ((segments mode (resolve base reported)).length = (segments mode document).length →
        segments mode (resolve base reported) = segments mode document) ∧
      ((segments mode (resolve base reported)).head? = (segments mode document).head? →
        (∀ first ∈ (segments mode document).head?, (segments mode document).count first = 1) →
        segments mode (resolve base reported) = segments mode document) ∧
      (isAbsolute reported = false →
        ∃ climbs names, segments mode reported = List.replicate climbs parent ++ names ∧
          climbs ≤ (segments mode (fromBase base [])).length ∧
          segments mode (resolve base reported) =
            (segments mode (fromBase base [])).take
              ((segments mode (fromBase base [])).length - climbs) ++ names)) := by
  have haccepts := (acceptsPath_iff_resolve base hresolvable).trans (endsDocument_iff _ _)
  refine ⟨haccepts, fun h => ?_⟩
  obtain ⟨-, hends⟩ := haccepts.mp h
  have hparent : parent ∉ segments mode (resolve base reported) := fun hmem =>
    parent_notMem_segments hdocument mode (hends.subset hmem)
  refine ⟨hparent, hends.eq_of_length, eq_of_suffix_of_head?_eq hends, fun hrelative => ?_⟩
  have hresolve : resolve base reported = fromBase base reported := by
    rw [resolve, hrelative]
    rfl
  rw [hresolve] at hparent ⊢
  exact exists_climbs_of_fromBase hparent

/-- The checker ran in a directory beside that of the document. Another file of the root is
accepted for the document, whether its path is absolute or climbs from there. -/
theorem acceptsPath_of_file_nearer_root :
    let document : Text := "/pkg/mod.py".toList
    let base : Text := "/tmp".toList
    let filter : PathFilter := { document := some document, base := some base }
    IsPlainAbsolute document ∧ IsPlainAbsolute base ∧
      (isAbsolute "/mod.py".toList = true ∧ filter.acceptsPath "/mod.py".toList = true ∧
        segments .sensitive (resolve base "/mod.py".toList) ≠ segments .sensitive document) ∧
      (isAbsolute "../mod.py".toList = false ∧
        endsDocument (segments .sensitive "../mod.py".toList) (segments .sensitive document) =
          false ∧
        filter.acceptsPath "../mod.py".toList = true ∧
        segments .sensitive (resolve base "../mod.py".toList) ≠
          segments .sensitive document) := by
  intro document base filter
  exact ⟨⟨by decide +kernel, by decide +kernel⟩, ⟨by decide +kernel, by decide +kernel⟩,
    by decide +kernel, by decide +kernel⟩

/-- From two directories further down, without case. The first directory of the document does not
come again. -/
theorem acceptsPath_iff_resolve_ends_of_climbing :
    let document : Text := "/srv/Pkg/mod.py".toList
    let base : Text := "/srv/pkg/sub".toList
    let reported : Text := "../MOD.py".toList
    parent ∉ parts document ∧ IsResolvable .insensitive document reported ∧
      (PathFilter.acceptsPath { document := some document, mode := .insensitive, base := some base }
        reported = true) ∧
      segments .insensitive (resolve base reported) = segments .insensitive document := by
  intro document base reported
  have hdocument : parent ∉ parts document := by decide +kernel
  have hresolvable : IsResolvable .insensitive document reported := .inr (by decide +kernel)
  obtain ⟨hiff, himplies⟩ := acceptsPath_iff_resolve_ends base hdocument hresolvable
  have haccepts := hiff.mpr ⟨by decide +kernel, by decide +kernel⟩
  obtain ⟨-, -, hsame, -⟩ := himplies haccepts
  exact ⟨hdocument, hresolvable, haccepts, hsame (by decide +kernel) (by decide +kernel)⟩

/-! ## What the base directory is good for -/

/-- From the base directory, a path that does not climb leads to its own segments below those of
the directory. -/
theorem segments_fromBase_of_not_climbing
    (hclimbs : (segments mode reported).head? ≠ some parent) (base : Text) :
    segments mode (fromBase base reported) =
      segments mode (fromBase base []) ++ segments mode reported := by
  obtain ⟨route, hroute, hsegments⟩ := exists_segments_eq mode reported
  -- The segments of a path begin with its climbs, so there are none.
  have hnone : route.climbs = 0 := by
    cases h : route.climbs with
    | zero => rfl
    | succ climbs =>
      rw [hsegments, h, List.replicate_succ] at hclimbs
      exact absurd rfl hclimbs
  rw [hnone, List.replicate_zero, List.nil_append] at hsegments
  rw [segments_fromBase_nil, hsegments, segments, foldl_fromBase, hroute, Route.follow, hnone,
    climb, List.reverse_append, List.map_append, List.map_reverse (l := route.names)]
  rfl

/-- What ends the document's path from the base directory ends it by itself, if it does not climb
and names something. -/
theorem endsDocument_of_fromBase (hne : segments mode reported ≠ [])
    (hclimbs : (segments mode reported).head? ≠ some parent) {base : Text}
    {document : List Text}
    (h : endsDocument (segments mode (fromBase base reported)) document = true) :
    endsDocument (segments mode reported) document = true := by
  rw [endsDocument_iff, segments_fromBase_of_not_climbing hclimbs] at h
  exact (endsDocument_iff _ _).mpr ⟨hne, (List.suffix_append _ _).trans h.2⟩

/-- With a base directory or without one, a path that names something and does not climb is
answered alike. Any path that is accepted without a base directory is accepted with each. -/
theorem acceptsPath_base_only_for_climbing (document : Option Text) (mode : CaseMode)
    (base reported : Text) :
    (segments mode reported ≠ [] → (segments mode reported).head? ≠ some parent →
      PathFilter.acceptsPath { document, mode, base := some base } reported =
        PathFilter.acceptsPath { document, mode, base := none } reported) ∧
      (PathFilter.acceptsPath { document, mode, base := none } reported = true →
        PathFilter.acceptsPath { document, mode, base := some base } reported = true) := by
  cases document with
  | none => exact ⟨fun _ _ => rfl, id⟩
  | some path =>
    have hwithout := acceptsPath_iff_exists mode path none reported
    have hwith := acceptsPath_iff_exists mode path (some base) reported
    simp only [Option.not_mem_none, false_and, exists_false, or_false] at hwithout
    simp only [Option.mem_some_iff, exists_eq_left'] at hwith
    constructor
    · intro hne hclimbs
      rw [Bool.eq_iff_iff, hwith, hwithout]
      exact or_iff_left_of_imp fun h => endsDocument_of_fromBase hne hclimbs h.2
    · rw [hwith, hwithout]
      exact .inl

/-- The base directory is written with both slashes, a blank and a detour. A path that does not
climb is answered without regard to it, whether it is accepted or not; a path that climbs needs
it. -/
theorem acceptsPath_base_only_for_climbing_odd_base :
    let document : Option Text := some "/srv/Pkg/mod.py".toList
    let base : Text := "\t/srv\\Pkg/sub/..\\lib".toList
    let without : PathFilter := { document, mode := .insensitive, base := none }
    let within : PathFilter := { document, mode := .insensitive, base := some base }
    let named : Text := "sub/..\\pkg/MOD.py".toList
    let other : Text := "lib/mod.py".toList
    (segments .insensitive named ≠ [] ∧ (segments .insensitive named).head? ≠ some parent ∧
        without.acceptsPath named = true ∧ within.acceptsPath named = true) ∧
      (segments .insensitive other ≠ [] ∧ (segments .insensitive other).head? ≠ some parent ∧
        within.acceptsPath other = false) ∧
      without.acceptsPath "../mod.py".toList = false ∧
      within.acceptsPath "../mod.py".toList = true := by
  intro document base without within named other
  obtain ⟨-, hgains⟩ := acceptsPath_base_only_for_climbing document .insensitive base named
  obtain ⟨hsame, -⟩ := acceptsPath_base_only_for_climbing document .insensitive base other
  have hnamed : without.acceptsPath named = true := by decide +kernel
  have hne : segments .insensitive other ≠ [] := by decide +kernel
  have hclimbs : (segments .insensitive other).head? ≠ some parent := by decide +kernel
  have hother : without.acceptsPath other = false := by decide +kernel
  exact ⟨⟨by decide +kernel, by decide +kernel, hnamed, hgains hnamed⟩,
    ⟨hne, hclimbs, (hsame hne hclimbs).trans hother⟩, by decide +kernel, by decide +kernel⟩

end DiagnosticMarkers.PathFilter
