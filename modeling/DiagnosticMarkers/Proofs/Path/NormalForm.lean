import DiagnosticMarkers.Proofs.Path.Pieces
import DiagnosticMarkers.Proofs.Path.Route

/-!
# The normal form of paths

The segments of a path are a normal form of it: no empty names, no single dots, and two dots in
front only. Written out again they have the same segments. The segments of a path inside another
depend on the segments of the two alone, so detours on the way make no difference, and neither
does the kind of slash.
-/

namespace DiagnosticMarkers.Path

open Text

/-- Segments none of which is empty, a dot or in two pieces. What climbs stands in front. -/
structure IsNormal (segments : List Text) : Prop where
  proper : ∀ segment ∈ segments,
    segment ≠ [] ∧ segment ≠ current ∧ '/' ∉ segment ∧ '\\' ∉ segment
  climbs_first : ∃ climbs names,
    segments = List.replicate climbs parent ++ names ∧ parent ∉ names

/-- Segments as an absolute path with a slash at the end. -/
def rooted (segments : List Text) : Text :=
  '/' :: joinWith ['/'] segments ++ ['/']

/-- Parts that lead back to where they begin. -/
inductive IsDetour : List Text → Prop
  | empty : IsDetour [[]]
  | current : IsDetour [current]
  | turn {name : Text} (hname : IsName name) : IsDetour [name, parent]

/-- The other path goes the same way: its slashes are of the other kind in some places, or it
makes a detour. -/
inductive GoesLike : Text → Text → Prop
  | slashes {path other : Text}
      (hslashes : substitute '\\' '/' path = substitute '\\' '/' other) : GoesLike path other
  | detour {path other : Text} {front detour back : List Text} (hdetour : IsDetour detour)
      (hpath : parts path = front ++ back) (hother : parts other = front ++ detour ++ back) :
      GoesLike path other

/-! ## Segments and routes -/

theorem segments_eq_iff (mode : CaseMode) (path other : Text) :
    segments mode path = segments mode other ↔
      ((parts path).foldl pushSegment []).map mode.normalize =
        ((parts other).foldl pushSegment []).map mode.normalize := by
  rw [segments, segments, List.map_reverse, List.map_reverse, List.reverse_inj]

/-- Case is left aside at the very end. -/
theorem segments_insensitive (path : Text) :
    segments .insensitive path = (segments .sensitive path).map foldCase := by
  have hsensitive : segments .sensitive path = ((parts path).foldl pushSegment []).reverse :=
    List.map_id' _
  rw [hsensitive]
  rfl

/-- The segments of a path are its steps up and its names. -/
theorem exists_segments_eq (mode : CaseMode) (path : Text) :
    ∃ route : Route, (∀ stack, (parts path).foldl pushSegment stack = route.follow stack) ∧
      segments mode path = List.replicate route.climbs parent ++
        (route.normalize mode).names.reverse := by
  obtain ⟨route, hroute⟩ := exists_route (parts path)
  have hparent : mode.normalize parent = parent := (normalize_eq_parent_iff mode parent).mpr rfl
  refine ⟨route, hroute, ?_⟩
  rw [segments, hroute, Route.follow, climb_nil, List.reverse_append, List.reverse_replicate,
    List.map_append, List.map_replicate, hparent, List.map_reverse]
  rfl

theorem mem_pushSegment {stack : List Text} {part segment : Text}
    (h : segment ∈ pushSegment stack part) : segment ∈ stack ∨ segment = part := by
  rcases part_cases part with hskipped | rfl | hname
  · rw [pushSegment_of_skipped hskipped] at h
    exact .inl h
  · cases stack with
    | nil => exact .inr (List.mem_singleton.mp h)
    | cons top below =>
      by_cases htop : top = parent
      · subst htop
        exact (List.mem_cons.mp h).symm
      · rw [pushSegment_parent_cons htop] at h
        exact .inl (List.mem_cons_of_mem top h)
  · rw [pushSegment_of_isName hname] at h
    exact (List.mem_cons.mp h).symm

/-- Each segment was a part. -/
theorem mem_foldl_pushSegment {parts stack : List Text} {segment : Text}
    (h : segment ∈ parts.foldl pushSegment stack) : segment ∈ stack ∨ segment ∈ parts := by
  induction parts generalizing stack with
  | nil => exact .inl h
  | cons part parts ih =>
    rcases ih h with hpushed | hlater
    · rcases mem_pushSegment hpushed with hstack | rfl
      · exact .inl hstack
      · exact .inr List.mem_cons_self
    · exact .inr (List.mem_cons_of_mem part hlater)

theorem isNormal_segments (mode : CaseMode) (path : Text) : IsNormal (segments mode path) := by
  obtain ⟨route, hroute, hsegments⟩ := exists_segments_eq mode path
  have hparent : parent ∉ (route.normalize mode).names.reverse := fun h =>
    (route.normalize mode).parent_notMem_names (List.mem_reverse.mp h)
  refine ⟨fun segment hsegment => ?_, route.climbs, _, hsegments, hparent⟩
  have hseparators : '/' ∉ segment ∧ '\\' ∉ segment := by
    obtain ⟨given, hgiven, rfl⟩ := List.mem_map.mp hsegment
    have hpart : given ∈ parts path :=
      (mem_foldl_pushSegment (List.mem_reverse.mp hgiven)).resolve_left List.not_mem_nil
    obtain ⟨hslash, hback⟩ := separator_notMem_of_mem_parts hpart
    exact ⟨fun h => hslash ((mode.mem_normalize_iff (by decide) given).mp h),
      fun h => hback ((mode.mem_normalize_iff (by decide) given).mp h)⟩
  rw [hsegments] at hsegment
  rcases List.mem_append.mp hsegment with hclimb | hname
  · rw [List.eq_of_mem_replicate hclimb] at hseparators ⊢
    exact ⟨by decide, by decide, hseparators⟩
  · have hisName := (route.normalize mode).isName segment (List.mem_reverse.mp hname)
    exact ⟨hisName.ne_nil, hisName.ne_current, hseparators⟩

/-! ## Writing segments out -/

theorem foldl_of_isName {names : List Text} (hnames : ∀ name ∈ names, IsName name)
    (stack : List Text) : names.foldl pushSegment stack = names.reverse ++ stack := by
  induction names generalizing stack with
  | nil => rfl
  | cons name names ih =>
    obtain ⟨hname, hrest⟩ := List.forall_mem_cons.mp hnames
    rw [List.foldl_cons, pushSegment_of_isName hname, ih hrest, List.reverse_cons,
      List.append_assoc, List.singleton_append]

theorem IsNormal.foldl_eq {segments : List Text} (h : IsNormal segments) :
    segments.foldl pushSegment [] = segments.reverse := by
  obtain ⟨climbs, names, hsegments, hparent⟩ := h.climbs_first
  have hnames : ∀ name ∈ names, IsName name := fun name hname => by
    have hmem : name ∈ segments := hsegments ▸ List.mem_append_right _ hname
    obtain ⟨hnil, hcurrent, -⟩ := h.proper name hmem
    exact ⟨hnil, hcurrent, fun heq => hparent (heq ▸ hname)⟩
  rw [hsegments, List.foldl_append, foldl_replicate_parent, climb_nil, foldl_of_isName hnames,
    List.reverse_append, List.reverse_replicate]

/-- Written names are taken one after the other, also if there are none. -/
theorem foldl_pieces_of_spells {names : List Text} {text : Text} (h : Spells names text)
    (hnames : ∀ name ∈ names, '/' ∉ name ∧ '\\' ∉ name) (stack : List Text) :
    (pieces text).foldl pushSegment stack = names.foldl pushSegment stack := by
  by_cases hne : names = []
  · subst hne
    cases h
    rfl
  · rw [h.pieces_eq hne hnames]

/-- Segments in normal form have themselves as segments when they are written out. -/
theorem segments_rooted (mode : CaseMode) {given : List Text} (h : IsNormal given) :
    segments mode (rooted given) = given.map mode.normalize := by
  have hslash : IsSeparator '/' := .inl rfl
  have htrim : trim (rooted given) = rooted given := by
    rw [rooted, trim_append_cons hslash.isBlank_eq_false]
    rfl
  have hparts : parts (rooted given) =
      pieces [] ++ (pieces (joinWith ['/'] given) ++ pieces []) := by
    rw [parts_eq_pieces, htrim, ← pieces_append hslash, ← pieces_append hslash]
    rfl
  have hskip : ∀ stack, (pieces []).foldl pushSegment stack = stack := fun _ => rfl
  have hfold : (parts (rooted given)).foldl pushSegment [] = given.reverse := by
    rw [hparts, List.foldl_append, hskip, List.foldl_append, hskip,
      foldl_pieces_of_spells (.joinWith given) fun name hname => (h.proper name hname).2.2,
      h.foldl_eq]
  rw [segments, hfold, List.reverse_reverse]

/-! ## Detours -/

theorem IsDetour.foldl_eq {detour : List Text} (h : IsDetour detour) (stack : List Text) :
    detour.foldl pushSegment stack = stack := by
  cases h with
  | empty => rfl
  | current => rfl
  | turn hname =>
    rw [List.foldl_cons, pushSegment_of_isName hname]
    exact pushSegment_parent_cons hname.ne_parent

theorem GoesLike.segments_eq {path other : Text} (h : GoesLike path other) (mode : CaseMode) :
    segments mode path = segments mode other := by
  cases h with
  | slashes hslashes => rw [segments, segments, parts_of_substitute_eq hslashes]
  | detour hdetour hpath hother =>
    rw [segments, segments, hpath, hother, List.foldl_append, List.foldl_append,
      List.foldl_append, hdetour.foldl_eq]

/-- In either mode the segments of paths are in normal form, and they are found again when they
are written out between slashes. Paths put together at a slash have segments that depend on the
segments of both alone; a detour or another kind of slash changes nothing. Without case, the
segments are those with case, folded. -/
theorem segments_normal_form (mode : CaseMode) :
    (∀ path, IsNormal (segments mode path)) ∧
      (∀ path, segments mode (rooted (segments mode path)) = segments mode path) ∧
      (∀ path path' inner inner' : Text, trim path = path → trim path' = path' →
        trim inner = inner → trim inner' = inner' →
        segments mode path = segments mode path' → segments mode inner = segments mode inner' →
        segments mode (path ++ '/' :: inner) = segments mode (path' ++ '/' :: inner')) ∧
      (∀ path other, GoesLike path other → segments mode path = segments mode other) ∧
      ∀ path, segments .insensitive path = (segments .sensitive path).map foldCase := by
  refine ⟨isNormal_segments mode, fun path => ?_, ?_, fun path other h => h.segments_eq mode,
    segments_insensitive⟩
  · rw [segments_rooted mode (isNormal_segments mode path), segments, List.map_map]
    exact List.map_congr_left fun segment _ => mode.normalize_normalize segment
  · intro path path' inner inner' hpath hpath' hinner hinner' hsame hsame'
    rw [segments_eq_iff] at hsame hsame' ⊢
    rw [parts_append hpath hinner, parts_append hpath' hinner', List.foldl_append,
      List.foldl_append]
    exact foldl_pushSegment_congr mode hsame' hsame

end DiagnosticMarkers.Path
