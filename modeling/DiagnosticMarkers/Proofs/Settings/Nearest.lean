import DiagnosticMarkers.Proofs.FileTree
import DiagnosticMarkers.Settings.Load

/-!
# The nearest project file

The search for the project file goes from a directory to the root and ends at the first file of
the name. It is the deepest one on the way. No other project file has a part in what is loaded:
such files may come, change and go, whatever the nearest one holds.
-/

namespace DiagnosticMarkers.Settings

variable {tree other : FileTree} {start dir : Place} {stack : Toml.Stack}

/-! ## The search -/

/-- A file with the name of the project file stands in the directory. -/
def HasProjectFile (tree : FileTree) (dir : Place) : Prop :=
  ∃ octets, tree.at? (dir ++ [projectFile]) = some (.file octets)

/-- Of the directories from the root to the start, this is the deepest with a project file. -/
structure IsNearest (tree : FileTree) (start dir : Place) : Prop where
  above : dir <+: start
  holds : HasProjectFile tree dir
  deepest : ∀ other, other <+: start → HasProjectFile tree other → other.length ≤ dir.length

theorem IsNearest.unique {first second : Place} (h : IsNearest tree start first)
    (hsecond : IsNearest tree start second) : first = second := by
  have hlength : first.length = second.length :=
    Nat.le_antisymm (hsecond.deepest first h.above h.holds)
      (h.deepest second hsecond.above hsecond.holds)
  exact (List.prefix_of_prefix_length_le h.above hsecond.above
    (Nat.le_of_eq hlength)).eq_of_length hlength

theorem hasProjectFile_iff (tree : FileTree) (dir : Place) :
    HasProjectFile tree dir ↔ (tree.file? (dir ++ [projectFile])).isSome := by
  rw [HasProjectFile, FileTree.file?]
  cases tree.at? (dir ++ [projectFile]) with
  | none => simp
  | some found => cases found <;> simp

theorem not_hasProjectFile_of_isDirectoryAt
    (h : tree.isDirectoryAt (dir ++ [projectFile]) = true) : ¬ HasProjectFile tree dir := by
  rintro ⟨octets, hfile⟩
  rw [FileTree.isDirectoryAt, hfile] at h
  cases h

theorem find?_nil_of_not_hasProjectFile (h : ¬ HasProjectFile tree []) : find? tree [] = none :=
  if_neg fun hfile => h ((hasProjectFile_iff tree []).mpr hfile)

/-- The search ends where there is a project file. -/
theorem find?_of_hasProjectFile (h : HasProjectFile tree start) :
    find? tree start = some (start ++ [projectFile]) := by
  have hfile := (hasProjectFile_iff tree start).mp h
  rw [find?]
  cases hreverse : start.reverse with
  | nil =>
    obtain rfl := List.reverse_eq_nil_iff.mp hreverse
    exact if_pos hfile
  | cons name above =>
    have hstart : (name :: above).reverse = start := by rw [← hreverse, List.reverse_reverse]
    rw [nearestFrom, hstart]
    exact if_pos hfile

/-- Where there is none, it goes on in the directory above. -/
theorem find?_of_not_hasProjectFile {above : Place} {name : Text}
    (h : ¬ HasProjectFile tree (above ++ [name])) :
    find? tree (above ++ [name]) = find? tree above := by
  rw [hasProjectFile_iff] at h
  rw [find?, List.reverse_append, List.reverse_singleton, List.singleton_append, nearestFrom,
    List.reverse_cons, List.reverse_reverse, find?]
  exact if_neg h

theorem IsNearest.concat {above : Place} {name : Text} (h : IsNearest tree above dir)
    (hnone : ¬ HasProjectFile tree (above ++ [name])) : IsNearest tree (above ++ [name]) dir where
  above := h.above.trans (List.prefix_append above [name])
  holds := h.holds
  deepest := by
    intro other hother hfile
    rcases List.prefix_concat_iff.mp hother with rfl | hother
    · exact absurd hfile hnone
    · exact h.deepest other hother hfile

/-- The search finds the nearest project file, or there is none on the way. -/
theorem find?_cases (tree : FileTree) (start : Place) :
    (∃ dir, IsNearest tree start dir ∧ find? tree start = some (dir ++ [projectFile])) ∨
      (∀ dir, dir <+: start → ¬ HasProjectFile tree dir) ∧ find? tree start = none := by
  induction start using List.reverseRecOn with
  | nil =>
    by_cases hroot : HasProjectFile tree []
    · refine .inl ⟨[], ⟨List.nil_prefix, hroot, ?_⟩, find?_of_hasProjectFile hroot⟩
      exact fun other hother _ => hother.length_le
    · refine .inr ⟨fun dir hdir => ?_, find?_nil_of_not_hasProjectFile hroot⟩
      obtain rfl := List.prefix_nil.mp hdir
      exact hroot
  | append_singleton above name ih =>
    by_cases hstart : HasProjectFile tree (above ++ [name])
    · refine .inl ⟨above ++ [name], ⟨List.prefix_rfl, hstart, ?_⟩, find?_of_hasProjectFile hstart⟩
      exact fun other hother _ => hother.length_le
    · rw [find?_of_not_hasProjectFile hstart]
      rcases ih with ⟨dir, hnearest, hfind⟩ | ⟨hnone, hfind⟩
      · exact .inl ⟨dir, hnearest.concat hstart, hfind⟩
      · refine .inr ⟨fun dir hdir => ?_, hfind⟩
        rcases List.prefix_concat_iff.mp hdir with rfl | hdir
        · exact hstart
        · exact hnone dir hdir

theorem find?_eq_some_iff (tree : FileTree) (start place : Place) :
    find? tree start = some place ↔
      ∃ dir, IsNearest tree start dir ∧ place = dir ++ [projectFile] := by
  rcases find?_cases tree start with ⟨nearest, hnearest, hfind⟩ | ⟨hnone, hfind⟩
  · rw [hfind, Option.some.injEq]
    constructor
    · rintro rfl
      exact ⟨nearest, hnearest, rfl⟩
    · rintro ⟨dir, hdir, rfl⟩
      rw [hnearest.unique hdir]
  · rw [hfind]
    exact iff_of_false nofun fun ⟨dir, hdir, _⟩ => hnone dir hdir.above hdir.holds

theorem find?_eq_none_iff (tree : FileTree) (start : Place) :
    find? tree start = none ↔ ∀ dir, dir <+: start → ¬ HasProjectFile tree dir := by
  rcases find?_cases tree start with ⟨nearest, hnearest, hfind⟩ | ⟨hnone, hfind⟩
  · rw [hfind]
    exact iff_of_false nofun fun hnone => hnone nearest hnearest.above hnearest.holds
  · exact iff_of_true hfind hnone

/-- What the nearest project file holds is loaded, or what is wrong with it is told. -/
theorem load_of_isNearest {octets : List UInt8} (h : IsNearest tree start dir)
    (hfile : tree.file? (dir ++ [projectFile]) = some octets) :
    load stack tree start none =
      ofOctets stack (Place.toPath (dir ++ [projectFile])).display octets := by
  have hfind := (find?_eq_some_iff tree start _).mpr ⟨dir, h, rfl⟩
  have hsource : source? tree start none =
      some ((Place.toPath (dir ++ [projectFile])).display, octets) := by
    rw [source?, hfind, Option.bind_eq_bind, Option.bind_some, hfile]
    rfl
  rw [load, hsource]

theorem load_of_find?_eq_none (h : find? tree start = none) :
    load stack tree start none = .ok {} := by
  have hsource : source? tree start none = none := by
    rw [source?, h]
    rfl
  rw [load, hsource]

/-! ## Project files that do not count -/

/-- The directory is not on the way from the root to the start, or it lies above the nearest one
with a project file. -/
def IsOutOfReach (tree : FileTree) (start dir : Place) : Prop :=
  ¬ dir <+: start ∨ ∃ nearest, IsNearest tree start nearest ∧ dir <+: nearest ∧ dir ≠ nearest

/-- The other tree has the same project files in the directories that count. -/
def AgreesInReach (tree other : FileTree) (start : Place) : Prop :=
  ∀ dir, ¬ IsOutOfReach tree start dir →
    other.file? (dir ++ [projectFile]) = tree.file? (dir ++ [projectFile])

/-- From the nearest one down to the start, directories count. -/
theorem IsNearest.not_isOutOfReach {nearest : Place} (h : IsNearest tree start nearest)
    (hdir : dir <+: start) (hlength : nearest.length ≤ dir.length) :
    ¬ IsOutOfReach tree start dir := by
  rintro (haside | ⟨other, hother, habove, hne⟩)
  · exact haside hdir
  · obtain rfl := hother.unique h
    exact hne (habove.eq_of_length_le hlength)

/-- Where there is no project file at all, every directory on the way counts. -/
theorem not_isOutOfReach_of_forall (hnone : ∀ dir, dir <+: start → ¬ HasProjectFile tree dir)
    (hdir : dir <+: start) : ¬ IsOutOfReach tree start dir := by
  rintro (haside | ⟨nearest, hnearest, -, -⟩)
  · exact haside hdir
  · exact hnone nearest hnearest.above hnearest.holds

namespace AgreesInReach

theorem hasProjectFile_iff (h : AgreesInReach tree other start)
    (hdir : ¬ IsOutOfReach tree start dir) :
    HasProjectFile other dir ↔ HasProjectFile tree dir := by
  rw [Settings.hasProjectFile_iff, h dir hdir, ← Settings.hasProjectFile_iff]

theorem isNearest (h : AgreesInReach tree other start) (hdir : IsNearest tree start dir) :
    IsNearest other start dir where
  above := hdir.above
  holds :=
    (h.hasProjectFile_iff (hdir.not_isOutOfReach hdir.above (Nat.le_refl _))).mpr hdir.holds
  deepest := by
    intro deeper hdeeper hfile
    by_contra hlength
    have hreach := hdir.not_isOutOfReach hdeeper (Nat.le_of_not_le hlength)
    exact hlength (hdir.deepest deeper hdeeper ((h.hasProjectFile_iff hreach).mp hfile))

theorem find?_eq (h : AgreesInReach tree other start) : find? other start = find? tree start := by
  rcases find?_cases tree start with ⟨nearest, hnearest, hfind⟩ | ⟨hnone, hfind⟩
  · rw [hfind, find?_eq_some_iff]
    exact ⟨nearest, h.isNearest hnearest, rfl⟩
  · rw [hfind, find?_eq_none_iff]
    intro dir hdir hfile
    have hreach := not_isOutOfReach_of_forall hnone hdir
    exact hnone dir hdir ((h.hasProjectFile_iff hreach).mp hfile)

theorem load_eq (h : AgreesInReach tree other start) :
    load stack other start none = load stack tree start none := by
  rcases find?_cases tree start with ⟨nearest, hnearest, -⟩ | ⟨-, hfind⟩
  · have hreach := hnearest.not_isOutOfReach hnearest.above (Nat.le_refl _)
    obtain ⟨octets, hfile⟩ :=
      Option.isSome_iff_exists.mp ((Settings.hasProjectFile_iff _ _).mp hnearest.holds)
    rw [load_of_isNearest hnearest hfile,
      load_of_isNearest (h.isNearest hnearest) ((h nearest hreach).trans hfile)]
  · rw [load_of_find?_eq_none hfind, load_of_find?_eq_none (h.find?_eq.trans hfind)]

end AgreesInReach

theorem agreesInReach_put (hdir : IsOutOfReach tree start dir)
    (h : tree.isDirectoryAt (dir ++ [projectFile]) = false) (octets : List UInt8) :
    AgreesInReach tree (.put (.file octets) tree (dir ++ [projectFile])) start := by
  intro seen hseen
  refine FileTree.file?_put_of_ne (FileTree.isLeaf_of_isDirectoryAt h) (fun hsame => ?_) octets
  exact hseen (List.append_cancel_right hsame ▸ hdir)

theorem agreesInReach_remove (hdir : IsOutOfReach tree start dir)
    (h : tree.isDirectoryAt (dir ++ [projectFile]) = false) :
    AgreesInReach tree (tree.remove (dir ++ [projectFile])) start := by
  have hne : dir ++ [projectFile] ≠ [] :=
    List.append_ne_nil_of_right_ne_nil dir (List.cons_ne_nil _ _)
  intro seen hseen
  rw [FileTree.file?_remove hne (FileTree.isLeaf_of_isDirectoryAt h), if_neg fun hsame => ?_]
  exact hseen (List.append_cancel_right hsame ▸ hdir)

/-- The search finds the project file in the deepest directory that has one, from the start up to
the root, and passes over directories of that name. What it holds is what loading without a named
file reads. This stays the same, errors included, as long as the project files stay the same from
the nearest one down to the start. So files of the name may be put into other directories, rewritten
there or removed. -/
theorem load_depends_on_nearest (stack : Toml.Stack) (tree : FileTree) (start : Place) :
    (∀ place, find? tree start = some place ↔
      ∃ dir, IsNearest tree start dir ∧ place = dir ++ [projectFile]) ∧
    (find? tree start = none ↔ ∀ dir, dir <+: start → ¬ HasProjectFile tree dir) ∧
    (∀ above name, start = above ++ [name] →
      tree.isDirectoryAt (start ++ [projectFile]) = true → find? tree start = find? tree above) ∧
    (∀ dir octets, IsNearest tree start dir →
      tree.file? (dir ++ [projectFile]) = some octets →
        load stack tree start none =
          ofOctets stack (Place.toPath (dir ++ [projectFile])).display octets) ∧
    (∀ other, AgreesInReach tree other start →
      find? other start = find? tree start ∧
        load stack other start none = load stack tree start none) ∧
    ∀ dir, IsOutOfReach tree start dir → tree.isDirectoryAt (dir ++ [projectFile]) = false →
      (∀ octets, load stack (.put (.file octets) tree (dir ++ [projectFile])) start none =
        load stack tree start none) ∧
      load stack (tree.remove (dir ++ [projectFile])) start none = load stack tree start none := by
  refine ⟨find?_eq_some_iff tree start, find?_eq_none_iff tree start, ?_,
    fun dir octets h => load_of_isNearest h, fun other h => ⟨h.find?_eq, h.load_eq⟩,
    fun dir hdir hdirectory => ⟨fun octets => ?_, ?_⟩⟩
  · rintro above name rfl hdirectory
    exact find?_of_not_hasProjectFile (not_hasProjectFile_of_isDirectoryAt hdirectory)
  · exact (agreesInReach_put hdir hdirectory octets).load_eq
  · exact (agreesInReach_remove hdir hdirectory).load_eq

/-- The nearest file is no document, and a directory of the name lies below it. The file in the root
is taken away, and nothing is told but what was told before. -/
theorem load_depends_on_nearest_of_malformed_file :
    let work := "work".toList
    let start : Place := [work, "src".toList]
    let tree := FileTree.ofPlaces
      [(start ++ [projectFile], .empty), ([work, projectFile], .file "=".toUTF8.toList),
        ([projectFile], .file [])]
    let message := "cannot read /work/pyproject.toml".toList
    IsNearest tree start [work] ∧ IsOutOfReach tree start [] ∧
      (load .usual tree start none).mapError LoadError.message = .error message ∧
      (load .usual (tree.remove [projectFile]) start none).mapError LoadError.message =
        .error message := by
  intro work start tree message
  obtain ⟨hfound, -, -, -, -, hedited⟩ := load_depends_on_nearest .usual tree start
  have hnearest : IsNearest tree start [work] := by
    obtain ⟨dir, hdir, hplace⟩ := (hfound [work, projectFile]).mp (by rfl)
    obtain rfl : [work] = dir := List.append_cancel_right hplace
    exact hdir
  have hreach : IsOutOfReach tree start [] :=
    .inr ⟨[work], hnearest, List.nil_prefix, (List.cons_ne_nil _ _).symm⟩
  have hload : (load .usual tree start none).mapError LoadError.message = .error message := by
    decide +kernel
  have hremoved :
      load .usual (tree.remove [projectFile]) start none = load .usual tree start none :=
    (hedited [] hreach (by rfl)).2
  exact ⟨hnearest, hreach, hload, hremoved ▸ hload⟩

end DiagnosticMarkers.Settings
