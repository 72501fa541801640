import DiagnosticMarkers.FileTree
import DiagnosticMarkers.Proofs.Table

/-!
# Changes of a file tree

A file that is put into a tree, or removed from it, changes what is found at its own place only,
as long as no files are lost that lie below it.
-/

namespace DiagnosticMarkers.FileTree

/-- Remove what stands at a place. The root stays, and so does all if there is nothing. -/
def remove : FileTree → Place → FileTree
  | tree, [] => tree
  | .file octets, _ :: _ => .file octets
  | .directory entries, [name] => .directory (entries.filter fun (key, _) => key != name)
  | .directory entries, name :: next :: names =>
    match entries.lookup name with
    | some entry =>
      .directory
        ((name, remove entry (next :: names)) :: entries.filter fun (key, _) => key != name)
    | none => .directory entries

/-- There are no files below the place. -/
def IsLeaf (tree : FileTree) (place : Place) : Prop :=
  ∀ below, below ≠ [] → tree.file? (place ++ below) = none

theorem file?_empty (place : Place) : empty.file? place = none := by
  cases place with
  | nil | cons => rfl

theorem file?_directory_cons (entries : List (Text × FileTree)) (name : Text) (names : Place) :
    (directory entries).file? (name :: names) =
      ((entries.lookup name).getD empty).file? names := by
  rw [file?, at?]
  cases entries.lookup name with
  | none => exact (file?_empty names).symm
  | some entry => rfl

/-- No file lies below what is no directory. -/
theorem isLeaf_of_isDirectoryAt {tree : FileTree} {place : Place}
    (h : tree.isDirectoryAt place = false) : tree.IsLeaf place := by
  intro below hbelow
  induction place generalizing tree with
  | nil =>
    cases tree with
    | file octets =>
      cases below with
      | nil => exact absurd rfl hbelow
      | cons => rfl
    | directory entries => cases h
  | cons name place ih =>
    cases tree with
    | file octets => rfl
    | directory entries =>
      rw [List.cons_append, file?_directory_cons]
      rw [isDirectoryAt, at?] at h
      cases hentry : entries.lookup name with
      | none => exact file?_empty _
      | some entry =>
        rw [hentry] at h
        exact ih h

section

variable {entries : List (Text × FileTree)} {name : Text} {place : Place}

theorem IsLeaf.entry (h : (directory entries).IsLeaf (name :: place)) :
    ((entries.lookup name).getD empty).IsLeaf place := by
  intro below hbelow
  rw [← file?_directory_cons]
  exact h below hbelow

theorem lookup_others_of_ne {other : Text} (h : other ≠ name) :
    (entries.filter fun (key, _) => key != name).lookup other = entries.lookup other :=
  (lookup_filter_key (fun key => key != name) entries other).trans (if_pos (bne_iff_ne.mpr h))

theorem lookup_others_self : (entries.filter fun (key, _) => key != name).lookup name = none :=
  (lookup_filter_key (fun key => key != name) entries name).trans (if_neg (by simp))

end

/-- A file that is put at a place is seen nowhere else. -/
theorem file?_put_of_ne {tree : FileTree} {place other : Place} (hleaf : tree.IsLeaf place)
    (hne : other ≠ place) (octets : List UInt8) :
    (put (.file octets) tree place).file? other = tree.file? other := by
  induction place generalizing tree other with
  | nil =>
    cases other with
    | nil => exact absurd rfl hne
    | cons first rest => exact (hleaf (first :: rest) hne).symm
  | cons name place ih =>
    cases tree with
    | file held => rfl
    | directory entries =>
      cases other with
      | nil => rfl
      | cons first rest =>
        rw [put, file?_directory_cons, file?_directory_cons, List.lookup_cons]
        by_cases hfirst : first = name
        · subst hfirst
          rw [beq_self_eq_true]
          exact ih hleaf.entry fun hrest => hne (hrest ▸ rfl)
        · rw [beq_false_of_ne hfirst, lookup_others_of_ne hfirst]

theorem remove_empty (place : Place) : empty.remove place = empty := by
  cases place with
  | nil => rfl
  | cons name names => cases names <;> rfl

/-- Removing below a directory leaves a directory with the other entries as they were. -/
theorem exists_remove_directory (entries : List (Text × FileTree)) (name : Text) (names : Place) :
    ∃ left, (directory entries).remove (name :: names) = .directory left ∧
      (∀ other, other ≠ name → left.lookup other = entries.lookup other) ∧
      (left.lookup name).getD empty =
        if names = [] then empty else ((entries.lookup name).getD empty).remove names := by
  cases names with
  | nil =>
    refine ⟨_, rfl, fun other hother => lookup_others_of_ne hother, ?_⟩
    rw [lookup_others_self, if_pos rfl, Option.getD_none]
  | cons next names =>
    rw [if_neg (List.cons_ne_nil next names), remove]
    cases hentry : entries.lookup name with
    | none =>
      refine ⟨entries, rfl, fun other _ => rfl, ?_⟩
      rw [hentry, Option.getD_none, remove_empty]
    | some entry =>
      refine ⟨_, rfl, fun other hother => ?_, ?_⟩
      · rw [List.lookup_cons, beq_false_of_ne hother, lookup_others_of_ne hother]
      · rw [List.lookup_cons_self, Option.getD_some, Option.getD_some]

/-- What is removed is gone, and everything else is left. -/
theorem file?_remove {tree : FileTree} {place : Place} (hplace : place ≠ [])
    (hleaf : tree.IsLeaf place) (other : Place) :
    (tree.remove place).file? other = if other = place then none else tree.file? other := by
  induction place generalizing tree other with
  | nil => exact absurd rfl hplace
  | cons name place ih =>
    cases tree with
    | file octets =>
      split
      · next hother =>
        subst hother
        rfl
      · rfl
    | directory entries =>
      obtain ⟨left, hleft, hothers, hentry⟩ := exists_remove_directory entries name place
      rw [hleft]
      cases other with
      | nil => rw [if_neg (List.cons_ne_nil _ _).symm]; rfl
      | cons first rest =>
        rw [file?_directory_cons, file?_directory_cons]
        by_cases hfirst : first = name
        · subst hfirst
          rw [hentry]
          by_cases hnames : place = []
          · subst hnames
            rw [if_pos rfl, file?_empty]
            split
            · rfl
            · next hne => exact (hleaf.entry rest fun hrest => hne (hrest ▸ rfl)).symm
          · rw [if_neg hnames, ih hnames hleaf.entry]
            simp only [List.cons.injEq, true_and]
        · rw [hothers first hfirst, if_neg fun hsame => hfirst (List.cons.inj hsame).1]

end DiagnosticMarkers.FileTree
