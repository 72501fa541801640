import DiagnosticMarkers.Proofs.Group.Invariant

/-!
# What grouping depends on

Grouping asks whether a diagnostic is a primary, and whether two diagnostics are at one place. A
change of the diagnostics that leaves both answers as they are changes the diagnostics inside the
groups and nothing else. The two groupers go in step: what is open in one of them, changed, is open
in the other.
-/

namespace DiagnosticMarkers

variable {change : Diagnostic → Diagnostic}

def MergedGroup.map (change : Diagnostic → Diagnostic) (group : MergedGroup) : MergedGroup where
  primary := change group.primary
  attachments := group.attachments.map change

def NoteRun.map (change : Diagnostic → Diagnostic) (run : NoteRun) : NoteRun where
  first := change run.first
  more := run.more.map change

/-- Change all diagnostics of a group, which stays of its kind. -/
def Group.map (change : Diagnostic → Diagnostic) : Group → Group
  | merged group => merged (group.map change)
  | notes run => notes (run.map change)

def Grouper.map (change : Diagnostic → Diagnostic) (grouper : Grouper) : Grouper where
  pending := grouper.pending.map (MergedGroup.map change)
  noteRun := grouper.noteRun.map (NoteRun.map change)

/-- The change leaves what grouping asks about some diagnostics as it is: which are primaries, and
which are at one place. -/
structure KeepsPattern (change : Diagnostic → Diagnostic) (diagnostics : List Diagnostic) :
    Prop where
  isPrimary : ∀ diagnostic ∈ diagnostics,
    (change diagnostic).severity.isPrimary = diagnostic.severity.isPrimary
  together : ∀ first ∈ diagnostics, ∀ second ∈ diagnostics,
    (change first).location = (change second).location ↔ first.location = second.location

theorem KeepsPattern.of_subset {diagnostics fewer : List Diagnostic}
    (h : KeepsPattern change diagnostics) (hfewer : fewer ⊆ diagnostics) :
    KeepsPattern change fewer where
  isPrimary diagnostic hmem := h.isPrimary diagnostic (hfewer hmem)
  together first hfirst second hsecond :=
    h.together first (hfewer hfirst) second (hfewer hsecond)

namespace Grouper

theorem openGroups_map (grouper : Grouper) :
    (grouper.map change).openGroups = grouper.openGroups.map (Group.map change) := by
  rcases grouper with ⟨_ | group, _ | run⟩ <;> rfl

theorem primary_mem_held {grouper : Grouper} {group : MergedGroup}
    (hpending : grouper.pending = some group) : group.primary ∈ grouper.held := by
  simp [held_eq, hpending]

theorem first_mem_held {grouper : Grouper} {run : NoteRun} (hrun : grouper.noteRun = some run) :
    run.first ∈ grouper.held := by
  simp [held_eq, hrun, NoteRun.notes]

/-- A changed diagnostic is taken in the same way. -/
theorem Takes.map {grouper : Grouper} {diagnostic : Diagnostic}
    {result : List Group × Grouper} (htakes : grouper.Takes diagnostic result)
    (hkeeps : KeepsPattern change (diagnostic :: grouper.held)) :
    (grouper.map change).Takes (change diagnostic)
      (result.1.map (Group.map change), result.2.map change) := by
  have hprimary := hkeeps.isPrimary diagnostic List.mem_cons_self
  have hnote (h : diagnostic.severity = .note) : (change diagnostic).severity = .note := by
    rwa [← Severity.isPrimary_eq_false_iff, hprimary, Severity.isPrimary_eq_false_iff]
  have hplaces {first : Diagnostic} (hheld : first ∈ grouper.held) :
      (change first).location = (change diagnostic).location ↔
        first.location = diagnostic.location :=
    hkeeps.together first (List.mem_cons_of_mem _ hheld) diagnostic List.mem_cons_self
  rcases grouper with ⟨pending, noteRun⟩
  cases htakes with
  | primary h =>
    rw [← openGroups_map]
    exact .primary (hprimary.trans h)
  | @attach group h hrun hpending hplace =>
    obtain rfl : noteRun = none := hrun
    obtain rfl : pending = some group := hpending
    have hsame := (hplaces (primary_mem_held rfl)).mpr hplace
    have htakes := @Takes.attach (Grouper.map change ⟨some group, none⟩) _ (group.map change)
      (hnote h) rfl rfl hsame
    simpa [Grouper.map, MergedGroup.map] using htakes
  | opens h hrun hplace =>
    obtain rfl : noteRun = none := hrun
    refine .opens (hnote h) rfl fun group hgroup => ?_
    obtain ⟨given, hgiven, rfl⟩ := Option.map_eq_some_iff.mp hgroup
    exact mt (hplaces (primary_mem_held hgiven)).mp (hplace given hgiven)
  | @extend run h hrun hplace =>
    obtain rfl : noteRun = some run := hrun
    have hsame := (hplaces (first_mem_held rfl)).mpr hplace
    have htakes := @Takes.extend (Grouper.map change ⟨pending, some run⟩) _ (run.map change)
      (hnote h) rfl hsame
    simpa [Grouper.map, NoteRun.map] using htakes
  | @switch run h hrun hplace =>
    obtain rfl : noteRun = some run := hrun
    exact .switch (hnote h) rfl (mt (hplaces (first_mem_held rfl)).mp hplace)

/-- A step of both groupers: they close the same groups and have the same ones open. -/
theorem feed_map {grouper : Grouper} {diagnostic : Diagnostic}
    (hkeeps : KeepsPattern change (diagnostic :: grouper.held)) :
    (grouper.map change).feed (change diagnostic) =
      ((grouper.feed diagnostic).1.map (Group.map change),
        (grouper.feed diagnostic).2.map change) :=
  ((grouper.takes_feed diagnostic).map hkeeps).eq_feed

/-- What is held after a step was held before it, or was taken by it. -/
theorem held_feed_subset (grouper : Grouper) (diagnostic : Diagnostic) :
    (grouper.feed diagnostic).2.held ⊆ diagnostic :: grouper.held := by
  intro held hheld
  have hmem := (grouper.feed_perm diagnostic).subset (List.mem_append_right _ hheld)
  rcases List.mem_append.mp hmem with h | h
  · exact List.mem_cons_of_mem _ h
  · exact List.mem_singleton.mp h ▸ List.mem_cons_self

/-- The groupers stay in step to the end. -/
theorem run_map (grouper : Grouper) {diagnostics : List Diagnostic}
    (hkeeps : KeepsPattern change (grouper.held ++ diagnostics)) :
    (grouper.map change).run (diagnostics.map change) =
      (grouper.run diagnostics).map (Group.map change) := by
  -- What is held came from the diagnostics before, so the pattern is asked for of those as well.
  induction diagnostics generalizing grouper with
  | nil => exact openGroups_map grouper
  | cons diagnostic rest ih =>
    have hnow : diagnostic :: grouper.held ⊆ grouper.held ++ diagnostic :: rest :=
      List.cons_subset.mpr
        ⟨List.mem_append_right _ List.mem_cons_self, List.subset_append_left _ _⟩
    have hlater : rest ⊆ grouper.held ++ diagnostic :: rest := fun other hother =>
      List.mem_append_right _ (List.mem_cons_of_mem _ hother)
    have hrest : KeepsPattern change ((grouper.feed diagnostic).2.held ++ rest) :=
      hkeeps.of_subset (List.append_subset.mpr
        ⟨List.Subset.trans (grouper.held_feed_subset diagnostic) hnow, hlater⟩)
    rw [List.map_cons, run, feed_map (hkeeps.of_subset hnow), ih _ hrest, run, List.map_append]

end Grouper

/-- Where a change leaves the pattern of some diagnostics as it is, the changed diagnostics are
grouped like those before: the groups are the same, one for one and member for member, but for
the change. -/
theorem groupDiagnostics_map {diagnostics : List Diagnostic}
    (hkeeps : KeepsPattern change diagnostics) :
    groupDiagnostics (diagnostics.map change) =
      (groupDiagnostics diagnostics).map (Group.map change) :=
  Grouper.run_map {} hkeeps

/-- All lines are shifted, each diagnostic gets another column, one that had none as well, errors
become warnings, and paths and texts are others. Loose notes and attached ones stay what they
were. -/
theorem groupDiagnostics_map_shifted :
    let given (line : Nat) (col : Option Nat) (severity : Severity) : Diagnostic :=
      { path := "mod.py".toList, location := ⟨line + 1, col.map fun n : Nat => (n + 1 : Int)⟩
        severity, text := "text".toList
        one_le_line := by dsimp only; omega
        one_le_col := by
          rintro _ hcol
          obtain ⟨n, -, rfl⟩ := Option.map_eq_some_iff.mp hcol
          omega }
    let shifted (diagnostic : Diagnostic) : Diagnostic :=
      { path := "other.py".toList
        location := ⟨diagnostic.location.line + 7, some (diagnostic.location.col.elim 1 (· + 1))⟩
        severity := if diagnostic.severity = .error then .warning else diagnostic.severity
        text := diagnostic.text.reverse
        one_le_line := by have := diagnostic.one_le_line; dsimp only; omega
        one_le_col := by
          rintro _ ⟨⟩
          cases h : diagnostic.location.col with
          | none => exact Int.le_refl 1
          | some col => exact Int.le_add_one (diagnostic.one_le_col col h) }
    let diagnostics := [given 0 (some 4) .error, given 0 (some 4) .note, given 0 none .note,
      given 0 (some 4) .note, given 2 none .warning, given 2 none .note, given 2 (some 0) .note]
    KeepsPattern shifted diagnostics ∧
      (groupDiagnostics (diagnostics.map shifted)).map (fun group => (group.severity,
          group.members.map Diagnostic.location)) =
        [(.note, [⟨8, some 1⟩]), (.note, [⟨8, some 6⟩]), (.warning, [⟨8, some 6⟩, ⟨8, some 6⟩]),
          (.note, [⟨10, some 2⟩]), (.warning, [⟨10, some 1⟩, ⟨10, some 1⟩])] := by
  intro given shifted diagnostics
  have hkeeps : KeepsPattern shifted diagnostics := ⟨by decide, by decide⟩
  refine ⟨hkeeps, ?_⟩
  rw [groupDiagnostics_map hkeeps]
  decide

end DiagnosticMarkers
