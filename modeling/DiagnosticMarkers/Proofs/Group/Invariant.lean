import DiagnosticMarkers.Group
import Mathlib.Data.List.Flatten
import Mathlib.Data.List.Perm.Basic

/-!
# What a grouper keeps

A grouper moves in five ways. Each of them keeps two facts: the open groups and those given
out are well formed, and every diagnostic that was taken is in exactly one of them. Nothing
here depends on the order in which groups are given out.
-/

namespace DiagnosticMarkers

namespace Severity

theorem isPrimary_eq_false_iff (severity : Severity) :
    severity.isPrimary = false ↔ severity = .note := by
  cases severity <;> simp [isPrimary]

end Severity

/-- Notes at the place of the first of them. -/
structure NoteRun.WellFormed (run : NoteRun) : Prop where
  are_notes : ∀ note ∈ run.notes, note.severity = .note
  together : ∀ note ∈ run.notes, note.location = run.first.location

/-- A primary, and notes at its place. -/
structure MergedGroup.WellFormed (group : MergedGroup) : Prop where
  isPrimary : group.primary.severity.isPrimary = true
  are_notes : ∀ note ∈ group.attachments, note.severity = .note
  together : ∀ note ∈ group.attachments, note.location = group.primary.location

/-- The diagnostics of a group are at one place, and none but the first is a primary. -/
def Group.WellFormed : Group → Prop
  | merged group => group.WellFormed
  | notes run => run.WellFormed

/-- The open groups are well formed. -/
structure Grouper.WellFormed (grouper : Grouper) : Prop where
  pending : ∀ group ∈ grouper.pending, group.WellFormed
  noteRun : ∀ run ∈ grouper.noteRun, run.WellFormed

namespace NoteRun

theorem WellFormed.single {note : Diagnostic} (hnote : note.severity = .note) :
    WellFormed ⟨note, []⟩ where
  are_notes := by simpa [notes] using hnote
  together := by simp [notes]

theorem WellFormed.extend {run : NoteRun} (hrun : run.WellFormed) {note : Diagnostic}
    (hnote : note.severity = .note) (hplace : run.first.location = note.location) :
    WellFormed { run with more := run.more ++ [note] } where
  are_notes := by
    intro other hother
    rcases List.mem_append.mp (show other ∈ run.notes ++ [note] from hother) with h | h
    · exact hrun.are_notes other h
    · rw [List.mem_singleton.mp h, hnote]
  together := by
    intro other hother
    rcases List.mem_append.mp (show other ∈ run.notes ++ [note] from hother) with h | h
    · exact hrun.together other h
    · rw [List.mem_singleton.mp h, hplace]

end NoteRun

namespace MergedGroup

theorem WellFormed.single {primary : Diagnostic} (hprimary : primary.severity.isPrimary = true) :
    WellFormed ⟨primary, []⟩ where
  isPrimary := hprimary
  are_notes := by simp
  together := by simp

theorem WellFormed.attach {group : MergedGroup} (hgroup : group.WellFormed) {note : Diagnostic}
    (hnote : note.severity = .note) (hplace : group.primary.location = note.location) :
    WellFormed { group with attachments := group.attachments ++ [note] } where
  isPrimary := hgroup.isPrimary
  are_notes := by
    intro other hother
    rcases List.mem_append.mp hother with h | h
    · exact hgroup.are_notes other h
    · rw [List.mem_singleton.mp h, hnote]
  together := by
    intro other hother
    rcases List.mem_append.mp hother with h | h
    · exact hgroup.together other h
    · rw [List.mem_singleton.mp h, hplace]

end MergedGroup

namespace Group

/-- All diagnostics of a well-formed group are at its place. -/
theorem WellFormed.location_eq {group : Group} (hgroup : group.WellFormed) {member : Diagnostic}
    (hmember : member ∈ group.members) : member.location = group.location := by
  cases group with
  | merged group =>
    rcases List.mem_cons.mp hmember with rfl | hmember
    · rfl
    · exact MergedGroup.WellFormed.together hgroup member hmember
  | notes run => exact NoteRun.WellFormed.together hgroup member hmember

theorem members_ne_nil (group : Group) : group.members ≠ [] := by
  cases group <;> simp [members, NoteRun.notes]

/-- What is decided by the place keeps all diagnostics of a group or none. -/
theorem WellFormed.filter_members {group : Group} (hgroup : group.WellFormed)
    (keeps : Location → Bool) :
    (group.members.filter fun member => keeps member.location) =
      if keeps group.location then group.members else [] := by
  split
  · next hkeep =>
    refine List.filter_eq_self.mpr fun member hmember => ?_
    rw [hgroup.location_eq hmember, hkeep]
  · next hkeep =>
    refine List.filter_eq_nil_iff.mpr fun member hmember => ?_
    rwa [hgroup.location_eq hmember]

end Group

namespace Grouper

/-- The ways in which a grouper takes a diagnostic. -/
inductive Takes (grouper : Grouper) (diagnostic : Diagnostic) : List Group × Grouper → Prop
  | primary (hprimary : diagnostic.severity.isPrimary = true) :
    Takes grouper diagnostic (grouper.openGroups, { pending := some ⟨diagnostic, []⟩ })
  | attach {group : MergedGroup} (hnote : diagnostic.severity = .note)
      (hrun : grouper.noteRun = none) (hpending : grouper.pending = some group)
      (hplace : group.primary.location = diagnostic.location) :
    Takes grouper diagnostic ([], { grouper with
      pending := some { group with attachments := group.attachments ++ [diagnostic] } })
  | opens (hnote : diagnostic.severity = .note) (hrun : grouper.noteRun = none)
      (hplace : ∀ group ∈ grouper.pending, group.primary.location ≠ diagnostic.location) :
    Takes grouper diagnostic ([], { grouper with noteRun := some ⟨diagnostic, []⟩ })
  | extend {run : NoteRun} (hnote : diagnostic.severity = .note)
      (hrun : grouper.noteRun = some run) (hplace : run.first.location = diagnostic.location) :
    Takes grouper diagnostic ([], { grouper with
      noteRun := some { run with more := run.more ++ [diagnostic] } })
  | switch {run : NoteRun} (hnote : diagnostic.severity = .note)
      (hrun : grouper.noteRun = some run) (hplace : run.first.location ≠ diagnostic.location) :
    Takes grouper diagnostic
      ([.notes run], { grouper with noteRun := some ⟨diagnostic, []⟩ })

theorem takes_feed (grouper : Grouper) (diagnostic : Diagnostic) :
    grouper.Takes diagnostic (grouper.feed diagnostic) := by
  unfold feed
  split
  · next hprimary => exact .primary hprimary
  next hprimary =>
  have hnote := (Severity.isPrimary_eq_false_iff _).mp (Bool.eq_false_iff.mpr hprimary)
  unfold feedNote
  split
  · next run hrun =>
    split
    · next hplace => exact .extend hnote hrun hplace
    · next hplace => exact .switch hnote hrun hplace
  next hrun =>
  split
  · next group hpending =>
    split
    · next hplace => exact .attach hnote hrun hpending hplace
    · next hplace => exact .opens hnote hrun (by simpa [hpending] using hplace)
  · next hpending => exact .opens hnote hrun (by simp [hpending])

/-- A grouper takes a diagnostic in one way only. -/
theorem Takes.eq_feed {grouper : Grouper} {diagnostic : Diagnostic}
    {result : List Group × Grouper} (htakes : grouper.Takes diagnostic result) :
    grouper.feed diagnostic = result := by
  cases htakes with
  | primary hprimary => simp [feed, hprimary]
  | attach hnote hrun hpending hplace =>
    simp [feed, feedNote, hnote, hrun, hpending, hplace, Severity.isPrimary]
  | opens hnote hrun hplace =>
    cases hpending : grouper.pending with
    | none => simp [feed, feedNote, hnote, hrun, hpending, Severity.isPrimary]
    | some group =>
      have hne := hplace group hpending
      simp [feed, feedNote, hnote, hrun, hpending, hne, Severity.isPrimary]
  | extend hnote hrun hplace => simp [feed, feedNote, hnote, hrun, hplace, Severity.isPrimary]
  | switch hnote hrun hplace => simp [feed, feedNote, hnote, hrun, hplace, Severity.isPrimary]

/-- The diagnostics in the open groups. -/
def held (grouper : Grouper) : List Diagnostic :=
  grouper.openGroups.flatMap Group.members

theorem wellFormed_empty : WellFormed {} where
  pending := by simp
  noteRun := by simp

theorem WellFormed.openGroups {grouper : Grouper} (hgrouper : grouper.WellFormed) :
    ∀ group ∈ grouper.openGroups, group.WellFormed := by
  intro group hgroup
  rcases List.mem_append.mp hgroup with h | h
  · obtain ⟨run, hrun, rfl⟩ := Option.map_eq_some_iff.mp (Option.mem_toList.mp h)
    exact hgrouper.noteRun run hrun
  · obtain ⟨merged, hmerged, rfl⟩ := Option.map_eq_some_iff.mp (Option.mem_toList.mp h)
    exact hgrouper.pending merged hmerged

/-- One step keeps the open groups well formed and gives out well-formed groups. -/
theorem WellFormed.feed {grouper : Grouper} (hgrouper : grouper.WellFormed)
    (diagnostic : Diagnostic) :
    (∀ group ∈ (grouper.feed diagnostic).1, group.WellFormed) ∧
      (grouper.feed diagnostic).2.WellFormed := by
  have htakes := grouper.takes_feed diagnostic
  generalize grouper.feed diagnostic = result at htakes ⊢
  cases htakes with
  | primary hprimary =>
    exact ⟨hgrouper.openGroups, ⟨by simpa using .single hprimary, by simp⟩⟩
  | attach hnote hrun hpending hplace =>
    have hgroup := (hgrouper.pending _ hpending).attach hnote hplace
    exact ⟨by simp, ⟨by simpa using hgroup, hgrouper.noteRun⟩⟩
  | opens hnote hrun hplace =>
    exact ⟨by simp, ⟨hgrouper.pending, by simpa using .single hnote⟩⟩
  | extend hnote hrun hplace =>
    have hextended := (hgrouper.noteRun _ hrun).extend hnote hplace
    exact ⟨by simp, ⟨hgrouper.pending, by simpa using hextended⟩⟩
  | switch hnote hrun hplace =>
    have hclosed := hgrouper.noteRun _ hrun
    exact ⟨by simpa [Group.WellFormed] using hclosed,
      ⟨hgrouper.pending, by simpa using .single hnote⟩⟩

theorem held_eq (grouper : Grouper) :
    grouper.held = (grouper.noteRun.map NoteRun.notes).getD [] ++
      (grouper.pending.map fun group => group.primary :: group.attachments).getD [] := by
  rcases grouper with ⟨_ | group, _ | run⟩ <;> simp [held, openGroups, Group.members]

/-- One step puts the diagnostic into one group and leaves the others where they are. -/
theorem feed_perm (grouper : Grouper) (diagnostic : Diagnostic) :
    ((grouper.feed diagnostic).1.flatMap Group.members ++
      (grouper.feed diagnostic).2.held).Perm (grouper.held ++ [diagnostic]) := by
  have htakes := grouper.takes_feed diagnostic
  generalize grouper.feed diagnostic = result at htakes ⊢
  cases htakes with
  | primary hprimary => simp [held, openGroups, Group.members]
  | attach hnote hrun hpending hplace => simp [held_eq, hrun, hpending]
  | opens hnote hrun hplace =>
    simpa [held_eq, NoteRun.notes, hrun] using
      (List.perm_append_singleton diagnostic _).symm
  | @extend run hnote hrun hplace =>
    simpa [held_eq, NoteRun.notes, hrun] using
      (List.perm_append_singleton diagnostic _).symm.append_left run.more
  | @switch run hnote hrun hplace =>
    simpa [held_eq, NoteRun.notes, Group.members, hrun] using
      (List.perm_append_singleton diagnostic _).symm.append_left run.more

/-- Every group that a run gives out is well formed. -/
theorem WellFormed.run {grouper : Grouper} (hgrouper : grouper.WellFormed)
    (diagnostics : List Diagnostic) :
    ∀ group ∈ grouper.run diagnostics, group.WellFormed := by
  induction diagnostics generalizing grouper with
  | nil => exact hgrouper.openGroups
  | cons diagnostic rest ih =>
    intro group hgroup
    obtain ⟨hclosed, hnext⟩ := hgrouper.feed diagnostic
    rcases List.mem_append.mp hgroup with h | h
    · exact hclosed group h
    · exact ih hnext group h

/-- A run gives out what was held and what it takes, each diagnostic once. -/
theorem run_perm (grouper : Grouper) (diagnostics : List Diagnostic) :
    ((grouper.run diagnostics).flatMap Group.members).Perm (grouper.held ++ diagnostics) := by
  induction diagnostics generalizing grouper with
  | nil => simp [run, finish, held]
  | cons diagnostic rest ih =>
    have hstep := (grouper.feed_perm diagnostic).append_right rest
    have hrest := (ih (grouper.feed diagnostic).2).append_left
      ((grouper.feed diagnostic).1.flatMap Group.members)
    rw [run, List.flatMap_append]
    refine hrest.trans ?_
    simpa using hstep

end Grouper

theorem wellFormed_of_mem_groupDiagnostics {diagnostics : List Diagnostic} {group : Group}
    (hgroup : group ∈ groupDiagnostics diagnostics) : group.WellFormed :=
  Grouper.wellFormed_empty.run diagnostics group hgroup

/-- Grouping neither loses nor repeats a diagnostic. -/
theorem members_groupDiagnostics_perm (diagnostics : List Diagnostic) :
    ((groupDiagnostics diagnostics).flatMap Group.members).Perm diagnostics :=
  Grouper.run_perm {} diagnostics

end DiagnosticMarkers
