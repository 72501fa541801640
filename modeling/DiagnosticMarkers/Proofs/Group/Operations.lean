import DiagnosticMarkers.Proofs.Group.Invariant

/-!
# Grouping in any number of stretches

A grouper is fed and finished in any order. What one operation keeps, any number of operations
keep: the groups are well formed, and no diagnostic is lost or repeated. Finishing leaves nothing
behind, so the diagnostics between one finish and the next are grouped as if they were alone.
-/

namespace DiagnosticMarkers.Grouper

/-- The diagnostic that an operation feeds. -/
def Operation.fed? : Operation → Option Diagnostic
  | feed diagnostic => some diagnostic
  | finish => none

/-- The diagnostics that operations feed, in order. -/
def fed (operations : List Operation) : List Diagnostic :=
  operations.filterMap Operation.fed?

/-- The diagnostics fed up to each finish, and those fed after the last one. -/
def chunks (operations : List Operation) : List (List Diagnostic) :=
  (operations.splitOn .finish).map fed

theorem chunks_finish (operations : List Operation) :
    chunks (.finish :: operations) = [] :: chunks operations := by
  simp [chunks, List.splitOn, List.splitOnP_cons_eq_if_modifyHead, fed]

theorem chunks_feed (diagnostic : Diagnostic) {operations : List Operation}
    {first : List Diagnostic} {later : List (List Diagnostic)}
    (h : chunks operations = first :: later) :
    chunks (.feed diagnostic :: operations) = (diagnostic :: first) :: later := by
  cases hsplit : operations.splitOn .finish with
  | nil => exact absurd hsplit (List.splitOn_ne_nil _ _)
  | cons stretch stretches =>
    have hcut : (Operation.feed diagnostic :: operations).splitOn .finish =
        (.feed diagnostic :: stretch) :: stretches := by
      rw [List.splitOn] at hsplit ⊢
      simp [List.splitOnP_cons_eq_if_modifyHead, hsplit]
    simp only [chunks, hsplit, List.map_cons, List.cons.injEq] at h
    simp [chunks, hcut, fed, ← h.1, ← h.2, Operation.fed?]

/-- One operation keeps the open groups well formed and gives out well-formed groups. -/
theorem WellFormed.perform {grouper : Grouper} (hgrouper : grouper.WellFormed)
    (operation : Operation) :
    (∀ group ∈ (grouper.perform operation).1, group.WellFormed) ∧
      (grouper.perform operation).2.WellFormed := by
  cases operation with
  | feed diagnostic => exact hgrouper.feed diagnostic
  | finish => exact ⟨hgrouper.openGroups, wellFormed_empty⟩

/-- One operation takes what it feeds and loses nothing. -/
theorem perform_perm (grouper : Grouper) (operation : Operation) :
    ((grouper.perform operation).1.flatMap Group.members ++
      (grouper.perform operation).2.held).Perm (grouper.held ++ operation.fed?.toList) := by
  cases operation with
  | feed diagnostic => exact grouper.feed_perm diagnostic
  | finish => simp [perform, finish, held, openGroups, Operation.fed?]

theorem performAll_cons (grouper : Grouper) (operation : Operation)
    (operations : List Operation) :
    grouper.performAll (operation :: operations) =
      ((grouper.perform operation).1 ++
          ((grouper.perform operation).2.performAll operations).1,
        ((grouper.perform operation).2.performAll operations).2) :=
  rfl

theorem WellFormed.performAll {grouper : Grouper} (hgrouper : grouper.WellFormed)
    (operations : List Operation) :
    (∀ group ∈ (grouper.performAll operations).1, group.WellFormed) ∧
      (grouper.performAll operations).2.WellFormed := by
  induction operations generalizing grouper with
  | nil => exact ⟨by simp [Grouper.performAll], hgrouper⟩
  | cons operation operations ih =>
    obtain ⟨hclosed, hnext⟩ := hgrouper.perform operation
    obtain ⟨hlater, hlast⟩ := ih hnext
    rw [performAll_cons]
    refine ⟨fun group hgroup => ?_, hlast⟩
    rcases List.mem_append.mp hgroup with h | h
    · exact hclosed group h
    · exact hlater group h

theorem performAll_perm (grouper : Grouper) (operations : List Operation) :
    ((grouper.performAll operations).1.flatMap Group.members ++
      (grouper.performAll operations).2.held).Perm (grouper.held ++ fed operations) := by
  induction operations generalizing grouper with
  | nil => simp [performAll, fed]
  | cons operation operations ih =>
    have hstep := (grouper.perform_perm operation).append_right (fed operations)
    have hlater := (ih (grouper.perform operation).2).append_left
      ((grouper.perform operation).1.flatMap Group.members)
    have hfed : fed (operation :: operations) = operation.fed?.toList ++ fed operations := by
      cases operation <;> rfl
    rw [performAll_cons, hfed, List.flatMap_append, List.append_assoc]
    refine hlater.trans ?_
    simpa using hstep

/-- Up to the first finish the open groups go on; each later chunk begins without any. -/
theorem performAll_finish (grouper : Grouper) {operations : List Operation}
    {first : List Diagnostic} {later : List (List Diagnostic)}
    (h : chunks operations = first :: later) :
    grouper.performAll (operations ++ [.finish]) =
      (grouper.run first ++ later.flatMap groupDiagnostics, {}) := by
  -- What is open belongs to the first chunk: a feed grows that chunk, a finish begins the next.
  induction operations generalizing grouper first later with
  | nil =>
    obtain ⟨rfl, rfl⟩ : [] = first ∧ [] = later := by simpa [chunks, fed] using h
    simp [performAll, perform, finish, run]
  | cons operation operations ih =>
    cases hchunks : chunks operations with
    | nil => simp [chunks] at hchunks
    | cons next others =>
      rw [List.cons_append, performAll_cons, ih _ hchunks]
      cases operation with
      | feed diagnostic =>
        obtain ⟨rfl, rfl⟩ := List.cons.inj ((chunks_feed diagnostic hchunks).symm.trans h)
        simp [perform, run]
      | finish =>
        rw [chunks_finish, hchunks] at h
        obtain ⟨rfl, rfl⟩ := List.cons.inj h
        simp [perform, finish, run, groupDiagnostics]

/-- Whatever is done to an empty grouper, the groups that it holds and gives out are well formed,
they hold each diagnostic that was fed once, and one more finish leaves nothing open and completes
the groups of all chunks. -/
theorem performAll_groups_chunks (operations : List Operation) :
    (∀ group ∈ (performAll {} operations).2.pending, group.WellFormed) ∧
      (∀ run ∈ (performAll {} operations).2.noteRun, run.notes ≠ [] ∧ run.WellFormed) ∧
      (∀ group ∈ (performAll {} operations).1, group.WellFormed) ∧
      ((performAll {} operations).1.flatMap Group.members ++
        (performAll {} operations).2.held).Perm (fed operations) ∧
      performAll {} (operations ++ [.finish]) =
        ((chunks operations).flatMap groupDiagnostics, {}) := by
  obtain ⟨hclosed, hopen⟩ := wellFormed_empty.performAll operations
  refine ⟨hopen.pending, fun run hrun => ⟨?_, hopen.noteRun run hrun⟩, hclosed,
    performAll_perm {} operations, ?_⟩
  · simp [NoteRun.notes]
  · cases hchunks : chunks operations with
    | nil => simp [chunks] at hchunks
    | cons first later =>
      rw [performAll_finish {} hchunks]
      rfl

end DiagnosticMarkers.Grouper
