import DiagnosticMarkers.Proofs.Group.Invariant
import Mathlib.Data.List.SplitBy

/-!
# Grouping block by block

A sequence of diagnostics is cut in front of every primary. A block is a primary with the
notes up to the next one, and notes before the first primary are in no block. The notes right
behind the primary that are at its place explain it; the other notes of the block are loose,
and stand in runs, each as long as its place lasts. Loose notes come before the primary of
their block.

This reading looks at whole blocks. The grouper sees one diagnostic at a time and holds two
open groups, and gives the same groups in the same order.
-/

namespace DiagnosticMarkers

def Diagnostic.atOnePlace (first second : Diagnostic) : Bool :=
  first.location = second.location

/-- The groups of loose notes: the longest runs of neighbours at one place. -/
def Group.runsOf (notes : List Diagnostic) : List Group :=
  (notes.splitBy Diagnostic.atOnePlace).filterMap fun run =>
    (NoteRun.ofList? run).map Group.notes

/-- A primary and the notes up to the next primary. -/
structure Block where
  primary : Diagnostic
  notes : List Diagnostic
  isPrimary : primary.severity.isPrimary = true
  are_notes : ∀ note ∈ notes, note.severity = .note

namespace Block

def diagnostics (block : Block) : List Diagnostic :=
  block.primary :: block.notes

/-- The notes right behind the primary that are at its place. -/
def explaining (block : Block) : List Diagnostic :=
  block.notes.takeWhile block.primary.atOnePlace

/-- The other notes. -/
def loose (block : Block) : List Diagnostic :=
  block.notes.dropWhile block.primary.atOnePlace

def groups (block : Block) : List Group :=
  Group.runsOf block.loose ++ [.merged ⟨block.primary, block.explaining⟩]

end Block

/-- Notes without a primary, then blocks. -/
structure Blocks where
  leading : List Diagnostic
  blocks : List Block
  are_notes : ∀ note ∈ leading, note.severity = .note

namespace Blocks

def diagnostics (cut : Blocks) : List Diagnostic :=
  cut.leading ++ cut.blocks.flatMap Block.diagnostics

def groups (cut : Blocks) : List Group :=
  Group.runsOf cut.leading ++ cut.blocks.flatMap Block.groups

/-- Put a diagnostic in front: a primary takes the leading notes into its block. -/
def add (diagnostic : Diagnostic) (cut : Blocks) : Blocks :=
  if h : diagnostic.severity.isPrimary = true then
    { leading := []
      blocks := ⟨diagnostic, cut.leading, h, cut.are_notes⟩ :: cut.blocks
      are_notes := by simp }
  else
    { leading := diagnostic :: cut.leading
      blocks := cut.blocks
      are_notes := by
        have hnote := (Severity.isPrimary_eq_false_iff _).mp (Bool.eq_false_iff.mpr h)
        simpa [hnote] using cut.are_notes }

def ofDiagnostics (diagnostics : List Diagnostic) : Blocks :=
  diagnostics.foldr add ⟨[], [], by simp⟩

theorem diagnostics_add (diagnostic : Diagnostic) (cut : Blocks) :
    (cut.add diagnostic).diagnostics = diagnostic :: cut.diagnostics := by
  unfold add
  split <;> simp [diagnostics, Block.diagnostics]

theorem diagnostics_ofDiagnostics (diagnostics : List Diagnostic) :
    (ofDiagnostics diagnostics).diagnostics = diagnostics := by
  induction diagnostics with
  | nil => rfl
  | cons diagnostic rest ih =>
    rw [ofDiagnostics, List.foldr_cons, diagnostics_add]
    exact congrArg (diagnostic :: ·) ih

end Blocks

namespace Group

theorem runsOf_nil : runsOf [] = [] := rfl

theorem runsOf_notes {run : NoteRun} (hrun : run.WellFormed) :
    runsOf run.notes = [.notes run] := by
  have hchain : run.notes.IsChain fun a b => Diagnostic.atOnePlace a b = true := by
    apply List.Pairwise.isChain
    refine List.pairwise_of_forall_mem_list fun a ha b hb => ?_
    simp [Diagnostic.atOnePlace, hrun.together a ha, hrun.together b hb]
  have hne : run.notes ≠ [] := by simp [NoteRun.notes]
  rw [runsOf, List.splitBy_of_isChain hne hchain]
  rfl

/-- A run ends where the place changes. -/
theorem runsOf_append_cons {run : NoteRun} (hrun : run.WellFormed) {note : Diagnostic}
    (hplace : run.first.location ≠ note.location) (notes : List Diagnostic) :
    runsOf (run.notes ++ note :: notes) = .notes run :: runsOf (note :: notes) := by
  have hlast : ∀ last ∈ run.notes.getLast?, last.atOnePlace note = false := by
    intro last hlast
    have hmem := List.mem_of_mem_getLast? hlast
    simpa [Diagnostic.atOnePlace, hrun.together last hmem] using hplace
  rw [runsOf, List.splitBy_append_cons notes hlast, List.filterMap_append]
  exact congrArg (· ++ _) (runsOf_notes hrun)

end Group

namespace Grouper

/-- Behind the notes of a block comes a primary, or nothing. -/
def EndsBlock (rest : List Diagnostic) : Prop :=
  ∀ next ∈ rest.head?, next.severity.isPrimary = true

/-- Where a block ends, the open groups are given out and nothing of them is left. -/
theorem run_of_endsBlock (grouper : Grouper) {rest : List Diagnostic} (hrest : EndsBlock rest) :
    grouper.run rest = grouper.openGroups ++ run {} rest := by
  cases rest with
  | nil => simp [run, finish, openGroups]
  | cons next rest =>
    have hnext := (.primary (hrest next rfl) : Takes grouper next _).eq_feed
    have hempty := (.primary (hrest next rfl) : Takes {} next _).eq_feed
    simp [run, hnext, hempty, openGroups]

/-- What stands in front of the end of a block is grouped as if nothing came behind it. -/
theorem run_append_of_endsBlock (grouper : Grouper) (first : List Diagnostic)
    {rest : List Diagnostic} (hrest : EndsBlock rest) :
    grouper.run (first ++ rest) = grouper.run first ++ run {} rest := by
  induction first generalizing grouper with
  | nil => exact run_of_endsBlock grouper hrest
  | cons diagnostic first ih => rw [List.cons_append, run, ih, run, List.append_assoc]

variable {pending : Option MergedGroup} {notes rest : List Diagnostic}

/-- Once a run is open, all notes up to the end of the block are loose. The run takes the
notes at its place, so the induction is over all runs that may be open. -/
theorem run_append_of_openRun {loose : NoteRun} (hloose : loose.WellFormed)
    (hnotes : ∀ note ∈ notes, note.severity = .note) (hrest : EndsBlock rest) :
    run ⟨pending, some loose⟩ (notes ++ rest) =
      Group.runsOf (loose.notes ++ notes) ++ (pending.map Group.merged).toList ++ run {} rest := by
  induction notes generalizing loose with
  | nil =>
    rw [List.nil_append, run_of_endsBlock _ hrest, List.append_nil, Group.runsOf_notes hloose]
    simp [openGroups]
  | cons note notes ih =>
    have hnote := hnotes note List.mem_cons_self
    have htail := fun other hother => hnotes other (List.mem_cons_of_mem note hother)
    by_cases hplace : loose.first.location = note.location
    · have hfeed := (.extend hnote rfl hplace : Takes ⟨pending, some loose⟩ note _).eq_feed
      rw [List.cons_append, run, hfeed, ih (hloose.extend hnote hplace) htail]
      simp [NoteRun.notes]
    · have hfeed := (.switch hnote rfl hplace : Takes ⟨pending, some loose⟩ note _).eq_feed
      rw [List.cons_append, run, hfeed, ih (.single hnote) htail,
        Group.runsOf_append_cons hloose hplace]
      simp [NoteRun.notes]

/-- Notes of which the first explains no pending primary are loose. -/
theorem run_append_of_noRun (hnotes : ∀ note ∈ notes, note.severity = .note)
    (hfirst : ∀ note ∈ notes.head?, ∀ group ∈ pending, group.primary.location ≠ note.location)
    (hrest : EndsBlock rest) :
    run ⟨pending, none⟩ (notes ++ rest) =
      Group.runsOf notes ++ (pending.map Group.merged).toList ++ run {} rest := by
  cases notes with
  | nil =>
    rw [List.nil_append, run_of_endsBlock _ hrest]
    simp [openGroups, Group.runsOf_nil]
  | cons note notes =>
    have hnote := hnotes note List.mem_cons_self
    have htail := fun other hother => hnotes other (List.mem_cons_of_mem note hother)
    have hfeed := (.opens hnote rfl (hfirst note rfl) : Takes ⟨pending, none⟩ note _).eq_feed
    rw [List.cons_append, run, hfeed, run_append_of_openRun (.single hnote) htail hrest]
    simp [NoteRun.notes]

/-- A pending primary takes the notes at its place until the first other note; what follows
that one is loose, wherever it is. -/
theorem run_append_of_pending {group : MergedGroup}
    (hnotes : ∀ note ∈ notes, note.severity = .note) (hrest : EndsBlock rest) :
    run ⟨some group, none⟩ (notes ++ rest) =
      Group.runsOf (notes.dropWhile group.primary.atOnePlace) ++
        .merged { group with
          attachments := group.attachments ++ notes.takeWhile group.primary.atOnePlace } ::
        run {} rest := by
  induction notes generalizing group with
  | nil =>
    rw [List.nil_append, run_of_endsBlock _ hrest]
    simp [openGroups, Group.runsOf_nil]
  | cons note notes ih =>
    have hnote := hnotes note List.mem_cons_self
    have htail := fun other hother => hnotes other (List.mem_cons_of_mem note hother)
    by_cases hplace : group.primary.location = note.location
    · have hfeed := (.attach hnote rfl rfl hplace : Takes ⟨some group, none⟩ note _).eq_feed
      rw [List.cons_append, run, hfeed, List.nil_append, ih htail]
      simp [Diagnostic.atOnePlace, hplace]
    · have hfirst : ∀ first ∈ (note :: notes).head?, ∀ pending ∈ some group,
          pending.primary.location ≠ first.location := by
        simpa using hplace
      rw [run_append_of_noRun hnotes hfirst hrest]
      simp [Diagnostic.atOnePlace, hplace]

/-- A block gives its groups before anything that follows it. -/
theorem run_block (block : Block) (hrest : EndsBlock rest) :
    run {} (block.diagnostics ++ rest) = block.groups ++ run {} rest := by
  have hfeed := (.primary block.isPrimary : Takes {} block.primary _).eq_feed
  rw [Block.diagnostics, List.cons_append, run, hfeed,
    run_append_of_pending block.are_notes hrest]
  simp [openGroups, Block.groups, Block.explaining, Block.loose]

theorem endsBlock_blocks (blocks : List Block) :
    EndsBlock (blocks.flatMap Block.diagnostics) := by
  cases blocks with
  | nil => simp [EndsBlock]
  | cons block blocks => simpa [EndsBlock, Block.diagnostics] using block.isPrimary

theorem run_blocks (blocks : List Block) :
    run {} (blocks.flatMap Block.diagnostics) = blocks.flatMap Block.groups := by
  induction blocks with
  | nil => rfl
  | cons block blocks ih =>
    rw [List.flatMap_cons, run_block block (endsBlock_blocks blocks), ih, List.flatMap_cons]

end Grouper

/-- Any notes followed by any blocks are grouped block by block. -/
theorem groupDiagnostics_diagnostics (cut : Blocks) :
    groupDiagnostics cut.diagnostics = cut.groups := by
  have hleading : Grouper.run ⟨none, none⟩ cut.diagnostics = _ :=
    Grouper.run_append_of_noRun cut.are_notes (by simp) (Grouper.endsBlock_blocks cut.blocks)
  simpa [groupDiagnostics, Blocks.groups, Grouper.run_blocks] using hleading

/-- Grouping is the reading of the blocks into which the diagnostics are cut. -/
theorem groupDiagnostics_eq_groups_of_blocks (diagnostics : List Diagnostic) :
    (Blocks.ofDiagnostics diagnostics).diagnostics = diagnostics ∧
      groupDiagnostics diagnostics = (Blocks.ofDiagnostics diagnostics).groups := by
  have hcut := Blocks.diagnostics_ofDiagnostics diagnostics
  refine ⟨hcut, ?_⟩
  rw [← groupDiagnostics_diagnostics, hcut]

end DiagnosticMarkers
