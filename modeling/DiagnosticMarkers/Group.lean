import DiagnosticMarkers.Diagnostic.Basic

/-!
# Groups of diagnostics

A group becomes one marker: a primary diagnostic with the notes that explain it, or notes at
one place with no primary to explain. The message of a marker holds the texts of its group, one on
each line, behind a heading.

Diagnostics arrive one by one. A note at the place of the last primary is attached to it as
long as no other note came between; other notes gather in a run as long as they stay at one
place. A primary closes what is open, and so does the end. Loose notes are given out before
the primary that they follow.
-/

namespace DiagnosticMarkers

/-- A primary diagnostic and the notes at its place, in order. -/
structure MergedGroup where
  primary : Diagnostic
  attachments : List Diagnostic := []
deriving DecidableEq

structure NoteRun where
  first : Diagnostic
  more : List Diagnostic := []
deriving DecidableEq

def NoteRun.emptyMessage : String :=
  "a note run requires at least one note"

def NoteRun.ofList? : List Diagnostic → Option NoteRun
  | [] => none
  | first :: more => some ⟨first, more⟩

def NoteRun.notes (run : NoteRun) : List Diagnostic :=
  run.first :: run.more

/-- What one marker is made of. -/
inductive Group where
  | merged (group : MergedGroup)
  | notes (run : NoteRun)
deriving DecidableEq

namespace Group

/-- The diagnostic that gives the group its place. -/
def head : Group → Diagnostic
  | merged group => group.primary
  | notes run => run.first

def members : Group → List Diagnostic
  | merged group => group.primary :: group.attachments
  | notes run => run.notes

def location (group : Group) : Location :=
  group.head.location

/-- The severity of a group; that of loose notes is always that of a note. -/
def severity : Group → Severity
  | merged group => group.primary.severity
  | notes _ => .note

def texts (group : Group) : List Text :=
  group.members.map Diagnostic.text

end Group

/-! ## Grouping -/

/-- The groups that are still open. -/
structure Grouper where
  pending : Option MergedGroup := none
  noteRun : Option NoteRun := none
deriving DecidableEq

namespace Grouper

inductive Operation where
  | feed (diagnostic : Diagnostic)
  | finish
deriving DecidableEq

/-- The open groups in the order in which they are given out. -/
def openGroups (grouper : Grouper) : List Group :=
  (grouper.noteRun.map Group.notes).toList ++ (grouper.pending.map Group.merged).toList

/-- Take a note: the groups that it closes, and the open groups after it. -/
def feedNote (grouper : Grouper) (note : Diagnostic) : List Group × Grouper :=
  match grouper.noteRun with
  | some run =>
    if run.first.location = note.location then
      ([], { grouper with noteRun := some { run with more := run.more ++ [note] } })
    else ([.notes run], { grouper with noteRun := some ⟨note, []⟩ })
  | none =>
    match grouper.pending with
    | some group =>
      if group.primary.location = note.location then
        ([], { grouper with
          pending := some { group with attachments := group.attachments ++ [note] } })
      else ([], { grouper with noteRun := some ⟨note, []⟩ })
    | none => ([], { grouper with noteRun := some ⟨note, []⟩ })

/-- Take a diagnostic: the groups that it closes, and the open groups after it. -/
def feed (grouper : Grouper) (diagnostic : Diagnostic) : List Group × Grouper :=
  if diagnostic.severity.isPrimary then
    (grouper.openGroups, { pending := some ⟨diagnostic, []⟩ })
  else grouper.feedNote diagnostic

def finish (grouper : Grouper) : List Group × Grouper :=
  (grouper.openGroups, {})

def perform (grouper : Grouper) : Operation → List Group × Grouper
  | .feed diagnostic => grouper.feed diagnostic
  | .finish => grouper.finish

/-- Do operations in order: the groups that they close, and the open groups after them. -/
def performAll (grouper : Grouper) : List Operation → List Group × Grouper
  | [] => ([], grouper)
  | operation :: operations =>
    let (closed, next) := grouper.perform operation
    let (rest, last) := next.performAll operations
    (closed ++ rest, last)

/-- The groups that the remaining diagnostics close, the end included. -/
def run (grouper : Grouper) : List Diagnostic → List Group
  | [] => grouper.finish.1
  | diagnostic :: rest =>
    (grouper.feed diagnostic).1 ++ (grouper.feed diagnostic).2.run rest

end Grouper

def groupDiagnostics (diagnostics : List Diagnostic) : List Group :=
  Grouper.run {} diagnostics

/-! ## Markers -/

/-- A message at a place of a document. Lines count from one. -/
@[ext]
structure Marker where
  location : Location
  message : Text
  severity : Severity := .error
  one_le_line : 1 ≤ location.line

namespace Marker

instance : DecidableEq Marker := fun _ _ =>
  decidable_of_iff _ Marker.ext_iff.symm

def defaultHeading : Text := "Mypy: ".toList

/-- The marker for a group, at the place of its first diagnostic. -/
def ofGroup (heading : Text) (group : Group) : Marker where
  location := group.location
  message := heading ++ Text.joinWith ['\n'] group.texts
  severity := group.severity
  one_le_line := group.head.one_le_line

def ofGroups (heading : Text) (groups : List Group) : List Marker :=
  groups.map (ofGroup heading)

end Marker

end DiagnosticMarkers
