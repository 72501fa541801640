import DiagnosticMarkers.Output
import Mathlib.Data.List.Basic

/-!
# The diagnostics in output

Which diagnostics are read, leaving aside the events on the way. Lines without a diagnostic
and diagnostics that are not accepted leave no trace in the result. The first line that cannot be
read ends the reading with its fault.
-/

namespace DiagnosticMarkers

/-! ## The first fault -/

variable {α β ε : Type} {read : α → Except ε β}

/-- The items up to one can be read, and that one has the fault. -/
inductive FirstFault (read : α → Except ε β) : List α → ε → Prop
  | here {item : α} {fault : ε} (h : read item = .error fault) (rest : List α) :
    FirstFault read (item :: rest) fault
  | later {item : α} {value : β} (h : read item = .ok value) {rest : List α} {fault : ε}
      (hrest : FirstFault read rest fault) : FirstFault read (item :: rest) fault

theorem not_firstFault_nil (fault : ε) : ¬ FirstFault read [] fault :=
  nofun

theorem firstFault_cons_of_error {item : α} {found : ε} (h : read item = .error found)
    (rest : List α) (fault : ε) : FirstFault read (item :: rest) fault ↔ found = fault := by
  constructor
  · rintro (⟨hitem, -⟩ | ⟨hitem, -⟩)
    · exact Except.error.inj (h.symm.trans hitem)
    · cases h.symm.trans hitem
  · rintro rfl
    exact .here h rest

theorem firstFault_cons_of_ok {item : α} {value : β} (h : read item = .ok value)
    (rest : List α) (fault : ε) :
    FirstFault read (item :: rest) fault ↔ FirstFault read rest fault := by
  constructor
  · rintro (⟨hitem, -⟩ | ⟨-, hrest⟩)
    · cases h.symm.trans hitem
    · exact hrest
  · exact .later h

/-- A fault behind items that can be read is the first. -/
theorem firstFault_append {items : List α} (hitems : ∀ item ∈ items, ∃ value, read item = .ok value)
    {item : α} {fault : ε} (h : read item = .error fault) (rest : List α) :
    FirstFault read (items ++ item :: rest) fault := by
  induction items with
  | nil => exact .here h rest
  | cons first items ih =>
    obtain ⟨value, hvalue⟩ := hitems first List.mem_cons_self
    exact .later hvalue (ih fun other hother => hitems other (List.mem_cons_of_mem first hother))

end DiagnosticMarkers

namespace DiagnosticMarkers.Output

/-! ## Diagnostics -/

/-- The diagnostic on a line, if one can be read. -/
def diagnosticOn? (line : Text) : Option Diagnostic :=
  (Diagnostic.ofLine line).toOption.join

/-- The diagnostics on lines, of whatever file. -/
def diagnosticsOn (lines : List Text) : List Diagnostic :=
  lines.filterMap diagnosticOn?

/-- A fault ends the reading. -/
theorem result_read_cons_of_error {line : Text} {fault : OverlongNumber}
    (hread : Diagnostic.ofLine line = .error fault) (accepts : Diagnostic → Bool)
    (rest : List Text) : (read accepts (line :: rest)).result = .error fault := by
  simp only [read, hread]

/-- What is accepted on a line is put in front of what is read behind it. -/
theorem result_read_cons_of_ok {line : Text} {found : Option Diagnostic}
    (hread : Diagnostic.ofLine line = .ok found) (accepts : Diagnostic → Bool)
    (rest : List Text) :
    (read accepts (line :: rest)).result =
      (read accepts rest).result.map (found.toList.filter accepts ++ ·) := by
  cases found with
  | none =>
    simp only [read, hread]
    cases (read accepts rest).result <;> rfl
  | some diagnostic =>
    by_cases haccepts : accepts diagnostic = true
    · simp [read, hread, haccepts]
    · simp only [read, hread, haccepts]
      cases (read accepts rest).result <;> simp [Except.map, haccepts]

/-- The reading ends with the first fault on a line, if there is one, of whatever file. -/
theorem result_read_eq_error_iff (accepts : Diagnostic → Bool) (lines : List Text)
    (fault : OverlongNumber) :
    (read accepts lines).result = .error fault ↔ FirstFault Diagnostic.ofLine lines fault := by
  induction lines with
  | nil => exact iff_of_false nofun (not_firstFault_nil fault)
  | cons line rest ih =>
    cases hread : Diagnostic.ofLine line with
    | error found =>
      rw [result_read_cons_of_error hread, firstFault_cons_of_error hread, Except.error.injEq]
    | ok found =>
      rw [result_read_cons_of_ok hread, firstFault_cons_of_ok hread, ← ih]
      cases (read accepts rest).result with
      | error found => rfl
      | ok diagnostics => exact iff_of_false nofun nofun

theorem diagnosticsOn_cons_of_ok {line : Text} {found : Option Diagnostic}
    (hread : Diagnostic.ofLine line = .ok found) (rest : List Text) :
    diagnosticsOn (line :: rest) = found.toList ++ diagnosticsOn rest := by
  cases found <;> simp [diagnosticsOn, diagnosticOn?, hread, Except.toOption]

/-- Whether lines can be read can be found out. -/
theorem exists_ok_of_isOk {lines : List Text}
    (h : ∀ line ∈ lines, (Diagnostic.ofLine line).isOk = true) :
    ∀ line ∈ lines, ∃ found, Diagnostic.ofLine line = .ok found := by
  intro line hline
  cases hread : Diagnostic.ofLine line with
  | error fault => simpa [hread, Except.isOk, Except.toBool] using h line hline
  | ok found => exact ⟨found, rfl⟩

/-- Where no line is a fault, all accepted diagnostics are read. -/
theorem result_read {lines : List Text} (accepts : Diagnostic → Bool)
    (hlines : ∀ line ∈ lines, ∃ found, Diagnostic.ofLine line = .ok found) :
    (read accepts lines).result = .ok ((diagnosticsOn lines).filter accepts) := by
  induction lines with
  | nil => rfl
  | cons line rest ih =>
    have hrest := ih fun other hother => hlines other (List.mem_cons_of_mem line hother)
    obtain ⟨found, hfound⟩ := hlines line List.mem_cons_self
    rw [result_read_cons_of_ok hfound, hrest, diagnosticsOn_cons_of_ok hfound,
      List.filter_append]
    rfl

/-- A diagnostic is kept exactly if the filter accepts it. -/
theorem keep_eq_filter (filter : PathFilter) (diagnostics : List Diagnostic) :
    (keep filter diagnostics).2 = diagnostics.filter filter.accepts := by
  induction diagnostics with
  | nil => rfl
  | cons diagnostic rest ih =>
    by_cases h : filter.accepts diagnostic = true <;> simp [keep, h, ih]

end DiagnosticMarkers.Output
