import DiagnosticMarkers.Path.Filter
import DiagnosticMarkers.Proofs.Text.Pieces
import DiagnosticMarkers.Proofs.Text.Trim

/-!
# The parts of a written path

Both slashes part the names of a path, and neither is a blank. So the parts of a path that is put
together at a slash are the parts of both, and names written with slashes between them are found
again, whichever slash stands between any two of them.
-/

namespace DiagnosticMarkers.Path

open Text

/-- The two characters that stand between names. -/
def IsSeparator (c : Char) : Prop :=
  c = '/' ∨ c = '\\'

/-- The texts between the separators of a path, blanks around it included. -/
def pieces (text : Text) : List Text :=
  cutAt '/' (substitute '\\' '/' text)

theorem parts_eq_pieces (path : Text) : parts path = pieces (trim path) := rfl

theorem IsSeparator.isBlank_eq_false {c : Char} (hc : IsSeparator c) : isBlank c = false := by
  rcases hc with rfl | rfl
  · decide
  · decide

theorem substitute_of_notMem {old : Char} {text : Text} (h : old ∉ text) (new : Char) :
    substitute old new text = text := by
  have hstays : ∀ c ∈ text, (if c = old then new else c) = id c := fun c hc =>
    if_neg fun hold : c = old => h (hold ▸ hc)
  rw [substitute, List.map_congr_left hstays, List.map_id]

theorem notMem_substitute {old new : Char} (h : new ≠ old) (text : Text) :
    old ∉ substitute old new text := by
  intro hmem
  obtain ⟨c, -, hc⟩ := List.mem_map.mp hmem
  by_cases hold : c = old
  · exact h ((if_pos hold).symm.trans hc)
  · exact hold ((if_neg hold).symm.trans hc)

theorem pieces_append {c : Char} (hc : IsSeparator c) (text rest : Text) :
    pieces (text ++ c :: rest) = pieces text ++ pieces rest := by
  have hslash : (if c = '\\' then '/' else c) = '/' := by
    rcases hc with rfl | rfl
    · rfl
    · rfl
  rw [pieces, substitute, List.map_append, List.map_cons, hslash, cutAt_append]
  rfl

/-- No part holds a separator. -/
theorem separator_notMem_of_mem_parts {path part : Text} (hpart : part ∈ parts path) :
    '/' ∉ part ∧ '\\' ∉ part :=
  ⟨notMem_of_mem_cutAt hpart,
    fun h => notMem_substitute (by decide) _ (mem_of_mem_cutAt hpart h)⟩

/-- Where a path without blanks around it goes on with such a path, the parts of both follow. -/
theorem parts_append {path inner : Text} (hpath : trim path = path) (hinner : trim inner = inner) :
    parts (path ++ '/' :: inner) = parts path ++ parts inner := by
  have hslash : IsSeparator '/' := .inl rfl
  rw [parts_eq_pieces, trim_append_cons hslash.isBlank_eq_false, trimStart_of_trim_eq hpath,
    trimEnd_of_trim_eq hinner, pieces_append hslash, parts_eq_pieces, parts_eq_pieces, hpath,
    hinner]

/-- What is no blank may be replaced before trimming or after it. -/
theorem trim_substitute {old new : Char} (hold : isBlank old = false)
    (hnew : isBlank new = false) (text : Text) :
    trim (substitute old new text) = substitute old new (trim text) := by
  have hblank : (isBlank ∘ fun c => if c = old then new else c) = isBlank := by
    funext c
    by_cases hc : c = old
    · simp [hc, hold, hnew]
    · simp [hc]
  unfold trim trimEnd trimStart dropEndWhile substitute
  rw [List.dropWhile_map, hblank, ← List.map_reverse, List.dropWhile_map, hblank,
    List.map_reverse]

/-- It does not matter which of the two slashes stands anywhere. -/
theorem parts_of_substitute_eq {path other : Text}
    (h : substitute '\\' '/' path = substitute '\\' '/' other) : parts path = parts other := by
  have htrim := congrArg trim h
  rw [trim_substitute (by decide) (by decide), trim_substitute (by decide) (by decide)] at htrim
  rw [parts, parts, htrim]

/-- The text writes the names one after the other, with some separator between any two. -/
inductive Spells : List Text → Text → Prop
  | nil : Spells [] []
  | single (name : Text) : Spells [name] name
  | cons (name : Text) {next : Text} {names : List Text} {separator : Char} {text : Text}
      (hseparator : IsSeparator separator) (htext : Spells (next :: names) text) :
      Spells (name :: next :: names) (name ++ separator :: text)

namespace Spells

variable {names : List Text} {text : Text}

theorem joinWith (names : List Text) : Spells names (joinWith ['/'] names) := by
  induction names with
  | nil => exact .nil
  | cons name names ih =>
    cases names with
    | nil => exact .single name
    | cons next names =>
      rw [Text.joinWith, List.append_assoc]
      · exact .cons name (.inl rfl) ih
      · exact List.cons_ne_nil next names

theorem pieces_eq (h : Spells names text) (hne : names ≠ [])
    (hnames : ∀ name ∈ names, '/' ∉ name ∧ '\\' ∉ name) : pieces text = names := by
  have hsingle : ∀ name : Text, '/' ∉ name ∧ '\\' ∉ name → pieces name = [name] := by
    rintro name ⟨hslash, hback⟩
    rw [pieces, substitute_of_notMem hback, cutAt_of_notMem hslash]
  induction h with
  | nil => exact absurd rfl hne
  | single name => exact hsingle name (hnames name List.mem_cons_self)
  | cons name hseparator htext ih =>
    obtain ⟨hname, hrest⟩ := List.forall_mem_cons.mp hnames
    rw [pieces_append hseparator, hsingle name hname, ih (List.cons_ne_nil _ _) hrest]
    rfl

/-- Names without blanks around them are written without blanks around them. -/
theorem trim_eq (h : Spells names text) (hnames : ∀ name ∈ names, trim name = name) :
    trim text = text := by
  induction h with
  | nil => rfl
  | single name => exact hnames name List.mem_cons_self
  | cons name hseparator htext ih =>
    obtain ⟨hname, hrest⟩ := List.forall_mem_cons.mp hnames
    rw [trim_append_cons hseparator.isBlank_eq_false, trimStart_of_trim_eq hname,
      trimEnd_of_trim_eq (ih hrest)]

end Spells

end DiagnosticMarkers.Path
