import DiagnosticMarkers.Output
import DiagnosticMarkers.Proofs.Analysis.Session
import DiagnosticMarkers.Proofs.Text.Pieces
import DiagnosticMarkers.Proofs.Text.Trim
import Mathlib.Data.List.Forall2

/-!
# The two forms of output

The same lines can be given as one text, with any breaks between them, or as a list, with any
carriage returns and newlines left at their ends. The lines that are read back may differ, since
empty lines can be lost in the text. But blank lines leave no trace: they hold no diagnostic, and
they are passed over without an event. So it makes no difference to an analysis which form it is
given: the markers or the error, the events, the accesses to the document and what is left behind
are the same.
-/

namespace DiagnosticMarkers.Output

open Text

/-- Lines written as one text. Behind each line stands a break, which the last may lack. -/
inductive WrittenWhole : List Text → Text → Prop
  | nil : WrittenWhole [] []
  | last (line : Text) : WrittenWhole [line] line
  | line (line mark : Text) (hmark : mark ∈ lineBreaks) {more : List Text} {text : Text}
      (h : WrittenWhole more text) : WrittenWhole (line :: more) (line ++ mark ++ text)

/-- Lines given as a list, each with a run of carriage returns and newlines behind it. -/
def WrittenApart (lines items : List Text) : Prop :=
  List.Forall₂ (fun line item => ∃ run : Text, (∀ c ∈ run, c = '\r' ∨ c = '\n') ∧
    item = line ++ run) lines items

variable {given items : List Text} {text : Text}

theorem lines_items (hgiven : ∀ line ∈ given, ∀ c ∈ line, isLineBreak c = false)
    (h : WrittenApart given items) : (Output.items items).lines = given := by
  induction h with
  | nil => rfl
  | @cons line item given items hitem _ ih =>
    obtain ⟨run, hrun, rfl⟩ := hitem
    have hrest := ih fun other hother => hgiven other (List.mem_cons_of_mem _ hother)
    have hline := hgiven line List.mem_cons_self
    have hend : dropLineEnd (line ++ run) = line := by
      rw [dropLineEnd, dropEndWhile_append_of_forall (by simpa using hrun)]
      refine dropEndWhile_of_forall fun c hc => ?_
      have hbreak := hline c hc
      simp only [Bool.or_eq_false_iff, beq_eq_false_iff_ne]
      constructor <;> rintro rfl <;> exact absurd hbreak (by decide)
    exact List.cons_eq_cons.mpr ⟨hend, hrest⟩

/-- Behind a break the text goes on with its next line, unless that is empty. -/
theorem filter_lines_append {line mark : Text} (hline : ∀ c ∈ line, isLineBreak c = false)
    (hmark : mark ∈ lineBreaks) (text : Text) :
    (Text.lines (line ++ mark ++ text)).filter (fun line => !allBlank line) =
      (line :: Text.lines text).filter fun line => !allBlank line := by
  rw [List.append_assoc]
  rcases eq_pair_or_singleton hmark with rfl | ⟨c, hc, rfl⟩
  · have hbreak : Text.lines ('\r' :: '\n' :: text) = [] :: Text.lines text := rfl
    rw [List.cons_append, List.singleton_append, lines_append hline hbreak]
  · rcases lines_break hc text with hbreak | ⟨tail, rfl, hbreak⟩
    · rw [List.singleton_append, lines_append hline hbreak]
    · -- The newline of an empty line is taken along by the carriage return in front of it.
      have htail : Text.lines ('\n' :: tail) = [] :: Text.lines tail := rfl
      rw [List.singleton_append, lines_append hline hbreak, htail, List.filter_cons,
        List.filter_cons]
      rfl

/-- The lines of the text are the given ones, but for empty lines. -/
theorem filter_lines_whole (hgiven : ∀ line ∈ given, ∀ c ∈ line, isLineBreak c = false)
    (h : WrittenWhole given text) :
    (Text.lines text).filter (fun line => !allBlank line) =
      given.filter fun line => !allBlank line := by
  induction h with
  | nil => rfl
  | last line =>
    by_cases hne : line = []
    · rw [hne]
      rfl
    · rw [lines_of_forall (hgiven line List.mem_cons_self) hne]
  | line line mark hmark _ ih =>
    have hrest := ih fun other hother => hgiven other (List.mem_cons_of_mem _ hother)
    rw [filter_lines_append (hgiven line List.mem_cons_self) hmark, List.filter_cons,
      List.filter_cons, hrest]

theorem ofLine_of_allBlank {line : Text} (h : allBlank line = true) :
    Diagnostic.ofLine line = .ok none := by
  have hstart : line.dropWhile isBlank = [] :=
    List.dropWhile_eq_nil_iff.mpr (List.all_eq_true.mp h)
  rw [Diagnostic.ofLine, trim, trimStart, hstart]
  rfl

/-- Blank lines leave no trace, not even in the events. -/
theorem read_filter_not_allBlank (accepts : Diagnostic → Bool) (lines : List Text) :
    read accepts (lines.filter fun line => !allBlank line) = read accepts lines := by
  induction lines with
  | nil => rfl
  | cons line rest ih =>
    by_cases h : allBlank line = true
    · simp [read, ofLine_of_allBlank h, h, ih]
    · simp only [List.filter_cons, h, Bool.not_false, if_true, read, ih]

theorem read_whole_eq_items (hgiven : ∀ line ∈ given, ∀ c ∈ line, [c] ∉ lineBreaks)
    (hwhole : WrittenWhole given text) (hitems : WrittenApart given items)
    (accepts : Diagnostic → Bool) :
    read accepts (Output.whole text).lines = read accepts (Output.items items).lines := by
  have hlines : ∀ line ∈ given, ∀ c ∈ line, isLineBreak c = false := fun line hline c hc =>
    Bool.eq_false_iff.mpr (mt isLineBreak_iff.mp (hgiven line hline c hc))
  calc read accepts (Output.whole text).lines
      = read accepts ((Text.lines text).filter fun line => !allBlank line) :=
        (read_filter_not_allBlank accepts _).symm
    _ = read accepts given := by
        rw [filter_lines_whole hlines hwhole, read_filter_not_allBlank]
    _ = read accepts (Output.items items).lines := by rw [lines_items hlines hitems]

end DiagnosticMarkers.Output

namespace DiagnosticMarkers

/-! ## Analyses -/

variable {σ : Type}

theorem Analysis.run_congr {analysis : Analysis σ} {stdout other : Output}
    (h : Output.read analysis.filter.accepts stdout.lines =
      Output.read analysis.filter.accepts other.lines) (stderr : Output) (state : σ) :
    analysis.run stdout stderr state = analysis.run other stderr state := by
  rw [run, run, h]

namespace Session

/-- The same lines, given as one text with any breaks between them and given as a list with any
carriage returns and newlines at their ends, are analysed alike. -/
theorem analyze_whole_eq_items (analysis : Analysis σ) (session : Session σ)
    {given items : List Text} {text : Text}
    (hgiven : ∀ line ∈ given, ∀ c ∈ line, [c] ∉ Text.lineBreaks)
    (hwhole : Output.WrittenWhole given text) (hitems : Output.WrittenApart given items)
    (stderr : Output) :
    session.analyze analysis (.whole text) stderr =
      session.analyze analysis (.items items) stderr := by
  have hread := Output.read_whole_eq_items hgiven hwhole hitems analysis.filter.accepts
  rw [analyze, analyze, Analysis.run_congr hread]

/-- Breaks of several kinds, of which two fall together and one is missing, so that the lists of
lines are not the same. -/
theorem analyze_whole_eq_items_of_mixed_breaks :
    let analysis : Analysis TextBuffer :=
      ⟨TextBuffer.document (some "/pkg/mod.py".toList), {}, none⟩
    let session : Session TextBuffer := { state := .ofText "x = 1".toList }
    let given : List Text := ["mod.py:1: error: boom".toList, [], "mod.py:1: note: why".toList,
      [], "Found 1 error".toList]
    let text : Text := "mod.py:1: error: boom".toList ++ ['\r'] ++ ([] ++ ['\n'] ++
      ("mod.py:1: note: why".toList ++ ['\u2028'] ++ ([] ++ ['\x0b'] ++ "Found 1 error".toList)))
    let items : List Text := ["mod.py:1: error: boom\r\n\n".toList, "\r".toList,
      "mod.py:1: note: why".toList, "\n".toList, "Found 1 error\n\r".toList]
    let found := session.analyze analysis (.whole text) (.whole [])
    Output.WrittenWhole given text ∧ Output.WrittenApart given items ∧
      (Output.whole text).lines ≠ (Output.items items).lines ∧
      session.analyze analysis (.items items) (.whole []) = found ∧
      (found.result.result.toOption.map fun markers => markers.map Marker.message) =
        some ["Mypy: boom\nwhy".toList] ∧
      found.result.events = [.skippedLine "Found 1 error".toList,
        .produced 1 1 (some "/pkg/mod.py".toList)] := by
  intro analysis session given text items found
  have hwhole : Output.WrittenWhole given text :=
    .line _ _ (by decide) (.line _ _ (by decide) (.line _ _ (by decide) (.line _ _ (by decide)
      (.last _))))
  have hitems : Output.WrittenApart given items := by
    refine .cons ⟨['\r', '\n', '\n'], by simp, by decide⟩ (.cons ⟨['\r'], by simp, by decide⟩
      (.cons ⟨[], by simp, by decide⟩ (.cons ⟨['\n'], by simp, by decide⟩
      (.cons ⟨['\n', '\r'], by simp, by decide⟩ .nil))))
  have hgiven : ∀ line ∈ given, ∀ c ∈ line, [c] ∉ Text.lineBreaks := by
    have hall : given.all (fun line => line.all fun c => [c] ∉ Text.lineBreaks) = true := by
      decide +kernel
    simpa only [List.all_eq_true, decide_eq_true_eq] using hall
  refine ⟨hwhole, hitems, by decide +kernel,
    (analyze_whole_eq_items analysis session hgiven hwhole hitems (.whole [])).symm, ?_, ?_⟩
  · decide +kernel
  · decide +kernel

end Session

end DiagnosticMarkers
