import DiagnosticMarkers.Document
import DiagnosticMarkers.Proofs.Document.Steady
import DiagnosticMarkers.Proofs.Text.Pieces
import DiagnosticMarkers.Proofs.Text.Trim
import Mathlib.Data.Nat.Digits.Defs

/-!
# Lines that are given back

A text buffer is set to texts and asked for lines, in any order. Each operation keeps the lines
or replaces them by those of another text, so after any run they are the lines of the text that
was set last. If that text was written line by line, with a newline or a carriage return and a
newline between each two, its lines are the given ones again.
-/

namespace DiagnosticMarkers

/-- A number with at most as many digits as are written can be written. -/
theorem isWritable_of_natAbs_lt {number : Int} (h : number.natAbs < 10 ^ maxDigits) :
    isWritable number = true :=
  decide_eq_true (Nat.toDigits_length 10 number.natAbs maxDigits (by decide) h)

namespace TextBuffer

/-- What ends a line within a text. -/
def lineEnds : List Text := [['\n'], ['\r', '\n']]

/-- A line of a text holds no newline, and no carriage return stands at its end. -/
structure IsLine (line : Text) : Prop where
  newline_notMem : '\n' ∉ line
  getLast?_ne : line.getLast? ≠ some '\r'

/-- Lines written as one text. Between each two stands a line end, behind the last one none. -/
inductive Written : List Text → Text → Prop
  | last (line : Text) : Written [line] line
  | line (line mark : Text) (hmark : mark ∈ lineEnds) {more : List Text} {text : Text}
      (h : Written more text) : Written (line :: more) (line ++ mark ++ text)

/-- The buffer has the given lines, counted from one, and no others. -/
structure GivesBack (given : List Text) (buffer : TextBuffer) : Prop where
  lineCount : buffer.lineCount = given.length
  inside : ∀ (number : Nat) (_ : 1 ≤ number) (_ : number ≤ given.length),
    buffer.line number = .ok given[number - 1]
  outside : ∀ number : Int, number < 1 ∨ given.length < number →
    number.natAbs < 10 ^ maxDigits → buffer.line number = .error (.outside number given.length)

/-- The text that an operation puts into the buffer. -/
def Operation.text? : Operation → Option Text
  | .set text => some text
  | _ => none

variable {line mark text : Text} {given : List Text}

/-- A line end is a newline, perhaps with a carriage return in front of it. -/
theorem eq_append_newline_of_mem_lineEnds (hmark : mark ∈ lineEnds) :
    ∃ returns : Text, mark = returns ++ ['\n'] ∧ ∀ c ∈ returns, c = '\r' := by
  simp only [lineEnds, List.mem_cons, List.not_mem_nil, or_false] at hmark
  rcases hmark with rfl | rfl
  · exact ⟨[], rfl, by simp⟩
  · exact ⟨['\r'], rfl, by simp⟩

theorem IsLine.dropEndWhile_eq (hline : IsLine line) :
    Text.dropEndWhile (· == '\r') line = line := by
  refine Text.dropEndWhile_of_getLast? fun c hc => beq_eq_false_iff_ne.mpr ?_
  rintro rfl
  exact hline.getLast?_ne hc

theorem lines_ofText_of_isLine (hline : IsLine line) : (ofText line).lines = [line] := by
  rw [ofText, Text.cutAt_of_notMem hline.newline_notMem, List.map_singleton,
    hline.dropEndWhile_eq]

/-- Behind a line end the text goes on with its next line. -/
theorem lines_ofText_append (hline : IsLine line) (hmark : mark ∈ lineEnds) (text : Text) :
    (ofText (line ++ mark ++ text)).lines = line :: (ofText text).lines := by
  obtain ⟨returns, rfl, hreturns⟩ := eq_append_newline_of_mem_lineEnds hmark
  have hnewline : '\n' ∉ line ++ returns := by
    intro hmem
    rcases List.mem_append.mp hmem with h | h
    · exact hline.newline_notMem h
    · exact absurd (hreturns _ h) (by decide)
  -- The cut leaves the carriage return of the line end at the line, where it is dropped.
  have hend : Text.dropEndWhile (· == '\r') (line ++ returns) = line := by
    rw [Text.dropEndWhile_append_of_forall fun c hc => beq_iff_eq.mpr (hreturns c hc),
      hline.dropEndWhile_eq]
  have htext : line ++ (returns ++ ['\n']) ++ text = (line ++ returns) ++ '\n' :: text := by simp
  rw [htext, ofText, Text.cutAt_append_cons hnewline, List.map_cons, hend, ofText]

/-- Lines that are written as a text are the lines of that text. -/
theorem lines_ofText_of_written (hgiven : ∀ line ∈ given, IsLine line)
    (h : Written given text) : (ofText text).lines = given := by
  induction h with
  | last line => exact lines_ofText_of_isLine (hgiven line List.mem_cons_self)
  | line line mark hmark _ ih =>
    have hrest := ih fun other hother => hgiven other (List.mem_cons_of_mem _ hother)
    rw [lines_ofText_append (hgiven line List.mem_cons_self) hmark, hrest]

theorem refusal_of_natAbs_lt (buffer : TextBuffer) {number : Int}
    (h : number.natAbs < 10 ^ maxDigits) :
    buffer.refusal number = .outside number buffer.lineCount := by
  rw [refusal, isWritable_of_natAbs_lt h, if_pos rfl]

theorem line_of_le (buffer : TextBuffer) {number : Nat} (hlow : 1 ≤ number)
    (hhigh : number ≤ buffer.lines.length) : buffer.line number = .ok buffer.lines[number - 1] := by
  have hindex : ((number : Int) - 1).toNat = number - 1 := by omega
  have hline : buffer.lines[number - 1]? = some buffer.lines[number - 1] :=
    List.getElem?_eq_getElem (by omega)
  rw [TextBuffer.line, if_neg (by omega), hindex, hline]

/-- Numbers below one do not reach lines from the end. -/
theorem line_of_outside (buffer : TextBuffer) {number : Int}
    (h : number < 1 ∨ buffer.lines.length < number) :
    buffer.line number = .error (buffer.refusal number) := by
  by_cases hlow : number < 1
  · rw [TextBuffer.line, if_pos hlow]
  · have hnone : buffer.lines[(number - 1).toNat]? = none :=
      List.getElem?_eq_none (by omega)
    rw [TextBuffer.line, if_neg hlow, hnone]

/-- A buffer gives back the lines that it holds. -/
theorem givesBack_lines (buffer : TextBuffer) : GivesBack buffer.lines buffer where
  lineCount := rfl
  inside _ hlow hhigh := buffer.line_of_le hlow hhigh
  outside number houtside hdigits := by
    rw [buffer.line_of_outside houtside, buffer.refusal_of_natAbs_lt hdigits]
    rfl

/-- One operation puts its text into the buffer, or leaves the buffer as it is. -/
theorem perform_ofText (text : Text) (operation : Operation) :
    ((ofText text).perform operation).2 = ofText (operation.text?.getD text) := by
  cases operation <;> rfl

theorem performAll_cons (buffer : TextBuffer) (operation : Operation)
    (operations : List Operation) :
    buffer.performAll (operation :: operations) =
      ((buffer.perform operation).1 :: ((buffer.perform operation).2.performAll operations).1,
        ((buffer.perform operation).2.performAll operations).2) :=
  rfl

/-- The buffer holds the text that was set last. -/
theorem performAll_ofText (text : Text) (operations : List Operation) :
    ((ofText text).performAll operations).2 =
      ofText (latest Operation.text? text operations) := by
  induction operations generalizing text with
  | nil => rfl
  | cons operation operations ih =>
    rw [performAll_cons, latest_cons, ← ih, ← perform_ofText]

theorem performAll_append (buffer : TextBuffer) (before later : List Operation) :
    buffer.performAll (before ++ later) =
      ((buffer.performAll before).1 ++ ((buffer.performAll before).2.performAll later).1,
        ((buffer.performAll before).2.performAll later).2) := by
  induction before generalizing buffer with
  | nil => rfl
  | cons operation before ih =>
    simp only [List.cons_append, performAll_cons, ih]

/-- Reading a line adds its answer and changes nothing behind it. -/
theorem performAll_line (buffer : TextBuffer) (number : Int) (later : List Operation) :
    buffer.performAll (.line number :: later) =
      (.line (buffer.line number) :: (buffer.performAll later).1, (buffer.performAll later).2) :=
  buffer.performAll_cons (.line number) later

/-- Whatever is done to a buffer, it gives back the lines as which the text that was set last is
written. Reading a line, whether there is one or not, answers from these lines, and what is
answered before and after is what would be answered without it. -/
theorem performAll_gives_back (start : Text) (before : List Operation)
    (hgiven : ∀ line ∈ given, IsLine line)
    (hwritten : Written given (latest Operation.text? start before)) :
    let reached := (ofText start).performAll before
    GivesBack given reached.2 ∧
      ∀ (number : Int) (later : List Operation),
        let rest := reached.2.performAll later
        (ofText start).performAll (before ++ later) = (reached.1 ++ rest.1, rest.2) ∧
          (ofText start).performAll (before ++ .line number :: later) =
            (reached.1 ++ .line (reached.2.line number) :: rest.1, rest.2) := by
  intro reached
  have hlines : reached.2.lines = given := by
    rw [performAll_ofText, lines_ofText_of_written hgiven hwritten]
  refine ⟨hlines ▸ reached.2.givesBack_lines, fun number later => ⟨?_, ?_⟩⟩
  · exact performAll_append _ before later
  · rw [performAll_append, performAll_line]

/-- Both line ends, a carriage return within a line, empty lines and an empty last line behind a
newline, after lines that are not there were asked for. -/
theorem performAll_gives_back_of_mixed_ends :
    let given : List Text := ["x\ry".toList, [], "z".toList, []]
    let text : Text := "x\ry\r\n\nz\n".toList
    let before : List Operation := [.line 1, .set text, .line 0, .line (-1)]
    let reached := (ofText "old".toList).performAll before
    Written given text ∧ (∀ line ∈ given, IsLine line) ∧
      reached.2.lineCount = 4 ∧ reached.2.line 1 = .ok "x\ry".toList ∧
      reached.2.line 4 = .ok [] ∧ reached.2.line 5 = .error (.outside 5 4) ∧
      reached.1 = [.line (.ok "old".toList), .replaced, .line (.error (.outside 0 4)),
        .line (.error (.outside (-1) 4))] ∧
      ((ofText "old".toList).performAll (before ++ [.line 5, .line 3])).1 =
        reached.1 ++ [.line (.error (.outside 5 4)), .line (.ok "z".toList)] := by
  intro given text before reached
  have hwritten : Written given text :=
    .line _ ['\r', '\n'] (by decide) (.line _ ['\n'] (by decide) (.line _ ['\n'] (by decide)
      (.last _)))
  have hgiven : ∀ line ∈ given, IsLine line := by
    have hall : ∀ line ∈ given, '\n' ∉ line ∧ line.getLast? ≠ some '\r' := by decide +kernel
    exact fun line hline => ⟨(hall line hline).1, (hall line hline).2⟩
  obtain ⟨hback, hlater⟩ := performAll_gives_back "old".toList before hgiven hwritten
  have hdigits : (5 : Int).natAbs < 10 ^ maxDigits :=
    (by decide : 5 < 10).trans_le (Nat.le_self_pow (by decide) 10)
  have hfive : reached.2.line 5 = .error (.outside 5 4) :=
    hback.outside 5 (.inr (by decide)) hdigits
  refine ⟨hwritten, hgiven, hback.lineCount, hback.inside 1 (by decide) (by decide),
    hback.inside 4 (by decide) (by decide), hfive, rfl, ?_⟩
  rw [(hlater 5 [.line 3]).2]
  exact congrArg (reached.1 ++ [.line ·, .line (.ok "z".toList)]) hfive

end TextBuffer

end DiagnosticMarkers
