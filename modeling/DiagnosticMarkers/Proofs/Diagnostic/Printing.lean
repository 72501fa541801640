import DiagnosticMarkers.Proofs.Diagnostic.Reading

/-!
# Writing diagnostics

A diagnostic can be written in many layouts: with or without an end position behind its column,
and with blanks around the line and in front of the word and the text. All of them are read as
the diagnostic, if its path gives no other place to end: no colon of the path has a digit behind
it. Text that looks like a diagnostic of its own does no harm.
-/

namespace DiagnosticMarkers

open Text

/-- What is free in the writing of a diagnostic. -/
structure Layout where
  /-- The blanks in front of the line. -/
  before : Text
  /-- The line and the column of the end, which are written behind a column only. -/
  ends : Option (Digits × Digits)
  /-- The blanks in front of the severity word. -/
  gap : Text
  /-- The blanks in front of the text. -/
  indentation : Text
  /-- The blanks behind the line. -/
  after : Text
  blank_before : ∀ c ∈ before, isBlank c = true
  blank_gap : ∀ c ∈ gap, isBlank c = true
  blank_indentation : ∀ c ∈ indentation, isBlank c = true
  blank_after : ∀ c ∈ after, isBlank c = true
  newline_notMem : '\n' ∉ indentation

/-- The line in which a diagnostic is written. -/
def Layout.write (layout : Layout) (diagnostic : Diagnostic) : Text :=
  layout.before ++ diagnostic.path ++
    ':' :: diagnostic.location.display ++
    (if diagnostic.location.col.isSome then Remainder.endText layout.ends else []) ++
    ':' :: layout.gap ++ diagnostic.severity.word.toList ++
    ':' :: layout.indentation ++ diagnostic.text ++ layout.after

/-- A diagnostic that can be told from its line. -/
structure Diagnostic.IsWritable (diagnostic : Diagnostic) : Prop where
  path_ne_nil : diagnostic.path ≠ []
  path_newline : '\n' ∉ diagnostic.path
  path_head : ∀ c ∈ diagnostic.path.head?, isBlank c = false
  /-- No colon of the path has a digit behind it. -/
  path_colon : ∀ front c back, diagnostic.path = front ++ ':' :: c :: back → isDigit c = false
  line_length : (ofInt diagnostic.location.line).length ≤ 4300
  col_length : ∀ col ∈ diagnostic.location.col, (ofInt col).length ≤ 4300
  text_trim : trim diagnostic.text = diagnostic.text
  text_newline : '\n' ∉ diagnostic.text

def Digits.ofNat (n : Nat) : Digits :=
  ⟨Text.ofNat n, Nat.toDigits_ne_nil, fun _ => isDecimal_of_mem_ofNat⟩

theorem Digits.value_ofNat_toNat {n : Int} (hn : 1 ≤ n) : (ofNat n.toNat).value = n := by
  rw [value, ← decimalValue_eq_ofDigits (all_decimal _), ofNat, decimalValue_ofNat]
  exact Int.toNat_of_nonneg (by omega)

theorem Severity.word_injective {severity other : Severity}
    (h : severity.word.toList = other.word.toList) : severity = other := by
  have hread := congrArg ofWord? h
  rw [ofWord?_word, ofWord?_word] at hread
  exact Option.some.inj hread

/-- The text of a remainder begins with a colon and a digit. -/
theorem Remainder.exists_text_eq (remainder : Remainder) :
    ∃ c rest, remainder.text = ':' :: c :: rest ∧ isDigit c = true := by
  obtain ⟨c, digits, hdigits⟩ := List.exists_cons_of_ne_nil remainder.line.ne_nil
  refine ⟨c, digits ++ (colText remainder.col ++ remainder.body.text), ?_, ?_⟩
  · simp [text, Digits.mark, hdigits]
  · exact remainder.line.isDigit_of_mem (by simp [hdigits])

namespace Factorization

/-- A path is the shortest one if no colon in it has a digit behind it. -/
theorem isShortest_of_colon (factorization : Factorization) (hcolon : ∀ front c back,
    factorization.path = front ++ ':' :: c :: back → isDigit c = false) :
    factorization.IsShortest factorization.text := by
  refine ⟨rfl, fun other hother => ?_⟩
  obtain ⟨d, tail, hrest, -⟩ := factorization.remainder.exists_text_eq
  obtain ⟨c, rest, hotherRest, hc⟩ := other.remainder.exists_text_eq
  rcases List.append_eq_append_iff.mp hother with ⟨middle, hpath, hmiddle⟩ | ⟨middle, hpath, -⟩
  · -- The other path is cut off within the path, or at its end.
    rw [hotherRest] at hmiddle
    rcases middle with _ | ⟨colon, _ | ⟨digit, middle⟩⟩
    · simp [hpath]
    · rw [hrest] at hmiddle
      obtain ⟨-, hdigit⟩ := List.cons.inj hmiddle
      obtain ⟨rfl, -⟩ := List.cons.inj hdigit
      exact absurd hc (by decide)
    · obtain ⟨rfl, hdigit⟩ := List.cons.inj hmiddle
      obtain ⟨rfl, -⟩ := List.cons.inj hdigit
      exact absurd hc (by simp [hcolon _ _ _ hpath])
  · simp [hpath]

variable {factorization : Factorization}

/-- The only diagnostic that can be read is the one with the parts of the line. -/
theorem Decides.eq_ok {diagnostic : Diagnostic}
    {result : Except OverlongNumber (Option Diagnostic)} (h : factorization.Decides result)
    (hnumbers : ∀ digits ∈ factorization.numbers, digits.isOverlong = false)
    (hpath : diagnostic.path = factorization.path)
    (hlocation : diagnostic.location = factorization.location)
    (hseverity : diagnostic.severity.word.toList = factorization.word)
    (htext : IsTrimmed factorization.message diagnostic.text) : result = .ok (some diagnostic) := by
  cases h with
  | unknownWord hword => exact absurd (Severity.mem_words_iff.mpr ⟨_, hseverity⟩) hword
  | overlong hword hdigits =>
    have hlong := List.find?_some hdigits
    rw [hnumbers _ (List.mem_of_find?_eq_some hdigits)] at hlong
    cases hlong
  | zero hword hnumbers hzero =>
    obtain ⟨digits, hdigits, hvalue⟩ := hzero
    exact absurd hvalue (value_ne_zero_of_location hlocation digits hdigits)
  | @diagnostic found hword _ hpositive hpath' hlocation' hseverity' htext' hfields =>
    have hsame : found = diagnostic := by
      have hpaths := hpath'.trans hpath.symm
      have hlocations := hlocation'.trans hlocation.symm
      have hseverities := Severity.word_injective (hseverity'.trans hseverity.symm)
      have htexts := htext'.trim_eq.symm.trans htext.trim_eq
      cases found
      cases diagnostic
      simp_all
    rw [hsame]

end Factorization

namespace Layout

variable (layout : Layout) {diagnostic : Diagnostic} (h : diagnostic.IsWritable)

/-- What stands behind the path, without the blanks behind the line. -/
def remainder : Remainder where
  line := .ofNat diagnostic.location.line.toNat
  col := diagnostic.location.col.map fun col => (.ofNat col.toNat, layout.ends)
  body :=
    { blanks := layout.gap
      word := diagnostic.severity.word.toList
      message := trimEnd (layout.indentation ++ diagnostic.text)
      all_blank := layout.blank_gap
      word_ne_nil := by cases diagnostic.severity <;> decide
      all_letters := List.all_eq_true.mp (by cases diagnostic.severity <;> decide)
      newline_notMem := fun hmem => by
        rcases List.mem_append.mp (mem_of_mem_dropEndWhile hmem) with hmem | hmem
        · exact layout.newline_notMem hmem
        · exact h.text_newline hmem }

/-- The written line, taken apart. -/
def factorization : Factorization where
  path := diagnostic.path
  remainder := layout.remainder h
  path_ne_nil := h.path_ne_nil
  newline_notMem := h.path_newline

theorem positions_eq :
    ':' :: diagnostic.location.display ++
        (if diagnostic.location.col.isSome then Remainder.endText layout.ends else []) =
      (layout.remainder h).line.mark ++ Remainder.colText (layout.remainder h).col := by
  have hline := ofInt_of_one_le diagnostic.one_le_line
  cases hcol : diagnostic.location.col with
  | none =>
    simp [Location.display, hcol, hline, remainder, Digits.mark, Digits.ofNat, Remainder.colText]
  | some col =>
    have hnumeral := ofInt_of_one_le (diagnostic.one_le_col col hcol)
    simp [Location.display, hcol, hline, hnumeral, remainder, Digits.mark, Digits.ofNat,
      Remainder.colText]

/-- Trimming leaves what the line is taken apart into. -/
theorem trim_write : trim (layout.write diagnostic) = (layout.factorization h).text := by
  have hhead : ∀ rest : Text, ∀ c ∈ (diagnostic.path ++ rest).head?, isBlank c = false := by
    intro rest c hc
    obtain ⟨d, path, hpath⟩ := List.exists_cons_of_ne_nil h.path_ne_nil
    refine h.path_head c ?_
    rw [hpath] at hc ⊢
    exact hc
  have hcolon : isBlank ':' = false := by decide
  have hafter : trimEnd (layout.indentation ++ diagnostic.text ++ layout.after) =
      trimEnd (layout.indentation ++ diagnostic.text) :=
    dropEndWhile_append_of_forall layout.blank_after _
  -- The last colon keeps everything in front of it from being trimmed.
  have hwrite : layout.write diagnostic = layout.before ++ (diagnostic.path ++
      (':' :: diagnostic.location.display ++
        (if diagnostic.location.col.isSome then Remainder.endText layout.ends else []) ++
        ':' :: (layout.gap ++ diagnostic.severity.word.toList)) ++
      ':' :: (layout.indentation ++ diagnostic.text ++ layout.after)) := by
    simp [write]
  rw [hwrite, trim, trimStart_append_of_forall_isBlank layout.blank_before, List.append_assoc,
    trimStart_of_head (hhead _), ← List.append_assoc, trimEnd, dropEndWhile_append_cons hcolon,
    ← trimEnd, hafter, layout.positions_eq h]
  simp [Factorization.text, factorization, Remainder.text, Body.text, remainder]

theorem location_factorization : diagnostic.location = (layout.factorization h).location := by
  obtain ⟨path, ⟨line, col⟩, severity, text, hline, hcol⟩ := diagnostic
  have hlineValue := Digits.value_ofNat_toNat hline
  cases col with
  | none => simp [Factorization.location, factorization, remainder, hlineValue]
  | some col =>
    have hcolValue := Digits.value_ofNat_toNat (hcol col rfl)
    simp [Factorization.location, factorization, remainder, hlineValue, hcolValue]

theorem isOverlong_factorization :
    ∀ digits ∈ (layout.factorization h).numbers, digits.isOverlong = false := by
  have hnumber : ∀ n : Int, 1 ≤ n → (ofInt n).length ≤ 4300 →
      (Digits.ofNat n.toNat).isOverlong = false := by
    intro n hn hlength
    rw [ofInt_of_one_le hn] at hlength
    exact decide_eq_false (Nat.not_lt.mpr hlength)
  intro digits hdigits
  rcases List.mem_cons.mp hdigits with rfl | hdigits
  · exact hnumber _ diagnostic.one_le_line h.line_length
  · simp only [factorization, remainder, Option.map_map, Option.mem_toList,
      Option.map_eq_some_iff] at hdigits
    obtain ⟨col, hcol, rfl⟩ := hdigits
    exact hnumber col (diagnostic.one_le_col col hcol) (h.col_length col hcol)

theorem isTrimmed_message :
    IsTrimmed (layout.factorization h).message diagnostic.text := by
  have htrim : trim (trimEnd (layout.indentation ++ diagnostic.text)) = diagnostic.text := by
    rw [trimEnd, trim_dropEndWhile fun _ hc => hc, trim,
      trimStart_append_of_forall_isBlank layout.blank_indentation]
    exact h.text_trim
  have htrimmed := isTrimmed_trim (trimEnd (layout.indentation ++ diagnostic.text))
  rwa [htrim] at htrimmed

end Layout

namespace Diagnostic

/-- What is written is read again: in every layout the line of a diagnostic gives the diagnostic
itself. -/
theorem ofLine_write {diagnostic : Diagnostic} (h : diagnostic.IsWritable) (layout : Layout) :
    ofLine (layout.write diagnostic) = .ok (some diagnostic) := by
  have hshortest : (layout.factorization h).IsShortest (trim (layout.write diagnostic)) := by
    rw [layout.trim_write h]
    exact (layout.factorization h).isShortest_of_colon h.path_colon
  exact (decides_ofLine hshortest).eq_ok (layout.isOverlong_factorization h) rfl
    (layout.location_factorization h) rfl (layout.isTrimmed_message h)

/-- A path with a drive letter, end positions in other digits, a newline in front of the word, and
a text that looks like a diagnostic. -/
theorem ofLine_write_drive_path :
    let diagnostic : Diagnostic :=
      ⟨"C:\\pkg\\mod.py".toList, ⟨12, some 3⟩, .note, "x.py:1: error: inner".toList, by decide,
        by decide⟩
    let layout : Layout :=
      { before := ['\t']
        ends := some (⟨['٣'], by decide, isDecimal_of_all (by decide)⟩,
          ⟨['0', '4'], by decide, isDecimal_of_all (by decide)⟩)
        gap := [' ', '\n']
        indentation := [' ', ' ']
        after := ['\r']
        blank_before := List.all_eq_true.mp (by decide)
        blank_gap := List.all_eq_true.mp (by decide)
        blank_indentation := List.all_eq_true.mp (by decide)
        blank_after := List.all_eq_true.mp (by decide)
        newline_notMem := by decide }
    let line : Text := "\tC:\\pkg\\mod.py:12:3:٣:04: \nnote:  x.py:1: error: inner\r".toList
    diagnostic.IsWritable ∧ layout.write diagnostic = line ∧
      ofLine line = .ok (some diagnostic) := by
  intro diagnostic layout line
  have hhead : diagnostic.path.head? = some 'C' := by decide
  have hcolons : ∀ i < diagnostic.path.length, diagnostic.path[i]? = some ':' →
      (diagnostic.path[i + 1]?).any isDigit = false := by decide +kernel
  have hwritable : diagnostic.IsWritable := by
    refine ⟨by decide, by decide, ?_, fun front c back hpath => ?_, by decide, ?_, by decide,
      by decide⟩
    · rw [hhead]
      rintro c ⟨⟩
      decide
    · have hnext := hcolons front.length (by simp [hpath]) (by simp [hpath])
      simpa [hpath] using hnext
    · rintro col ⟨⟩
      decide
  have hline : layout.write diagnostic = line := by decide +kernel
  refine ⟨hwritable, hline, ?_⟩
  rw [← hline]
  exact ofLine_write hwritable layout

end Diagnostic

end DiagnosticMarkers
