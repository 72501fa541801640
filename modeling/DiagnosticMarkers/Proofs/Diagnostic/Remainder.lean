import DiagnosticMarkers.Diagnostic.Line
import DiagnosticMarkers.Proofs.Text.Digits
import Mathlib.Data.List.TakeWhile

/-!
# What stands behind the path

Behind the path of a diagnostic line stand a line, a column and an end position that may be
missing, a severity word and a message. A remainder is read from its text, and nothing else
is: `afterPath?` succeeds exactly on the texts of remainders. Two remainders never have the
same text.
-/

namespace DiagnosticMarkers

open Text

/-- Decimal digits of any scripts, at least one. -/
@[ext]
structure Digits where
  text : Text
  ne_nil : text ≠ []
  all_decimal : ∀ c ∈ text, IsDecimal c

theorem Digits.isDigit_of_mem (digits : Digits) {c : Char} (hc : c ∈ digits.text) :
    isDigit c = true :=
  isDigit_iff.mpr (digits.all_decimal c hc)

/-- The digits behind a colon. -/
def Digits.mark (digits : Digits) : Text :=
  ':' :: digits.text

/-- What stands behind the positions on a diagnostic line. -/
@[ext]
structure Body where
  blanks : Text
  word : Text
  message : Text
  all_blank : ∀ c ∈ blanks, isBlank c = true
  word_ne_nil : word ≠ []
  all_letters : ∀ c ∈ word, c.isAlpha = true
  newline_notMem : '\n' ∉ message

def Body.text (body : Body) : Text :=
  ':' :: (body.blanks ++ (body.word ++ ':' :: body.message))

/-- What stands behind the path on a diagnostic line. -/
@[ext]
structure Remainder where
  line : Digits
  /-- The column, and behind it the line and the column of the end. -/
  col : Option (Digits × Option (Digits × Digits))
  body : Body

namespace Remainder

/-- The end position, if there is one. -/
def endText : Option (Digits × Digits) → Text
  | none => []
  | some (line, col) => line.mark ++ col.mark

/-- The column with the end position, if there is one. -/
def colText : Option (Digits × Option (Digits × Digits)) → Text
  | none => []
  | some (col, ends) => col.mark ++ endText ends

def text (remainder : Remainder) : Text :=
  remainder.line.mark ++ (colText remainder.col ++ remainder.body.text)

/-- What is kept of a remainder when it is read. -/
def written (remainder : Remainder) : Diagnostic.Written where
  line := remainder.line.text
  col := remainder.col.map fun col => col.1.text
  word := remainder.body.word
  message := remainder.body.message

end Remainder

namespace Diagnostic

variable {run rest : Text} {cls : Char → Bool} {next : Char}

theorem takeWhile_run (hrun : ∀ c ∈ run, cls c = true) (hnext : cls next = false)
    (rest : Text) : (run ++ next :: rest).takeWhile cls = run := by
  rw [List.takeWhile_append_of_pos hrun, List.takeWhile_cons_of_neg (by simp [hnext])]
  simp

theorem dropWhile_run (hrun : ∀ c ∈ run, cls c = true) (hnext : cls next = false)
    (rest : Text) : (run ++ next :: rest).dropWhile cls = next :: rest := by
  rw [List.dropWhile_append_of_pos hrun, List.dropWhile_cons_of_neg (by simp [hnext])]

/-- Digits up to the next colon are read as a whole. -/
theorem colonNumber?_mark (digits : Digits) (hrest : rest.head? = some ':') :
    colonNumber? (digits.mark ++ rest) = some (digits.text, rest) := by
  obtain ⟨rest, rfl⟩ := List.head?_eq_some_iff.mp hrest
  have hcolon : isDigit ':' = false := by decide
  have htake := takeWhile_run (fun _ => digits.isDigit_of_mem) hcolon rest
  have hdrop := dropWhile_run (fun _ => digits.isDigit_of_mem) hcolon rest
  simp [colonNumber?, Digits.mark, htake, hdrop, digits.ne_nil]

/-- Where a number can be read, there are digits behind a colon. -/
theorem exists_digits_of_colonNumber? {text digits : Text}
    (h : colonNumber? text = some (digits, rest)) :
    ∃ number : Digits, number.text = digits ∧ number.mark ++ rest = text := by
  unfold colonNumber? at h
  split at h
  · next body =>
    split at h
    · cases h
    · next hne =>
      obtain ⟨rfl, rfl⟩ := Prod.mk.inj (Option.some.inj h)
      have hdigits : ∀ c ∈ body.takeWhile isDigit, IsDecimal c := fun _ hc =>
        isDigit_iff.mp (List.mem_takeWhile_imp hc)
      refine ⟨⟨body.takeWhile isDigit, by simpa using hne, hdigits⟩, rfl, ?_⟩
      simp [Digits.mark]
  · cases h

theorem head?_mark (digits : Digits) (rest : Text) :
    (digits.mark ++ rest).head? = some ':' := rfl

variable (body : Body)

theorem head?_body : body.text.head? = some ':' := rfl

theorem head?_endText (ends : Option (Digits × Digits)) :
    (Remainder.endText ends ++ body.text).head? = some ':' := by
  cases ends <;> rfl

theorem head?_colText (col : Option (Digits × Option (Digits × Digits))) :
    (Remainder.colText col ++ body.text).head? = some ':' := by
  cases col <;> rfl

/-- No number is read from blanks and a word. -/
theorem colonNumber?_body : colonNumber? body.text = none := by
  have hhead : (body.blanks ++ (body.word ++ ':' :: body.message)).takeWhile
      isDigit = [] := by
    cases hblanks : body.blanks with
    | nil =>
      obtain ⟨c, word, hword⟩ := List.exists_cons_of_ne_nil body.word_ne_nil
      have hc := body.all_letters c (by simp [hword])
      simp [hword, isDigit_eq_false_of_isAlpha hc]
    | cons c blanks =>
      have hc := body.all_blank c (by simp [hblanks])
      simp [isDigit_eq_false_of_isBlank hc]
  simp [colonNumber?, Body.text, hhead]

/-- An end position is dropped as a whole. -/
theorem dropEnd_endText (ends : Option (Digits × Digits)) :
    dropEnd (Remainder.endText ends ++ body.text) = body.text := by
  cases ends with
  | none => simp [Remainder.endText, dropEnd, colonNumber?_body]
  | some ends =>
    have hcol := colonNumber?_mark ends.2 (head?_body body)
    have hline := colonNumber?_mark ends.1 (head?_mark ends.2 body.text)
    simp [Remainder.endText, dropEnd, hline, hcol]

/-- The column is read with the end position behind it. -/
theorem column_colText (col : Option (Digits × Option (Digits × Digits))) :
    column (Remainder.colText col ++ body.text) =
      (col.map fun col => col.1.text, body.text) := by
  cases col with
  | none => simp [Remainder.colText, column, colonNumber?_body]
  | some col =>
    have hcol := colonNumber?_mark col.1 (head?_endText body col.2)
    simp [Remainder.colText, column, hcol, dropEnd_endText]

theorem wordAndMessage?_body :
    wordAndMessage? body.text = some (body.word, body.message) := by
  obtain ⟨c, word, hword⟩ := List.exists_cons_of_ne_nil body.word_ne_nil
  have hletters := body.all_letters
  have hblank := isBlank_eq_false_of_isAlpha (hletters c (by simp [hword]))
  have hcolon : Char.isAlpha ':' = false := by decide
  have hbody : (body.blanks ++ (body.word ++ ':' :: body.message)).dropWhile
      isBlank = body.word ++ ':' :: body.message := by
    rw [hword, List.cons_append]
    exact dropWhile_run body.all_blank hblank _
  have htake := takeWhile_run hletters hcolon body.message
  have hdrop := dropWhile_run hletters hcolon body.message
  simp only [wordAndMessage?, Body.text, hbody, htake, hdrop]
  simp [hword, body.newline_notMem]

/-- A remainder is read from its text. -/
theorem afterPath?_text (remainder : Remainder) :
    afterPath? remainder.text = some remainder.written := by
  have hline := colonNumber?_mark remainder.line (head?_colText remainder.body remainder.col)
  simp [afterPath?, Remainder.text, Remainder.written, hline, column_colText,
    wordAndMessage?_body]

/-- What is dropped as an end position is one. -/
theorem exists_ends (rest : Text) : ∃ ends, Remainder.endText ends ++ dropEnd rest = rest := by
  unfold dropEnd
  split
  · exact ⟨none, rfl⟩
  next _ afterLine hline =>
  split
  · exact ⟨none, rfl⟩
  next _ afterCol hcol =>
  obtain ⟨line, _, hafterLine⟩ := exists_digits_of_colonNumber? hline
  obtain ⟨col, _, hafterCol⟩ := exists_digits_of_colonNumber? hcol
  exact ⟨some (line, col), by rw [Remainder.endText, List.append_assoc, hafterCol, hafterLine]⟩

/-- What is read as a column is one, with what is dropped behind it. -/
theorem exists_col (rest : Text) : ∃ col : Option (Digits × Option (Digits × Digits)),
    (column rest).1 = col.map (fun col => col.1.text) ∧
      Remainder.colText col ++ (column rest).2 = rest := by
  unfold column
  split
  · exact ⟨none, rfl, rfl⟩
  next digits afterCol hcol =>
  obtain ⟨col, hdigits, hafterCol⟩ := exists_digits_of_colonNumber? hcol
  obtain ⟨ends, hends⟩ := exists_ends afterCol
  refine ⟨some (col, ends), by simp [hdigits], ?_⟩
  rw [Remainder.colText, List.append_assoc, hends, hafterCol]

/-- Where a word and a message can be read, there is a body. -/
theorem exists_body_of_wordAndMessage? {text word message : Text}
    (h : wordAndMessage? text = some (word, message)) :
    ∃ body : Body, body.text = text ∧ body.word = word ∧ body.message = message := by
  unfold wordAndMessage? at h
  split at h
  · next rest =>
    dsimp only at h
    split at h
    · cases h
    · next _ _ message hrest hne =>
      split at h
      · cases h
      · next hnewline =>
        obtain ⟨rfl, rfl⟩ := Prod.mk.inj (Option.some.inj h)
        refine ⟨⟨rest.takeWhile isBlank, (rest.dropWhile isBlank).takeWhile Char.isAlpha, message,
          fun _ => List.mem_takeWhile_imp, hne, fun _ => List.mem_takeWhile_imp,
          by simpa using hnewline⟩, ?_, rfl, rfl⟩
        rw [Body.text, ← hrest, List.takeWhile_append_dropWhile, List.takeWhile_append_dropWhile]
    · cases h
  · cases h

/-- A remainder is all that can be read behind a path. -/
theorem exists_remainder_of_afterPath? {written : Written} (h : afterPath? rest = some written) :
    ∃ remainder : Remainder, remainder.text = rest ∧ remainder.written = written := by
  unfold afterPath? at h
  split at h
  · cases h
  next digits afterLine hline =>
  split at h
  · cases h
  next word message hword =>
  obtain ⟨line, rfl, hafterLine⟩ := exists_digits_of_colonNumber? hline
  obtain ⟨body, hbody, rfl, rfl⟩ := exists_body_of_wordAndMessage? hword
  obtain ⟨col, hcol, hafterCol⟩ := exists_col afterLine
  refine ⟨⟨line, col, body⟩, ?_, ?_⟩
  · rw [Remainder.text, hbody, hafterCol, hafterLine]
  · rw [← Option.some.inj h, Remainder.written, hcol]

/-- Digits up to the next colon are told by the text. -/
theorem mark_append_inj {digits other : Digits} {rest otherRest : Text}
    (hrest : rest.head? = some ':') (hother : otherRest.head? = some ':')
    (h : digits.mark ++ rest = other.mark ++ otherRest) : digits = other ∧ rest = otherRest := by
  have hread := (colonNumber?_mark digits hrest).symm.trans
    ((congrArg colonNumber? h).trans (colonNumber?_mark other hother))
  obtain ⟨hdigits, hrests⟩ := Prod.mk.inj (Option.some.inj hread)
  exact ⟨Digits.ext hdigits, hrests⟩

/-- Digits never stand where a body begins. -/
theorem body_ne_mark_append (body : Body) (digits : Digits) (hrest : rest.head? = some ':') :
    body.text ≠ digits.mark ++ rest := by
  intro h
  have hread := (colonNumber?_body body).symm.trans
    ((congrArg colonNumber? h).trans (colonNumber?_mark digits hrest))
  cases hread

theorem endText_append_inj {ends others : Option (Digits × Digits)} {body other : Body}
    (h : Remainder.endText ends ++ body.text = Remainder.endText others ++ other.text) :
    ends = others ∧ body.text = other.text := by
  rcases ends with _ | ⟨line, col⟩ <;> rcases others with _ | ⟨otherLine, otherCol⟩ <;>
    simp only [Remainder.endText, List.nil_append, List.append_assoc] at h
  · exact ⟨rfl, h⟩
  · exact absurd h (body_ne_mark_append body _ (head?_mark _ _))
  · exact absurd h.symm (body_ne_mark_append other _ (head?_mark _ _))
  · obtain ⟨rfl, hcol⟩ := mark_append_inj (head?_mark _ _) (head?_mark _ _) h
    obtain ⟨rfl, hbody⟩ := mark_append_inj (head?_body body) (head?_body other) hcol
    exact ⟨rfl, hbody⟩

theorem colText_append_inj {col others : Option (Digits × Option (Digits × Digits))}
    {body other : Body}
    (h : Remainder.colText col ++ body.text = Remainder.colText others ++ other.text) :
    col = others ∧ body.text = other.text := by
  rcases col with _ | ⟨col, ends⟩ <;> rcases others with _ | ⟨otherCol, otherEnds⟩ <;>
    simp only [Remainder.colText, List.nil_append, List.append_assoc] at h
  · exact ⟨rfl, h⟩
  · exact absurd h (body_ne_mark_append body _ (head?_endText other _))
  · exact absurd h.symm (body_ne_mark_append other _ (head?_endText body _))
  · obtain ⟨rfl, hends⟩ := mark_append_inj (head?_endText body _) (head?_endText other _) h
    obtain ⟨rfl, hbody⟩ := endText_append_inj hends
    exact ⟨rfl, hbody⟩

theorem body_text_injective {body other : Body} (h : body.text = other.text) : body = other := by
  have hread := (wordAndMessage?_body body).symm.trans
    ((congrArg wordAndMessage? h).trans (wordAndMessage?_body other))
  obtain ⟨hword, hmessage⟩ := Prod.mk.inj (Option.some.inj hread)
  have hblanks : body.blanks = other.blanks := by
    simpa [Body.text, hword, hmessage] using h
  exact Body.ext hblanks hword hmessage

/-- No two remainders have the same text: behind the path a line is read in one way. -/
theorem remainder_text_injective {remainder other : Remainder}
    (h : remainder.text = other.text) : remainder = other := by
  obtain ⟨hline, hrest⟩ := mark_append_inj (head?_colText _ _) (head?_colText _ _) h
  obtain ⟨hcol, hbody⟩ := colText_append_inj hrest
  exact Remainder.ext hline hcol (body_text_injective hbody)

end Diagnostic

end DiagnosticMarkers
