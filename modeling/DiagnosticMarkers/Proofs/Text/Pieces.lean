import DiagnosticMarkers.Text.Basic

/-!
# Lines and pieces of a text

A text is cut at line breaks of ten characters and of one pair. A line without any of them is
found again when a break is written behind it. Where a carriage return ends a line and the next
line is empty and ends with a newline, the two make one break, and the empty line is lost.

Joining undoes cutting for every text. Here cutting undoes joining, for parts in which the
separator does not occur.
-/

namespace DiagnosticMarkers.Text

/-! ## Lines and their breaks -/

/-- The breaks at which a text is cut into lines. -/
def lineBreaks : List Text := [
  ['\n'], ['\r', '\n'], ['\r'], ['\x0b'], ['\x0c'], ['\x1c'], ['\x1d'], ['\x1e'], ['\u0085'],
  ['\u2028'], ['\u2029']]

/-- The characters that end lines are the breaks of one character. -/
theorem isLineBreak_iff {c : Char} : isLineBreak c = true ↔ [c] ∈ lineBreaks := by
  have hcode : ∀ n : Nat, c.toNat = n → c = Char.ofNat n := by
    rintro n rfl
    exact (Char.ofNat_toNat c).symm
  constructor
  · intro h
    have hcodes : c.toNat ∈ [10, 11, 12, 13, 28, 29, 30, 0x85, 0x2028, 0x2029] := by
      simp only [isLineBreak, Bool.or_eq_true, Bool.and_eq_true, decide_eq_true_eq,
        beq_iff_eq] at h
      simp only [List.mem_cons, List.not_mem_nil, or_false]
      omega
    simp only [List.mem_cons, List.not_mem_nil, or_false] at hcodes
    rcases hcodes with h | h | h | h | h | h | h | h | h | h <;> rw [hcode _ h] <;> decide
  · intro h
    simp only [lineBreaks, List.mem_cons, List.cons.injEq, List.not_mem_nil, or_false,
      and_true, reduceCtorEq, and_false, false_or] at h
    rcases h with rfl | rfl | rfl | rfl | rfl | rfl | rfl | rfl | rfl | rfl <;> rfl

/-- A break is the pair of a carriage return and a newline, or it is one character. -/
theorem eq_pair_or_singleton {mark : Text} (h : mark ∈ lineBreaks) :
    mark = ['\r', '\n'] ∨ ∃ c, isLineBreak c = true ∧ mark = [c] := by
  have hlength : ∀ other ∈ lineBreaks, other = ['\r', '\n'] ∨ other.length = 1 := by decide
  rcases hlength mark h with hpair | hone
  · exact .inl hpair
  · obtain ⟨c, rfl⟩ := List.length_eq_one_iff.mp hone
    exact .inr ⟨c, isLineBreak_iff.mpr h, rfl⟩

variable {line rest : Text} {c : Char}

theorem lines_cons_of_not_isLineBreak (hc : isLineBreak c = false) {first : Text}
    {more : List Text} (h : lines rest = first :: more) :
    lines (c :: rest) = (c :: first) :: more := by
  have hreturn : ∀ tail, c = '\r' → rest = '\n' :: tail → False := by
    rintro tail rfl -
    exact absurd hc (by decide)
  rw [lines.eq_3 _ _ hreturn, hc, h]
  rfl

/-- What stands behind a break begins a line of its own. -/
theorem lines_append (hline : ∀ c ∈ line, isLineBreak c = false) {more : List Text}
    (hrest : lines rest = [] :: more) : lines (line ++ rest) = line :: more := by
  induction line with
  | nil => exact hrest
  | cons c line ih =>
    have hmore := ih fun d hd => hline d (List.mem_cons_of_mem c hd)
    exact lines_cons_of_not_isLineBreak (hline c List.mem_cons_self) hmore

/-- A line without a break is one line, unless it is empty. -/
theorem lines_of_forall (hline : ∀ c ∈ line, isLineBreak c = false) (hne : line ≠ []) :
    lines line = [line] := by
  induction line with
  | nil => exact absurd rfl hne
  | cons c line ih =>
    have hc := hline c List.mem_cons_self
    cases line with
    | nil =>
      have hreturn : ∀ tail, c = '\r' → ([] : Text) = '\n' :: tail → False := nofun
      rw [lines.eq_3 _ _ hreturn, hc]
      rfl
    | cons d line =>
      have hrest := ih (fun e he => hline e (List.mem_cons_of_mem c he)) (by simp)
      exact lines_cons_of_not_isLineBreak hc hrest

/-- A break ends a line, but a carriage return takes a newline behind it along. -/
theorem lines_break (hc : isLineBreak c = true) (rest : Text) :
    lines (c :: rest) = [] :: lines rest ∨
      ∃ tail, rest = '\n' :: tail ∧ lines (c :: rest) = [] :: lines tail := by
  by_cases hpair : c = '\r' ∧ rest.head? = some '\n'
  · obtain ⟨rfl, hhead⟩ := hpair
    obtain ⟨tail, rfl⟩ := List.head?_eq_some_iff.mp hhead
    exact .inr ⟨tail, rfl, rfl⟩
  · have hreturn : ∀ tail, c = '\r' → rest = '\n' :: tail → False := by
      rintro tail hreturn rfl
      exact hpair ⟨hreturn, rfl⟩
    exact .inl (by rw [lines.eq_3 _ _ hreturn, if_pos hc])

/-! ## Pieces -/

variable {separator : Char}

theorem cutAt_of_notMem {part : Text} (h : separator ∉ part) : cutAt separator part = [part] := by
  induction part with
  | nil => rfl
  | cons c part ih =>
    obtain ⟨hc, hpart⟩ := not_or.mp (fun hmem => h (List.mem_cons.mpr hmem))
    simp [cutAt, Ne.symm hc, ih hpart]

/-- A text with a separator in it is cut there. -/
theorem cutAt_append (text rest : Text) :
    cutAt separator (text ++ separator :: rest) =
      cutAt separator text ++ cutAt separator rest := by
  induction text with
  | nil => simp [cutAt]
  | cons c text ih =>
    by_cases hc : c = separator
    · simp [cutAt, hc, ih]
    · cases hparts : cutAt separator text with
      | nil => exact absurd hparts (cutAt_ne_nil separator text)
      | cons part parts =>
        rw [hparts] at ih
        simp [cutAt, hc, hparts, ih]

theorem cutAt_append_cons {part : Text} (h : separator ∉ part) (rest : Text) :
    cutAt separator (part ++ separator :: rest) = part :: cutAt separator rest := by
  rw [cutAt_append, cutAt_of_notMem h, List.singleton_append]

/-- No part holds the separator. -/
theorem notMem_of_mem_cutAt {text part : Text} (h : part ∈ cutAt separator text) :
    separator ∉ part := by
  induction text generalizing part with
  | nil =>
    rw [List.mem_singleton.mp h]
    exact List.not_mem_nil
  | cons c text ih =>
    unfold cutAt at h
    split at h
    · rcases List.mem_cons.mp h with rfl | hlater
      · exact List.not_mem_nil
      · exact ih hlater
    · next hc =>
      split at h
      · rw [List.mem_singleton.mp h, List.mem_singleton]
        exact Ne.symm hc
      · next first parts hparts =>
        rw [hparts] at ih
        rcases List.mem_cons.mp h with rfl | hlater
        · rw [List.mem_cons, not_or]
          exact ⟨Ne.symm hc, ih List.mem_cons_self⟩
        · exact ih (List.mem_cons_of_mem first hlater)

theorem mem_joinWith {parts : List Text} {part : Text} {c : Char} (hpart : part ∈ parts)
    (hc : c ∈ part) (separator : Text) : c ∈ joinWith separator parts := by
  induction parts with
  | nil => cases hpart
  | cons first parts ih =>
    cases parts with
    | nil => exact List.mem_singleton.mp hpart ▸ hc
    | cons next parts =>
      rw [joinWith]
      · rcases List.mem_cons.mp hpart with rfl | hlater
        · exact List.mem_append_left _ (List.mem_append_left _ hc)
        · exact List.mem_append_right _ (ih hlater)
      · exact List.cons_ne_nil next parts

/-- The characters of a part are characters of the text. -/
theorem mem_of_mem_cutAt {text part : Text} {c : Char} (hpart : part ∈ cutAt separator text)
    (hc : c ∈ part) : c ∈ text :=
  joinWith_cutAt separator text ▸ mem_joinWith hpart hc [separator]

/-- Parts without the separator are found again. -/
theorem cutAt_joinWith {parts : List Text} (hne : parts ≠ [])
    (hparts : ∀ part ∈ parts, separator ∉ part) :
    cutAt separator (joinWith [separator] parts) = parts := by
  induction parts with
  | nil => exact absurd rfl hne
  | cons part parts ih =>
    have hpart := hparts part List.mem_cons_self
    cases parts with
    | nil => exact cutAt_of_notMem hpart
    | cons next parts =>
      have hrest := ih (by simp) fun other hother => hparts other (List.mem_cons_of_mem _ hother)
      rw [joinWith, List.append_assoc, List.singleton_append, cutAt_append_cons hpart, hrest]
      simp

end DiagnosticMarkers.Text
