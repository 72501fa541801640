import DiagnosticMarkers.Text.Basic
import Mathlib.Data.List.DropRight
import Mathlib.Data.List.TakeWhile

/-!
# Trimming

Trimming takes the blanks from both ends of a text and nothing else. Characters that are dropped
from the end of a text are no loss if the text is trimmed, as long as they are blank.
-/

namespace DiagnosticMarkers.Text

variable {cls : Char → Bool} {tail : Text}

theorem dropEndWhile_append_of_forall (htail : ∀ c ∈ tail, cls c = true) (text : Text) :
    dropEndWhile cls (text ++ tail) = dropEndWhile cls text := by
  have hreverse : ∀ c ∈ tail.reverse, cls c = true :=
    fun c hc => htail c (List.mem_reverse.mp hc)
  rw [dropEndWhile, List.reverse_append, List.dropWhile_append_of_pos hreverse, dropEndWhile]

/-- Nothing is dropped from a text whose last character is not in the class. -/
theorem dropEndWhile_of_getLast? {text : Text} (htext : ∀ c ∈ text.getLast?, cls c = false) :
    dropEndWhile cls text = text := by
  refine List.rdropWhile_eq_self_iff.mpr fun hne => ?_
  rw [htext _ (List.getLast?_eq_some_getLast hne)]
  exact Bool.false_ne_true

/-- Nothing is dropped from a text without characters of the class. -/
theorem dropEndWhile_of_forall {text : Text} (htext : ∀ c ∈ text, cls c = false) :
    dropEndWhile cls text = text :=
  dropEndWhile_of_getLast? fun c hc => htext c (List.mem_of_getLast? hc)

/-- What is dropped from the end is in the class. -/
theorem exists_eq_dropEndWhile_append (cls : Char → Bool) (text : Text) :
    ∃ tail, text = dropEndWhile cls text ++ tail ∧ ∀ c ∈ tail, cls c = true := by
  refine ⟨(text.reverse.takeWhile cls).reverse, ?_, ?_⟩
  · rw [dropEndWhile, ← List.reverse_append, List.takeWhile_append_dropWhile, List.reverse_reverse]
  · intro c hc
    exact List.mem_takeWhile_imp (List.mem_reverse.mp hc)

/-- Nothing is dropped beyond a character that is not in the class. -/
theorem dropEndWhile_append_cons {c : Char} (hc : cls c = false) (text tail : Text) :
    dropEndWhile cls (text ++ c :: tail) = text ++ c :: dropEndWhile cls tail := by
  have hreverse : (text ++ c :: tail).reverse = tail.reverse ++ c :: text.reverse := by simp
  rw [dropEndWhile, hreverse, List.dropWhile_append]
  by_cases hempty : (tail.reverse.dropWhile cls).isEmpty = true
  · rw [if_pos hempty, List.dropWhile_cons_of_neg (by simp [hc]), dropEndWhile,
      List.isEmpty_iff.mp hempty]
    simp
  · rw [if_neg hempty, dropEndWhile]
    simp

theorem mem_of_mem_dropEndWhile {text : Text} {c : Char} (h : c ∈ dropEndWhile cls text) :
    c ∈ text :=
  List.mem_reverse.mp (List.dropWhile_subset _ (List.mem_reverse.mp h))

/-- Trimming a text adds no character. -/
theorem mem_of_mem_trim {text : Text} {c : Char} (h : c ∈ trim text) : c ∈ text :=
  List.dropWhile_subset _ (mem_of_mem_dropEndWhile h)

theorem trimStart_append_of_forall_isBlank {front : Text} (hfront : ∀ c ∈ front, isBlank c = true)
    (text : Text) : trimStart (front ++ text) = trimStart text :=
  List.dropWhile_append_of_pos hfront

theorem trimStart_of_head {text : Text} (h : ∀ c ∈ text.head?, isBlank c = false) :
    trimStart text = text := by
  cases text with
  | nil => rfl
  | cons c text => exact List.dropWhile_cons_of_neg (by simp [h c rfl])

theorem trim_append_of_forall_isBlank (htail : ∀ c ∈ tail, isBlank c = true) (text : Text) :
    trim (text ++ tail) = trim text := by
  rw [trim, trimStart, List.dropWhile_append]
  split
  · next hempty =>
    rw [List.dropWhile_eq_nil_iff.mpr htail, trim, trimStart, List.isEmpty_iff.mp hempty]
  · exact dropEndWhile_append_of_forall htail _

/-- Blanks that are dropped from the end would be trimmed anyway. -/
theorem trim_dropEndWhile (hcls : ∀ c, cls c = true → isBlank c = true) (text : Text) :
    trim (dropEndWhile cls text) = trim text := by
  obtain ⟨tail, htext, htail⟩ := exists_eq_dropEndWhile_append cls text
  have hblank := trim_append_of_forall_isBlank (fun c hc => hcls c (htail c hc))
    (dropEndWhile cls text)
  rw [← hblank, ← htext]

/-- A character that is no blank parts the two ends. -/
theorem trim_append_cons {c : Char} (hc : isBlank c = false) (text tail : Text) :
    trim (text ++ c :: tail) = trimStart text ++ c :: trimEnd tail := by
  have hstart : trimStart (text ++ c :: tail) = trimStart text ++ c :: tail := by
    rw [trimStart, List.dropWhile_append]
    split
    · next hempty =>
      rw [List.dropWhile_cons_of_neg (by simp [hc]), trimStart, List.isEmpty_iff.mp hempty,
        List.nil_append]
    · rfl
  rw [trim, hstart]
  exact dropEndWhile_append_cons hc _ tail

/-- Nothing is dropped from the start if nothing is dropped at all. -/
theorem trimStart_of_trim_eq {text : Text} (h : trim text = text) : trimStart text = text := by
  have hlength : (trim text).length ≤ (trimStart text).length :=
    (List.rdropWhile_prefix isBlank (trimStart text)).length_le
  rw [h] at hlength
  exact (List.dropWhile_suffix isBlank).eq_of_length_le hlength

theorem trimEnd_of_trim_eq {text : Text} (h : trim text = text) : trimEnd text = text := by
  rwa [trim, trimStart_of_trim_eq h] at h

theorem trimEnd_trim (text : Text) : trimEnd (trim text) = trim text :=
  List.rdropWhile_idempotent isBlank (trimStart text)

theorem isBlank_head?_trim {text : Text} : ∀ c ∈ (trim text).head?, isBlank c = false := by
  intro c hc
  obtain ⟨rest, hrest⟩ := List.head?_eq_some_iff.mp hc
  obtain ⟨tail, htail⟩ : trim text <+: trimStart text :=
    List.rdropWhile_prefix isBlank (trimStart text)
  have hhead := List.head?_dropWhile_not isBlank text
  rw [← trimStart, ← htail, hrest] at hhead
  exact hhead

theorem isBlank_getLast?_trim {text : Text} :
    ∀ c ∈ (trim text).getLast?, isBlank c = false := by
  intro c hc
  have hlast := List.head?_dropWhile_not isBlank (trimStart text).reverse
  rw [trim, trimEnd, dropEndWhile, List.getLast?_reverse] at hc
  rwa [Option.mem_def.mp hc] at hlast

/-- Nothing is left to trim. -/
theorem trim_trim (text : Text) : trim (trim text) = trim text := by
  rw [trim, trimStart_of_head isBlank_head?_trim, trimEnd_trim]

/-- What is left of a text without the blanks at its ends. -/
structure IsTrimmed (text trimmed : Text) : Prop where
  blanks_around : ∃ front back, text = front ++ (trimmed ++ back) ∧
    (∀ c ∈ front, isBlank c = true) ∧ ∀ c ∈ back, isBlank c = true
  head_not_blank : ∀ c ∈ trimmed.head?, isBlank c = false
  last_not_blank : ∀ c ∈ trimmed.getLast?, isBlank c = false

theorem isTrimmed_trim (text : Text) : IsTrimmed text (trim text) := by
  obtain ⟨back, htext, hback⟩ := exists_eq_dropEndWhile_append isBlank (trimStart text)
  have hfront : ∀ c ∈ text.takeWhile isBlank, isBlank c = true := fun _ => List.mem_takeWhile_imp
  refine ⟨⟨text.takeWhile isBlank, back, ?_, hfront, hback⟩, isBlank_head?_trim,
    isBlank_getLast?_trim⟩
  rw [trim, trimEnd, ← htext, trimStart, List.takeWhile_append_dropWhile]

/-- Trimming is the one way to take the blanks from the ends. -/
theorem IsTrimmed.trim_eq {text trimmed : Text} (h : IsTrimmed text trimmed) :
    trim text = trimmed := by
  obtain ⟨⟨front, back, rfl, hfront, hback⟩, hhead, hlast⟩ := h
  calc trim (front ++ (trimmed ++ back))
      = trim (trimmed ++ back) := by
        rw [trim, trimStart_append_of_forall_isBlank hfront, trim]
    _ = trim trimmed := trim_append_of_forall_isBlank hback trimmed
    _ = trimmed := by rw [trim, trimStart_of_head hhead, trimEnd, dropEndWhile_of_getLast? hlast]

end DiagnosticMarkers.Text
