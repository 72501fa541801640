import DiagnosticMarkers.Number
import Mathlib.Data.List.Basic
import Mathlib.Data.List.Induction
import Mathlib.Data.List.Pairwise
import Mathlib.Data.Nat.Digits.Defs

/-!
# Decimal digits

A decimal digit stands in the row of its script, and it counts as many as it stands behind the
zero of the row. The rows do not overlap, so a search through them finds exactly the digits and
what each of them counts. Digits, blanks and ASCII letters have no character in common, and a
run of one class ends where a character of another begins.
-/

namespace DiagnosticMarkers.Text

/-- The code point stands among the ten that begin with the first one. -/
abbrev InRow (first n : Nat) : Prop :=
  first ≤ n ∧ n < first + 10

/-- A decimal digit of some script. -/
def IsDecimal (c : Char) : Prop :=
  ∃ first ∈ digitZeros, InRow first c.toNat

/-- How far a digit stands behind the zero of its row. -/
def digitCount (c : Char) : Nat :=
  match digitZeros.find? (InRow · c.toNat) with
  | none => 0
  | some first => c.toNat - first

theorem digitZeros_ascending : digitZeros.Pairwise fun first next => first + 10 ≤ next := by
  decide +kernel

/-- No code point stands in two rows. -/
theorem row_unique {first other n : Nat} (hfirst : first ∈ digitZeros)
    (hother : other ∈ digitZeros) (hn : InRow first n) (hn' : InRow other n) : first = other := by
  let Apart (a b : Nat) : Prop := a + 10 ≤ b ∨ b + 10 ≤ a
  have : Std.Symm Apart := ⟨fun _ _ => Or.symm⟩
  have hapart : digitZeros.Pairwise Apart := digitZeros_ascending.imp Or.inl
  by_contra hne
  rcases hapart.forall hfirst hother hne with h | h <;> omega

theorem digitCount_of_row {first : Nat} {c : Char} (hfirst : first ∈ digitZeros)
    (hc : InRow first c.toNat) : digitCount c = c.toNat - first := by
  rw [digitCount]
  cases hfind : digitZeros.find? (InRow · c.toNat) with
  | none => exact absurd (decide_eq_true hc) (List.find?_eq_none.mp hfind first hfirst)
  | some found =>
    have hfound : InRow found c.toNat := by simpa using List.find?_some hfind
    rw [row_unique (List.mem_of_find?_eq_some hfind) hfirst hfound hc]

/-- A search through ascending rows stops at the row that holds the code point. -/
theorem digitAmong_of_row {firsts : List Nat} {first n : Nat}
    (hrows : firsts.Pairwise fun first next => first + 10 ≤ next) (hfirst : first ∈ firsts)
    (hn : InRow first n) : digitAmong firsts n = some (n - first) := by
  induction firsts with
  | nil => cases hfirst
  | cons head rest ih =>
    obtain ⟨hhead, hrest⟩ := List.pairwise_cons.mp hrows
    rcases List.mem_cons.mp hfirst with rfl | hfirst
    · rw [digitAmong, if_neg (by omega), if_pos hn.2]
    · have hbefore := hhead first hfirst
      rw [digitAmong, if_neg (by omega), if_neg (by omega)]
      exact ih hrest hfirst

theorem exists_row_of_digitAmong {firsts : List Nat} {n value : Nat}
    (h : digitAmong firsts n = some value) : ∃ first ∈ firsts, InRow first n := by
  induction firsts with
  | nil => cases h
  | cons first rest ih =>
    unfold digitAmong at h
    split at h
    · cases h
    · split at h
      · exact ⟨first, List.mem_cons_self, by omega, by omega⟩
      · obtain ⟨other, hother, hrow⟩ := ih h
        exact ⟨other, List.mem_cons_of_mem _ hother, hrow⟩

theorem digitValue_of_isDecimal {c : Char} (hc : IsDecimal c) :
    digitValue c = some (digitCount c) := by
  obtain ⟨first, hfirst, hrow⟩ := hc
  rw [digitCount_of_row hfirst hrow]
  exact digitAmong_of_row digitZeros_ascending hfirst hrow

/-- The digits that are found are the decimal digits. -/
theorem isDigit_iff {c : Char} : isDigit c = true ↔ IsDecimal c := by
  constructor
  · intro h
    obtain ⟨value, hvalue⟩ := Option.isSome_iff_exists.mp h
    exact exists_row_of_digitAmong hvalue
  · intro h
    rw [isDigit, digitValue_of_isDecimal h]
    rfl

theorem isDecimal_of_all {text : Text} (h : text.all isDigit = true) : ∀ c ∈ text, IsDecimal c :=
  fun c hc => isDigit_iff.mp (List.all_eq_true.mp h c hc)

/-- A run of digits is read as the number with these digits in base ten, the last one first. -/
theorem decimalValue_eq_ofDigits {text : Text} (htext : ∀ c ∈ text, IsDecimal c) :
    decimalValue text = Nat.ofDigits 10 (text.reverse.map digitCount) := by
  induction text using List.reverseRecOn with
  | nil => rfl
  | append_singleton text c ih =>
    have hc : IsDecimal c := htext c (by simp)
    have hstep : decimalValue (text ++ [c]) = 10 * decimalValue text + digitCount c := by
      simp [decimalValue, digitValue_of_isDecimal hc]
    rw [hstep, ih fun d hd => htext d (List.mem_append_left _ hd), List.reverse_append,
      List.reverse_singleton, List.singleton_append, List.map_cons, Nat.ofDigits_cons, Nat.add_comm]

/-! ## Numerals -/

/-- The ASCII digits are the first row. -/
theorem row_of_isAsciiDigit {c : Char} (hc : c.isDigit = true) : InRow '0'.toNat c.toNat := by
  obtain ⟨hlow, hhigh⟩ := Bool.and_eq_true_iff.mp hc
  have hlow : 48 ≤ c.toNat := of_decide_eq_true hlow
  have hhigh : c.toNat ≤ 57 := of_decide_eq_true hhigh
  have hzero : '0'.toNat = 48 := rfl
  omega

theorem isDecimal_of_mem_ofNat {n : Nat} {c : Char} (hc : c ∈ ofNat n) : IsDecimal c :=
  ⟨'0'.toNat, by decide,
    row_of_isAsciiDigit (Nat.isDigit_of_mem_toDigits (by decide) (by decide) hc)⟩

/-- A number is the value of its numeral. -/
theorem decimalValue_ofNat (n : Nat) : decimalValue (ofNat n) = n := by
  have hstep : ∀ value, ∀ c ∈ ofNat n,
      10 * value + (digitValue c).getD 0 = 10 * value + (c.toNat - '0'.toNat) := by
    intro value c hc
    have hrow := row_of_isAsciiDigit (Nat.isDigit_of_mem_toDigits (by decide) (by decide) hc)
    rw [digitValue_of_isDecimal (isDecimal_of_mem_ofNat hc), digitCount_of_row (by decide) hrow]
    rfl
  calc decimalValue (ofNat n)
      = Nat.ofDigitChars 10 (Nat.toDigits 10 n) 0 := List.foldl_ext _ _ 0 hstep
    _ = n := Nat.ofDigitChars_ten_toDigits

theorem ofInt_of_one_le {n : Int} (hn : 1 ≤ n) : ofInt n = ofNat n.toNat := by
  obtain ⟨m, rfl⟩ := Int.eq_ofNat_of_zero_le (by omega : 0 ≤ n)
  rfl

/-! ## Classes without common characters -/

/-- The rows of digits, looked through one by one. -/
theorem digitZeros_apart : ∀ first ∈ digitZeros, ∀ i < 10,
    isBlank (Char.ofNat (first + i)) = false ∧ (Char.ofNat (first + i)).isAlpha = false := by
  decide +kernel

/-- No digit of any script is a blank or an ASCII letter. -/
theorem isDecimal_apart {c : Char} (hc : IsDecimal c) :
    isBlank c = false ∧ c.isAlpha = false := by
  obtain ⟨first, hfirst, hlow, hhigh⟩ := hc
  have happart := digitZeros_apart first hfirst (c.toNat - first) (by omega)
  rwa [Nat.add_sub_cancel' hlow, Char.ofNat_toNat] at happart

theorem isDigit_eq_false_of_isBlank {c : Char} (hc : isBlank c = true) : isDigit c = false := by
  rw [Bool.eq_false_iff, Ne, isDigit_iff]
  intro hdecimal
  simp [(isDecimal_apart hdecimal).1] at hc

theorem isDigit_eq_false_of_isAlpha {c : Char} (hc : c.isAlpha = true) : isDigit c = false := by
  rw [Bool.eq_false_iff, Ne, isDigit_iff]
  intro hdecimal
  simp [(isDecimal_apart hdecimal).2] at hc

theorem isBlank_eq_false_of_isAlpha {c : Char} (hc : c.isAlpha = true) : isBlank c = false := by
  have hletter : (65 ≤ c.toNat ∧ c.toNat ≤ 90) ∨ (97 ≤ c.toNat ∧ c.toNat ≤ 122) := by
    rcases Bool.or_eq_true_iff.mp hc with hupper | hlower
    · exact .inl (of_decide_eq_true hupper)
    · obtain ⟨hlow, hhigh⟩ := Bool.and_eq_true_iff.mp hlower
      exact .inr ⟨of_decide_eq_true hlow, of_decide_eq_true hhigh⟩
  rw [Bool.eq_false_iff]
  intro hblank
  simp only [isBlank, Bool.or_eq_true, Bool.and_eq_true, decide_eq_true_eq, beq_iff_eq] at hblank
  omega

end DiagnosticMarkers.Text
