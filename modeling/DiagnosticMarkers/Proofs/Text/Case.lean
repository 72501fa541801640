import DiagnosticMarkers.Text.Case
import DiagnosticMarkers.Text.Word
import Mathlib.Data.List.Forall2

/-!
# Case

A code point that is moved is held by a run, and stands behind the move where the run puts it.
Folding a text a second time changes nothing. Dots and slashes are folded to themselves and
nothing else is folded to one of them, so a folded text has them where the text has them.

Texts are the same up to case if they have the same keys, character by character. The underscore
has no other form, and beyond the basic plane every character with a key of its own is part of
words.
-/

namespace DiagnosticMarkers.Text

/-! ## Moving code points -/

theorem CaseRun.holds_iff (run : CaseRun) (n : Nat) :
    run.holds n = true ↔
      run.first ≤ n ∧ n ≤ run.last ∧ (n - run.first) % run.step = 0 := by
  rw [holds, Bool.and_eq_true, Bool.and_eq_true, decide_eq_true_eq, decide_eq_true_eq,
    beq_iff_eq, and_assoc]

/-- The code points of a run. -/
def CaseRun.codes (run : CaseRun) : List Nat :=
  List.range' run.first ((run.last - run.first) / run.step + 1) run.step

theorem CaseRun.mem_codes {run : CaseRun} {n : Nat} (h : run.holds n = true) :
    n ∈ run.codes := by
  obtain ⟨hfirst, hlast, hstep⟩ := (run.holds_iff n).mp h
  have hcount : (n - run.first) / run.step ≤ (run.last - run.first) / run.step :=
    Nat.div_le_div_right (by omega)
  have hmultiple := Nat.mul_div_cancel' (Nat.dvd_of_mod_eq_zero hstep)
  exact List.mem_range'.mpr ⟨(n - run.first) / run.step, by omega, by omega⟩

/-- A code point stays, or a run that holds it moves it. -/
theorem shiftCode_cases (runs : List CaseRun) (n : Nat) :
    shiftCode runs n = n ∨
      ∃ run ∈ runs, run.holds n = true ∧ shiftCode runs n = (n + run.shift).toNat := by
  induction runs with
  | nil => exact .inl rfl
  | cons run runs ih =>
    unfold shiftCode
    split
    · exact .inl rfl
    · split
      · next _ hholds => exact .inr ⟨run, List.mem_cons_self, hholds, rfl⟩
      · rcases ih with hstays | ⟨other, hother, hmoves⟩
        · exact .inl hstays
        · exact .inr ⟨other, List.mem_cons_of_mem run hother, hmoves⟩

/-- A number is the code point of its character, unless that is the null. -/
theorem toNat_ofNat {n : Nat} (h : Char.ofNat n ≠ Char.ofNat 0) : (Char.ofNat n).toNat = n := by
  by_cases hvalid : n.isValidChar
  · rw [Char.ofNat, dif_pos hvalid]
    rfl
  · refine absurd ?_ h
    rw [Char.ofNat, dif_neg hvalid]
    rfl

/-- A character that a run moves to a code point stands so much before it. -/
theorem exists_of_shiftCase_eq {runs : List CaseRun} {c d : Char} (hd : d ≠ Char.ofNat 0)
    (h : shiftCase runs c = d) :
    c = d ∨ ∃ run ∈ runs, run.holds c.toNat = true ∧ (c.toNat + run.shift).toNat = d.toNat := by
  have hcode : shiftCode runs c.toNat = d.toNat :=
    (toNat_ofNat (fun hnull => hd (h.symm.trans hnull))).symm.trans (congrArg Char.toNat h)
  rcases shiftCode_cases runs c.toNat with hstays | ⟨run, hrun, hholds, hmoves⟩
  · exact .inl (Char.toNat_inj.mp (hstays.symm.trans hcode))
  · exact .inr ⟨run, hrun, hholds, hmoves.symm.trans hcode⟩

/-! ## Folding dots and slashes -/

/-- The characters that give a path its shape. -/
def pathMarks : List Char := ['.', '/', '\\']

/-- The runs and the longer foldings, looked through one by one. -/
theorem foldings_apart_pathMarks : ∀ mark ∈ pathMarks,
    foldChar mark = [mark] ∧
      (∀ run ∈ foldRuns, mark.toNat - run.shift < run.first ∨ run.last < mark.toNat - run.shift) ∧
      ∀ entry ∈ foldExpansions, mark.toNat ∉ entry.2 := by
  rw [pathMarks, List.forall_mem_cons, List.forall_mem_cons, List.forall_mem_singleton]
  refine ⟨?dot, ?slash, ?backslash⟩ <;> decide +kernel

theorem foldExpansions_ne_nil : ∀ entry ∈ foldExpansions, entry.2 ≠ [] := by
  decide +kernel

theorem mem_foldExpansions_of_lookup {n : Nat} {folded : List Nat}
    (h : foldExpansions.lookup n = some folded) : (n, folded) ∈ foldExpansions := by
  obtain ⟨before, behind, hsplit, -⟩ := List.lookup_eq_some_iff.mp h
  exact hsplit ▸ List.mem_append_right before List.mem_cons_self

theorem foldChar_ne_nil (c : Char) : foldChar c ≠ [] := by
  unfold foldChar
  split
  · next folded hfolded =>
    have hentry := mem_foldExpansions_of_lookup hfolded
    exact fun h => foldExpansions_ne_nil _ hentry (List.map_eq_nil_iff.mp h)
  · exact List.cons_ne_nil _ _

/-- Nothing but the mark is folded to a mark. -/
theorem mem_foldChar_iff {mark : Char} (hmark : mark ∈ pathMarks) (c : Char) :
    mark ∈ foldChar c ↔ c = mark := by
  obtain ⟨hself, hruns, hexpansions⟩ := foldings_apart_pathMarks mark hmark
  have hnull : mark ≠ Char.ofNat 0 := by
    rintro rfl
    exact absurd hmark (by decide)
  constructor
  · unfold foldChar
    split
    · next folded hfolded =>
      intro h
      have hentry := mem_foldExpansions_of_lookup hfolded
      obtain ⟨n, hn, hcode⟩ := List.mem_map.mp h
      have hn' : mark.toNat = n := by
        rw [← hcode]
        exact toNat_ofNat fun h => hnull (hcode.symm.trans h)
      exact absurd (hn' ▸ hn) (hexpansions _ hentry)
    · intro h
      have hshift : shiftCase foldRuns c = mark := (List.mem_singleton.mp h).symm
      rcases exists_of_shiftCase_eq hnull hshift with hstays | ⟨run, hrun, hholds, hmoves⟩
      · exact hstays
      · have := hruns run hrun
        have := (run.holds_iff _).mp hholds
        have : 0 < mark.toNat := Nat.pos_of_ne_zero fun h => hnull (Char.toNat_inj.mp h)
        omega
  · rintro rfl
    rw [hself]
    exact List.mem_singleton_self c

theorem mem_foldCase_iff {mark : Char} (hmark : mark ∈ pathMarks) (text : Text) :
    mark ∈ foldCase text ↔ mark ∈ text := by
  rw [foldCase, List.mem_flatMap]
  constructor
  · rintro ⟨c, hc, hfolded⟩
    exact (mem_foldChar_iff hmark c).mp hfolded ▸ hc
  · exact fun h => ⟨mark, h, (mem_foldChar_iff hmark mark).mpr rfl⟩

theorem foldCase_eq_self {text : Text} (h : ∀ c ∈ text, foldChar c = [c]) :
    foldCase text = text := by
  induction text with
  | nil => rfl
  | cons c text ih =>
    obtain ⟨hc, htext⟩ := List.forall_mem_cons.mp h
    rw [foldCase, List.flatMap_cons, hc, ← foldCase, ih htext]
    rfl

/-- Only a row of dots is folded to a row of dots. -/
theorem foldCase_eq_dots_iff (n : Nat) (text : Text) :
    foldCase text = List.replicate n '.' ↔ text = List.replicate n '.' := by
  have hdot : '.' ∈ pathMarks := by decide
  have hself : ∀ other : Text, (∀ c ∈ other, c = '.') → foldCase other = other :=
    fun other hother => foldCase_eq_self fun c hc =>
      hother c hc ▸ (foldings_apart_pathMarks '.' hdot).1
  constructor
  · intro h
    have htext : ∀ c ∈ text, c = '.' := fun c hc => by
      obtain ⟨d, hd⟩ := List.exists_mem_of_ne_nil _ (foldChar_ne_nil c)
      have hmem : d ∈ foldCase text := List.mem_flatMap.mpr ⟨c, hc, hd⟩
      obtain rfl := List.eq_of_mem_replicate (h ▸ hmem)
      exact (mem_foldChar_iff hdot c).mp hd
    rw [← hself text htext, h]
  · rintro rfl
    exact hself _ fun c hc => List.eq_of_mem_replicate hc

/-! ## Folding twice -/

/-- The set of some numbers, written as the binary digits of one number. -/
def bits (numbers : List Nat) : Nat :=
  numbers.foldr (fun n digits => 1 <<< n ||| digits) 0

theorem testBit_bits (numbers : List Nat) (n : Nat) :
    (bits numbers).testBit n = true ↔ n ∈ numbers := by
  induction numbers with
  | nil => simp [bits]
  | cons m numbers ih =>
    rw [bits, List.foldr_cons, ← bits, Nat.testBit_or, Bool.or_eq_true, ih, Nat.one_shiftLeft,
      Nat.testBit_two_pow, decide_eq_true_eq, List.mem_cons, eq_comm]

theorem notMem_of_bits {numbers others : List Nat} (h : bits numbers &&& bits others = 0)
    {n : Nat} (hn : n ∈ numbers) : n ∉ others := by
  intro hother
  have hboth : (bits numbers &&& bits others).testBit n = true := by
    rw [Nat.testBit_and, (testBit_bits numbers n).mpr hn, (testBit_bits others n).mpr hother]
    rfl
  rw [h, Nat.zero_testBit] at hboth
  cases hboth

/-- The code points that folding changes. -/
def foldSources : List Nat :=
  foldRuns.flatMap CaseRun.codes ++ foldExpansions.map Prod.fst

/-- The code points that folding leads to. -/
def foldTargets : List Nat :=
  (foldRuns.flatMap fun run => run.codes.map fun n : Nat => (n + run.shift).toNat) ++
    foldExpansions.flatMap Prod.snd

/-- As sets of binary digits the two are compared at once, where a comparison of each target
with each source would be long. -/
theorem foldTargets_apart : bits foldTargets &&& bits foldSources = 0 := by
  decide +kernel

theorem foldChar_of_notMem {c : Char} (h : c.toNat ∉ foldSources) : foldChar c = [c] := by
  unfold foldChar
  split
  · next folded hfolded =>
    have hkey := List.mem_map_of_mem (f := Prod.fst) (mem_foldExpansions_of_lookup hfolded)
    exact absurd (List.mem_append_right _ hkey) h
  · rcases shiftCode_cases foldRuns c.toNat with hstays | ⟨run, hrun, hholds, -⟩
    · rw [shiftCase, hstays, Char.ofNat_toNat]
    · have hcode := List.mem_flatMap.mpr ⟨run, hrun, CaseRun.mem_codes hholds⟩
      exact absurd (List.mem_append_left _ hcode) h

theorem foldChar_of_target {n : Nat} (h : n ∈ foldTargets) :
    foldChar (Char.ofNat n) = [Char.ofNat n] := by
  by_cases hnull : Char.ofNat n = Char.ofNat 0
  · rw [hnull]
    decide +kernel
  · refine foldChar_of_notMem ?_
    rw [toNat_ofNat hnull]
    exact notMem_of_bits foldTargets_apart h

/-- What a character is folded to is folded already. -/
theorem foldChar_of_mem_foldChar {c d : Char} (h : d ∈ foldChar c) : foldChar d = [d] := by
  unfold foldChar at h
  split at h
  · next folded hfolded =>
    obtain ⟨n, hn, rfl⟩ := List.mem_map.mp h
    have hentry : n ∈ foldExpansions.flatMap Prod.snd :=
      List.mem_flatMap.mpr ⟨_, mem_foldExpansions_of_lookup hfolded, hn⟩
    exact foldChar_of_target (List.mem_append_right _ hentry)
  · next hlookup =>
    obtain rfl := List.mem_singleton.mp h
    rcases shiftCode_cases foldRuns c.toNat with hstays | ⟨run, hrun, hholds, hmoves⟩
    · have hsame : shiftCase foldRuns c = c := by rw [shiftCase, hstays, Char.ofNat_toNat]
      rw [hsame, foldChar, hlookup, hsame]
    · have hcode := List.mem_map_of_mem (f := fun n : Nat => (n + run.shift).toNat)
        (CaseRun.mem_codes hholds)
      rw [shiftCase, hmoves]
      exact foldChar_of_target
        (List.mem_append_left _ (List.mem_flatMap.mpr ⟨run, hrun, hcode⟩))

/-- Folding twice is folding once. -/
theorem foldCase_foldCase (text : Text) : foldCase (foldCase text) = foldCase text := by
  refine foldCase_eq_self fun d hd => ?_
  obtain ⟨c, -, hfolded⟩ := List.mem_flatMap.mp hd
  exact foldChar_of_mem_foldChar hfolded

/-! ## Characters up to case -/

/-- Texts of one length whose characters are equal up to case. -/
def SameCaseless (text other : Text) : Prop :=
  List.Forall₂ (fun a b => sameCaseless a b = true) text other

namespace SameCaseless

variable {text other third : Text}

theorem iff_map_eq : SameCaseless text other ↔ text.map caselessKey = other.map caselessKey := by
  rw [← List.forall₂_eq_eq_eq, List.forall₂_map_left_iff, List.forall₂_map_right_iff]
  simp only [SameCaseless, sameCaseless, beq_iff_eq]

theorem refl (text : Text) : SameCaseless text text :=
  iff_map_eq.mpr rfl

theorem trans (h : SameCaseless text other) (hother : SameCaseless other third) :
    SameCaseless text third :=
  iff_map_eq.mpr ((iff_map_eq.mp h).trans (iff_map_eq.mp hother))

theorem cons_iff {a b : Char} :
    SameCaseless (a :: text) (b :: other) ↔ sameCaseless a b = true ∧ SameCaseless text other :=
  List.forall₂_cons

theorem length_eq (h : SameCaseless text other) : text.length = other.length :=
  List.Forall₂.length_eq h

end SameCaseless

/-- No run moves a character to the underscore. -/
theorem keyRuns_apart_underscore :
    ∀ run ∈ keyRuns, 0x5F - run.shift < run.first ∨ run.last < 0x5F - run.shift := by
  decide +kernel

/-- Only the underscore is an underscore up to case. -/
theorem eq_underscore_of_sameCaseless {c : Char} (h : sameCaseless c '_' = true) : c = '_' := by
  have hkey : shiftCase keyRuns c = '_' := (beq_iff_eq.mp h).trans (by decide)
  rcases exists_of_shiftCase_eq (by decide) hkey with hstays | ⟨run, hrun, hholds, hmoves⟩
  · exact hstays
  · have hcode : '_'.toNat = 0x5F := rfl
    have := keyRuns_apart_underscore run hrun
    have := (run.holds_iff _).mp hholds
    omega

/-- Where the spans ascend, each holds the code points between its ends. -/
theorem inSpans_of_mem {spans : List Span} {span : Span} {n : Nat}
    (hascend : spans.Pairwise fun a b => a.1 ≤ b.1) (hspan : span ∈ spans)
    (hfirst : span.1 ≤ n) (hlast : n ≤ span.2) : inSpans spans n = true := by
  induction spans with
  | nil => cases hspan
  | cons head spans ih =>
    have ⟨hhead, htail⟩ := List.pairwise_cons.mp hascend
    have hbegun : head.1 ≤ n := by
      rcases List.mem_cons.mp hspan with rfl | hlater
      · exact hfirst
      · exact Nat.le_trans (hhead span hlater) hfirst
    rw [inSpans, if_neg (Nat.not_lt.mpr hbegun)]
    split
    · rfl
    · next hover =>
      rcases List.mem_cons.mp hspan with rfl | hlater
      · exact absurd hlast hover
      · exact ih htail hlater

theorem wordSpans_ascend : wordSpans.Pairwise fun a b => a.1 ≤ b.1 := by
  have : IsTrans Span fun a b => a.1 ≤ b.1 := ⟨fun _ _ _ => Nat.le_trans⟩
  rw [← List.isChain_iff_pairwise]
  decide +kernel

/-- The runs beyond the basic plane, looked through one by one. -/
theorem highRuns_within_wordSpans : ∀ run ∈ keyRuns, 0xFFFF < run.last →
    ∃ span ∈ wordSpans, span.1 ≤ run.first ∧ run.last ≤ span.2 := by
  decide +kernel

/-- Beyond the basic plane, the characters that differ from their key are letters. -/
theorem isWord_of_ne_caselessKey {c : Char} (hhigh : 0xFFFF < c.toNat) (hkey : caselessKey c ≠ c) :
    isWord c = true := by
  rcases shiftCode_cases keyRuns c.toNat with hstays | ⟨run, hrun, hholds, -⟩
  · refine absurd ?_ hkey
    rw [caselessKey, shiftCase, hstays, Char.ofNat_toNat]
  · obtain ⟨hfirst, hlast, -⟩ := (run.holds_iff _).mp hholds
    have ⟨span, hspan, hbegins, hends⟩ := highRuns_within_wordSpans run hrun (by omega)
    exact inSpans_of_mem wordSpans_ascend hspan (by omega) (by omega)

end DiagnosticMarkers.Text
