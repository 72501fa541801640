import DiagnosticMarkers.Proofs.Text.Case
import DiagnosticMarkers.Suppression

/-!
# What counts as a suppression comment

A token is in a comment of a line if it stands somewhere behind a number sign, on the same line
of text, equal up to case and between two word boundaries. The search from character to
character finds exactly the tokens that are in a comment, as far as the tokens reach it. A token
does not reach it if all tokens agree but for their last letters and its own last letter is a
capital beyond the basic plane.
-/

namespace DiagnosticMarkers.Suppression

open Text

/-! ## Tokens in a line -/

/-- The character in front of a position. -/
def characterBefore (source : Text) : Nat → Option Char
  | 0 => none
  | n + 1 => source[n]?

/-- Is the position a word boundary of the line? -/
def boundaryAt (source : Text) (position : Nat) : Bool :=
  isBoundary (characterBefore source position) source[position]?

/-- The line has the token, up to case, from the position on, between word boundaries. -/
structure StandsAt (token source : Text) (position : Nat) : Prop where
  same : SameCaseless token ((source.drop position).take token.length)
  starts : boundaryAt source position = true
  ends : boundaryAt source (position + token.length) = true

/-- There is a number sign before the position, and no newline between the two. -/
def IsOpenAt (source : Text) (position : Nat) : Prop :=
  ∃ sign < position, source[sign]? = some '#' ∧
    ∀ k, sign < k → k < position → source[k]? ≠ some '\n'

/-- The token stands in a comment of the line. -/
def IsInComment (token source : Text) : Prop :=
  ∃ position, IsOpenAt source position ∧ StandsAt token source position

/-- Behind the end of the line there are no word boundaries. -/
theorem le_length_of_boundaryAt {source : Text} {position : Nat}
    (h : boundaryAt source position = true) : position ≤ source.length := by
  by_contra hbeyond
  obtain ⟨n, rfl⟩ := Nat.exists_eq_add_of_lt (Nat.lt_of_not_le hbeyond)
  have hbefore : characterBefore source (source.length + n + 1) = none :=
    List.getElem?_eq_none (Nat.le_add_right _ _)
  rw [boundaryAt, hbefore, List.getElem?_eq_none (by omega)] at h
  cases h

/-- Between two parts of a line there is a boundary if there is one between the characters that
meet. -/
theorem boundaryAt_append (front back : Text) :
    boundaryAt (front ++ back) front.length = isBoundary front.getLast? back.head? := by
  have hbefore : characterBefore (front ++ back) front.length = front.getLast? := by
    cases hlength : front.length with
    | zero => rw [List.length_eq_zero_iff.mp hlength]; rfl
    | succ n =>
      rw [characterBefore, List.getElem?_append_left (by omega), List.getLast?_eq_getElem?,
        hlength, Nat.add_sub_cancel]
  rw [boundaryAt, hbefore, List.getElem?_append_right (Nat.le_refl _), Nat.sub_self,
    List.head?_eq_getElem?]

theorem StandsAt.of_append {front token behind : Text}
    (hstarts : isBoundary front.getLast? (token ++ behind).head? = true)
    (hends : isBoundary (front ++ token).getLast? behind.head? = true) :
    StandsAt token (front ++ token ++ behind) front.length where
  same := by
    rw [List.append_assoc, List.drop_left, List.take_left]
    exact .refl _
  starts := by rw [List.append_assoc, boundaryAt_append, hstarts]
  ends := by rw [← List.length_append, boundaryAt_append, hends]

/-- Behind a number sign a comment is open up to the next newline. -/
theorem isOpenAt_append {gap : Text} (hgap : '\n' ∉ gap) (before behind : Text) :
    IsOpenAt (before ++ '#' :: gap ++ behind) (before ++ '#' :: gap).length := by
  refine ⟨before.length, by simp, ?_, fun k hk hkn hnewline => hgap ?_⟩
  · rw [List.append_assoc, List.getElem?_append_right (Nat.le_refl _), Nat.sub_self]
    rfl
  · obtain ⟨n, rfl⟩ := Nat.exists_eq_add_of_lt hk
    rw [List.getElem?_append_left hkn, List.getElem?_append_right (by omega),
      show before.length + n + 1 - before.length = n + 1 by omega, List.getElem?_cons_succ]
      at hnewline
    exact List.mem_of_getElem? hnewline

/-- A token stands in a comment if a number sign is before it and nothing that ends the comment
or takes away its boundaries. -/
theorem isInComment_append {before gap token behind : Text} (hgap : '\n' ∉ gap)
    (hstarts : isBoundary ('#' :: gap).getLast? (token ++ behind).head? = true)
    (hends : isBoundary (before ++ '#' :: gap ++ token).getLast? behind.head? = true) :
    IsInComment token (before ++ '#' :: gap ++ token ++ behind) := by
  have hopen := isOpenAt_append hgap before (token ++ behind)
  have hstands : StandsAt token (before ++ '#' :: gap ++ token ++ behind)
      (before ++ '#' :: gap).length := by
    refine .of_append ?_ hends
    rwa [List.getLast?_append_of_ne_nil before (List.cons_ne_nil _ _)]
  rw [← List.append_assoc] at hopen
  exact ⟨_, hopen, hstands⟩

/-- What is in a comment is in it in every case. -/
theorem IsInComment.of_sameCaseless {token other source : Text} (h : IsInComment token source)
    (hsame : SameCaseless other token) : IsInComment other source := by
  obtain ⟨position, hopen, hstands⟩ := h
  have hlength := hsame.length_eq
  exact ⟨position, hopen, hsame.trans (hlength ▸ hstands.same), hstands.starts,
    hlength ▸ hstands.ends⟩

/-- No comment is open at the start of a line. -/
theorem not_isOpenAt_zero (source : Text) : ¬ IsOpenAt source 0 :=
  fun ⟨_, hsign, _⟩ => absurd hsign (Nat.not_lt_zero _)

/-- A number sign opens a comment and a newline ends it. -/
theorem isOpenAt_succ {source : Text} {n : Nat} {c : Char} (hc : source[n]? = some c) :
    IsOpenAt source (n + 1) ↔ c = '#' ∨ (IsOpenAt source n ∧ c ≠ '\n') := by
  constructor
  · rintro ⟨sign, hsign, hnumber, hclear⟩
    rcases Nat.lt_succ_iff_lt_or_eq.mp hsign with hbefore | rfl
    · refine .inr ⟨⟨sign, hbefore, hnumber, fun k hk hkn => hclear k hk (by omega)⟩, ?_⟩
      rintro rfl
      exact hclear n hbefore n.lt_succ_self hc
    · exact .inl (Option.some.inj (hc.symm.trans hnumber))
  · rintro (rfl | ⟨⟨sign, hsign, hnumber, hclear⟩, hnewline⟩)
    · exact ⟨n, n.lt_succ_self, hc, fun k hk hkn => absurd hkn (by omega)⟩
    · refine ⟨sign, by omega, hnumber, fun k hk hkn => ?_⟩
      rcases Nat.lt_succ_iff_lt_or_eq.mp hkn with hbefore | rfl
      · exact hclear k hk hbefore
      · rwa [hc, ne_eq, Option.some_inj]

/-! ## The search -/

variable {source : Text}

theorem getElem?_of_drop_eq_cons {n : Nat} {c : Char} {text : Text}
    (h : source.drop n = c :: text) : source[n]? = some c := by
  rw [← List.head?_drop, h, List.head?_cons]

theorem drop_succ_of_drop_eq_cons {n : Nat} {c : Char} {text : Text}
    (h : source.drop n = c :: text) : source.drop (n + 1) = text := by
  rw [← List.tail_drop, h, List.tail_cons]

theorem beginsWith_iff (token : Text) (n : Nat) :
    beginsWith token (characterBefore source n) (source.drop n) = true ↔
      SameCaseless token ((source.drop n).take token.length) ∧
        boundaryAt source (n + token.length) = true := by
  induction token generalizing n with
  | nil => simp [beginsWith, boundaryAt, SameCaseless, List.head?_drop]
  | cons t token ih =>
    cases hrest : source.drop n with
    | nil => simp [beginsWith, SameCaseless]
    | cons c text =>
      have hnext := ih (n + 1)
      rw [drop_succ_of_drop_eq_cons hrest, characterBefore, getElem?_of_drop_eq_cons hrest,
        Nat.add_assoc, Nat.add_comm 1] at hnext
      rw [beginsWith, Bool.and_eq_true, hnext, List.length_cons, List.take_succ_cons,
        SameCaseless.cons_iff, and_assoc]

theorem tokenAt_iff (tokens : List Text) {n : Nat} {text : Text} (htext : source.drop n = text) :
    tokenAt tokens (characterBefore source n) text = true ↔
      ∃ token ∈ tokens, StandsAt token source n := by
  subst htext
  rw [tokenAt, Bool.and_eq_true, List.any_eq_true, List.head?_drop]
  constructor
  · rintro ⟨hstarts, token, htoken, hbegins⟩
    have ⟨hsame, hends⟩ := (beginsWith_iff token n).mp hbegins
    exact ⟨token, htoken, hsame, hstarts, hends⟩
  · rintro ⟨token, htoken, hstands⟩
    exact ⟨hstands.starts, token, htoken, (beginsWith_iff token n).mpr ⟨hstands.same, hstands.ends⟩⟩

/-- The search from a position on finds the tokens that stand there or further on, while a
comment is open. -/
theorem search_iff (tokens : List Text) (text : Text) (n : Nat) (isOpen : Bool)
    (htext : source.drop n = text) (hopen : isOpen = true ↔ IsOpenAt source n) :
    search tokens isOpen (characterBefore source n) text = true ↔
      ∃ position ≥ n, IsOpenAt source position ∧
        ∃ token ∈ tokens, StandsAt token source position := by
  induction text generalizing n isOpen with
  | nil =>
    rw [search, Bool.and_eq_true, hopen, tokenAt_iff tokens htext]
    constructor
    · exact fun h => ⟨n, Nat.le_refl _, h⟩
    · rintro ⟨position, hposition, h⟩
      -- A token further on would start behind the end of the line.
      have hlast : position = n := by
        obtain ⟨-, token, -, hstands⟩ := h
        have := le_length_of_boundaryAt hstands.starts
        have := List.drop_eq_nil_iff.mp htext
        omega
      exact hlast ▸ h
  | cons c text ih =>
    have hc := getElem?_of_drop_eq_cons htext
    have htext' := drop_succ_of_drop_eq_cons htext
    have hopen' : openAfter isOpen c = true ↔ IsOpenAt source (n + 1) := by
      rw [isOpenAt_succ hc, ← hopen, openAfter]
      simp
    have hnext := ih (n + 1) (openAfter isOpen c) htext' hopen'
    rw [characterBefore, hc] at hnext
    rw [search, Bool.or_eq_true, Bool.and_eq_true, hopen, tokenAt_iff tokens htext, hnext]
    constructor
    · rintro (h | ⟨position, hposition, h⟩)
      · exact ⟨n, Nat.le_refl _, h⟩
      · exact ⟨position, by omega, h⟩
    · rintro ⟨position, hposition, h⟩
      rcases Nat.eq_or_lt_of_le hposition with rfl | hlater
      · exact .inl h
      · exact .inr ⟨position, hlater, h⟩

theorem hasComment_iff_effective (source : Text) (tokens : List Text) :
    hasComment source tokens = true ↔
      ∃ token ∈ effectiveTokens tokens, IsInComment token source := by
  have hclosed : false = true ↔ IsOpenAt source 0 := by simp [not_isOpenAt_zero]
  refine (search_iff (effectiveTokens tokens) source 0 false rfl hclosed).trans ⟨?_, ?_⟩
  · rintro ⟨position, -, hopen, token, htoken, hstands⟩
    exact ⟨token, htoken, position, hopen, hstands⟩
  · rintro ⟨token, htoken, position, hopen, hstands⟩
    exact ⟨position, Nat.zero_le _, hopen, token, htoken, hstands⟩

/-! ## Tokens that do not reach the search -/

/-- The tokens have a common stem with one letter behind it, which is not the same for all. -/
structure DifferBehind (stem : Text) (tokens : List Text) : Prop where
  letter : ∀ token ∈ tokens, ∃ c, token = stem ++ [c]
  differ : ∃ token ∈ tokens, ∃ other ∈ tokens, token ≠ other

/-- All tokens agree but for their last letters, and the last letter of this one is a capital
beyond the basic plane. -/
def IsLost (tokens : List Text) (token : Text) : Prop :=
  ∃ stem c, DifferBehind stem tokens ∧ token = stem ++ [c] ∧
    0xFFFF < c.toNat ∧ caselessKey c ≠ c

/-- A length is shared if all texts begin alike up to it. -/
theorem le_sharedLength_iff (text : Text) (others : List Text) (n : Nat) :
    n ≤ sharedLength text others ↔
      n ≤ text.length ∧ ∀ other ∈ others, other.take n = text.take n := by
  induction text generalizing others n with
  | nil => cases n <;> simp [sharedLength]
  | cons c text ih =>
    cases n with
    | zero => simp
    | succ n =>
      unfold sharedLength
      split
      · next hheads =>
        rw [Nat.succ_le_succ_iff, ih, List.length_cons, Nat.succ_le_succ_iff, List.forall_mem_map]
        refine and_congr_right' (forall₂_congr fun other hother => ?_)
        have hhead : other.head? = some c := beq_iff_eq.mp (List.all_eq_true.mp hheads other hother)
        obtain ⟨rest, rfl⟩ := List.head?_eq_some_iff.mp hhead
        simp
      · next hheads =>
        refine iff_of_false (Nat.not_succ_le_zero n) fun ⟨_, hbegin⟩ => hheads ?_
        refine List.all_eq_true.mpr fun other hother => ?_
        have hsame := hbegin other hother
        cases other with
        | nil => cases hsame
        | cons d rest => exact beq_iff_eq.mpr (congrArg some (List.cons.inj hsame).1)

/-- Tokens that are one letter longer than what they share differ behind it. -/
theorem differBehind_of_length {first : Text} {tokens : List Text}
    (hlength : ∀ token ∈ first :: tokens, token.length = sharedLength first tokens + 1) :
    DifferBehind (first.take (sharedLength first tokens)) (first :: tokens) := by
  have hshared := le_sharedLength_iff first tokens
  refine ⟨fun token htoken => ?_, ?_⟩
  · have hbegin : token.take (sharedLength first tokens) =
        first.take (sharedLength first tokens) := by
      rcases List.mem_cons.mp htoken with rfl | hrest
      · rfl
      · exact ((hshared _).mp (Nat.le_refl _)).2 token hrest
    have hlast : (token.drop (sharedLength first tokens)).length = 1 := by
      rw [List.length_drop, hlength token htoken, Nat.add_sub_cancel_left]
    obtain ⟨c, hc⟩ := List.length_eq_one_iff.mp hlast
    exact ⟨c, by rw [← hbegin, ← hc, List.take_append_drop]⟩
  · -- Tokens that are all the same share their full length.
    by_contra hsame
    push Not at hsame
    have hall : ∀ token ∈ tokens, token.take first.length = first.take first.length :=
      fun token htoken => by
        rw [hsame token (List.mem_cons_of_mem _ htoken) first List.mem_cons_self]
    have hfull := (hshared first.length).mpr ⟨Nat.le_refl _, hall⟩
    have := hlength first List.mem_cons_self
    omega

namespace DifferBehind

variable {stem : Text} {tokens : List Text}

theorem length_eq (h : DifferBehind stem tokens) {token : Text} (htoken : token ∈ tokens) :
    token.length = stem.length + 1 := by
  obtain ⟨c, rfl⟩ := h.letter token htoken
  rw [List.length_append, List.length_singleton]

theorem take_eq (h : DifferBehind stem tokens) {token : Text} (htoken : token ∈ tokens) :
    token.take stem.length = stem := by
  obtain ⟨c, rfl⟩ := h.letter token htoken
  exact List.take_left

theorem sharedLength_eq {first : Text} (h : DifferBehind stem (first :: tokens)) :
    sharedLength first tokens = stem.length := by
  have hshared := le_sharedLength_iff first tokens
  have hfirst : first ∈ first :: tokens := List.mem_cons_self
  refine Nat.le_antisymm ?_ ?_
  · by_contra hlonger
    have hall := ((hshared (stem.length + 1)).mp (by omega)).2
    have hsame : ∀ token ∈ first :: tokens, token = first := fun token htoken => by
      rcases List.mem_cons.mp htoken with rfl | hrest
      · rfl
      · have hbegin := hall token hrest
        rwa [← h.length_eq htoken, List.take_length, h.length_eq htoken, ← h.length_eq hfirst,
          List.take_length] at hbegin
    obtain ⟨token, htoken, other, hother, hne⟩ := h.differ
    exact hne ((hsame token htoken).trans (hsame other hother).symm)
  · have hlength := h.length_eq hfirst
    refine (hshared stem.length).mpr ⟨by omega, fun token htoken => ?_⟩
    exact (h.take_eq (List.mem_cons_of_mem first htoken)).trans (h.take_eq hfirst).symm

end DifferBehind

theorem differInLastLetter_iff (tokens : List Text) :
    differInLastLetter tokens = true ↔ ∃ stem, DifferBehind stem tokens := by
  cases tokens with
  | nil => exact iff_of_false Bool.false_ne_true fun ⟨_, _, token, htoken, _⟩ => by cases htoken
  | cons first tokens =>
    rw [differInLastLetter, List.all_eq_true]
    simp only [beq_iff_eq]
    constructor
    · exact fun hlength => ⟨_, differBehind_of_length hlength⟩
    · rintro ⟨stem, hdiffer⟩ token htoken
      rw [hdiffer.sharedLength_eq, hdiffer.length_eq htoken]

theorem mem_effectiveTokens_iff {tokens : List Text} {token : Text} :
    token ∈ effectiveTokens tokens ↔ token ∈ tokens ∧ ¬ IsLost tokens token := by
  unfold effectiveTokens
  split
  · next h =>
    obtain ⟨stem, hdiffer⟩ := (differInLastLetter_iff tokens).mp h
    rw [List.mem_filter]
    refine and_congr_right fun htoken => ?_
    obtain ⟨c, rfl⟩ := hdiffer.letter token htoken
    rw [List.getLast?_concat, Option.any_some, Bool.not_eq_true', ← Bool.not_eq_true, not_iff_not,
      isHighCapital, Bool.and_eq_true, decide_eq_true_eq, bne_iff_ne]
    constructor
    · exact fun h => ⟨stem, c, hdiffer, rfl, h⟩
    · rintro ⟨other, d, -, hsame, h⟩
      have hlast := congrArg List.getLast? hsame
      rw [List.getLast?_concat, List.getLast?_concat, Option.some_inj] at hlast
      exact hlast ▸ h
  · next h =>
    refine (and_iff_left ?_).symm
    rintro ⟨stem, c, hdiffer, -⟩
    exact h ((differInLastLetter_iff tokens).mpr ⟨stem, hdiffer⟩)

/-- The tokens that are found are those in a comment that reach the search. -/
theorem hasComment_iff (source : Text) (tokens : List Text) :
    hasComment source tokens = true ↔
      ∃ token ∈ tokens, ¬ IsLost tokens token ∧ IsInComment token source := by
  rw [hasComment_iff_effective]
  simp only [mem_effectiveTokens_iff, and_assoc]

/-! ## A line for each token -/

/-- A character that makes a word boundary with the start of the token. -/
def gap (token : Text) : Char :=
  if wordAt token.head? then ' ' else '_'

/-- A line with the token in its comment and nothing else. -/
def probe (token : Text) : Text :=
  '#' :: gap token :: token

theorem gap_ne_newline (token : Text) : gap token ≠ '\n' := by
  unfold gap
  split <;> decide

theorem isBoundary_gap (token : Text) : isBoundary (some (gap token)) token.head? = true := by
  have hblank : wordAt (some ' ') = false := by decide +kernel
  have hlow : wordAt (some '_') = true := by decide +kernel
  unfold gap isBoundary
  split
  · next h => rw [hblank, h]; rfl
  · next h => rw [hlow, Bool.eq_false_iff.mpr h]; rfl

theorem isInComment_probe (stem : Text) {c : Char} (hword : isWord c = true) :
    IsInComment (stem ++ [c]) (probe (stem ++ [c])) := by
  have hgap : '\n' ∉ [gap (stem ++ [c])] :=
    fun h => gap_ne_newline _ (List.mem_singleton.mp h).symm
  have hends : isBoundary (['#', gap (stem ++ [c])] ++ (stem ++ [c])).getLast? none = true := by
    rw [← List.append_assoc, List.getLast?_concat, isBoundary, wordAt, Option.any_some, hword]
    rfl
  have hstarts : isBoundary ['#', gap (stem ++ [c])].getLast? (stem ++ [c] ++ []).head? = true := by
    rw [List.append_nil]
    exact isBoundary_gap _
  have hin : IsInComment (stem ++ [c]) ([] ++ ['#', gap (stem ++ [c])] ++ (stem ++ [c]) ++ []) :=
    isInComment_append hgap hstarts hends
  rwa [List.append_nil] at hin

/-- What stands in the comment of the line is the token up to case, if it is as long and starts
alike. -/
theorem sameCaseless_of_isInComment_probe {token other : Text}
    (hlength : other.length = token.length) (hpos : 0 < token.length)
    (hhead : wordAt token.head? = true ∨ other.head? = token.head?)
    (h : IsInComment other (probe token)) : SameCaseless other token := by
  obtain ⟨position, ⟨sign, hsign, -⟩, hsame, hstarts, -⟩ := h
  have hfits := hsame.length_eq
  rw [List.length_take, List.length_drop, probe, List.length_cons, List.length_cons] at hfits
  have hposition : position = 1 ∨ position = 2 := by omega
  rcases hposition with rfl | rfl
  · -- It would have to start with the gap, which no such token does.
    cases other with
    | nil => exact absurd hlength (Nat.ne_of_lt hpos)
    | cons d rest =>
      have hgap : sameCaseless d (gap token) = true := (SameCaseless.cons_iff.mp hsame).1
      have hboundary : isBoundary (some '#') (some (gap token)) = true := hstarts
      by_cases hword : wordAt token.head? = true
      · rw [gap, if_pos hword] at hboundary
        exact absurd hboundary (by decide +kernel)
      · rw [gap, if_neg hword] at hgap
        rw [← hhead.resolve_left hword, List.head?_cons, eq_underscore_of_sameCaseless hgap]
          at hword
        exact absurd (by decide +kernel) hword
  · rwa [show (probe token).drop 2 = token from rfl, hlength, List.take_length] at hsame

/-- The line for a lost token is found only through a twin of the token that is not lost. -/
theorem exists_twin_of_hasComment_probe {stem : Text} {c : Char} {tokens : List Text}
    (hdiffer : DifferBehind stem tokens) (htoken : stem ++ [c] ∈ tokens) (hword : isWord c = true)
    (h : hasComment (probe (stem ++ [c])) tokens = true) :
    ∃ other ∈ tokens, ¬ IsLost tokens other ∧ SameCaseless other (stem ++ [c]) := by
  obtain ⟨other, hother, hreaches, hin⟩ := (hasComment_iff _ tokens).mp h
  refine ⟨other, hother, hreaches, sameCaseless_of_isInComment_probe ?_ ?_ ?_ hin⟩
  · rw [hdiffer.length_eq hother, hdiffer.length_eq htoken]
  · rw [hdiffer.length_eq htoken]
    exact Nat.succ_pos _
  · obtain ⟨d, rfl⟩ := hdiffer.letter other hother
    cases stem with
    | nil => exact .inl hword
    | cons a stem => exact .inr rfl

/-- The search decides, for all lines, whether a token that is not lost is in a comment. It
decides this for all tokens exactly if each lost token has a twin that is not lost. -/
theorem hasComment_exact_unless_lost (tokens : List Text) :
    (∀ source, hasComment source tokens = true ↔
      ∃ token ∈ tokens, ¬ IsLost tokens token ∧ IsInComment token source) ∧
    ((∀ source, hasComment source tokens = true ↔
        ∃ token ∈ tokens, IsInComment token source) ↔
      ∀ token ∈ tokens, IsLost tokens token →
        ∃ other ∈ tokens, ¬ IsLost tokens other ∧ SameCaseless other token) := by
  refine ⟨fun source => hasComment_iff source tokens, ?_, ?_⟩
  · rintro hexact token htoken ⟨stem, c, hdiffer, rfl, hhigh, hkey⟩
    have hword := isWord_of_ne_caselessKey hhigh hkey
    have hfound := (hexact _).mpr ⟨_, htoken, isInComment_probe stem hword⟩
    exact exists_twin_of_hasComment_probe hdiffer htoken hword hfound
  · intro htwin source
    rw [hasComment_iff]
    constructor
    · rintro ⟨token, htoken, -, hin⟩
      exact ⟨token, htoken, hin⟩
    · rintro ⟨token, htoken, hin⟩
      by_cases hlost : IsLost tokens token
      · obtain ⟨other, hother, hreaches, hsame⟩ := htwin token htoken hlost
        exact ⟨other, hother, hreaches, hin.of_sameCaseless hsame⟩
      · exact ⟨token, htoken, hlost, hin⟩

/-- A capital letter beyond the basic plane is missed where the other token is another letter. -/
theorem not_hasComment_of_capital_letter :
    ¬ (hasComment ['#', ' ', Char.ofNat 0x10400] [[Char.ofNat 0x10400], ['z']] = true ↔
      ∃ token ∈ [[Char.ofNat 0x10400], ['z']],
        IsInComment token ['#', ' ', Char.ofNat 0x10400]) := by
  have hword : isWord (Char.ofNat 0x10400) = true := by decide +kernel
  have hline : probe [Char.ofNat 0x10400] = ['#', ' ', Char.ofNat 0x10400] := by decide +kernel
  have hin : IsInComment [Char.ofNat 0x10400] ['#', ' ', Char.ofNat 0x10400] :=
    hline ▸ isInComment_probe [] hword
  intro hexact
  have hfound := hexact.mpr ⟨_, List.mem_cons_self, hin⟩
  exact absurd hfound (by decide +kernel)

end DiagnosticMarkers.Suppression
