import DiagnosticMarkers.Proofs.Settings.Fields
import DiagnosticMarkers.Proofs.Suppression.Comment
import DiagnosticMarkers.Proofs.Text.Trim

/-!
# Tokens in the settings

The tokens of the settings are the trimmed ones that were given, each once, where it came first.
They are accepted if each of them is a single word. Then each is found in a comment of its own,
unless it does not reach the search.
-/

namespace DiagnosticMarkers.Settings

open Text Suppression

/-! ## Each token once -/

/-- What is kept of a list is each of its texts once, in the order in which they first come. -/
structure KeepsFirsts (given kept : List Text) : Prop where
  mem_iff : ∀ text, text ∈ kept ↔ text ∈ given
  inOrder : kept.Pairwise fun text later => given.idxOf text < given.idxOf later

namespace KeepsFirsts

variable {given kept : List Text} {text : Text}

theorem idxOf_concat (h : KeepsFirsts given kept) (text : Text) :
    kept.Pairwise fun other later =>
      (given ++ [text]).idxOf other < (given ++ [text]).idxOf later :=
  h.inOrder.imp_of_mem fun hother hlater hbefore => by
    rwa [List.idxOf_append_of_mem ((h.mem_iff _).mp hother),
      List.idxOf_append_of_mem ((h.mem_iff _).mp hlater)]

/-- A text that was there before is not kept again. -/
theorem concat_of_mem (h : KeepsFirsts given kept) (htext : text ∈ given) :
    KeepsFirsts (given ++ [text]) kept where
  mem_iff other := by
    rw [h.mem_iff, List.mem_append, List.mem_singleton]
    exact ⟨.inl, fun hother => hother.elim id fun hsame => hsame ▸ htext⟩
  inOrder := h.idxOf_concat text

theorem concat_of_notMem (h : KeepsFirsts given kept) (htext : text ∉ given) :
    KeepsFirsts (given ++ [text]) (kept ++ [text]) where
  mem_iff other := by rw [List.mem_append, h.mem_iff, List.mem_append]
  inOrder := by
    refine List.pairwise_append.mpr ⟨h.idxOf_concat text, List.pairwise_singleton _ _, ?_⟩
    intro other hother later hlater
    obtain rfl := List.mem_singleton.mp hlater
    have hmem := (h.mem_iff other).mp hother
    rw [List.idxOf_append_of_mem hmem, List.idxOf_append_of_notMem htext]
    exact Nat.lt_of_lt_of_le (List.idxOf_lt_length_of_mem hmem) (Nat.le_add_right _ _)

end KeepsFirsts

theorem keepsFirsts_eraseDups (given : List Text) : KeepsFirsts given given.eraseDups := by
  induction given using List.reverseRecOn with
  | nil => exact ⟨fun _ => Iff.rfl, List.Pairwise.nil⟩
  | append_singleton given text ih =>
    rw [List.eraseDups_append]
    by_cases htext : text ∈ given
    · rw [List.removeAll, List.filter_cons_of_neg (by simpa using htext)]
      exact (List.append_nil _).symm ▸ ih.concat_of_mem htext
    · rw [List.removeAll, List.filter_cons_of_pos (by simpa using htext)]
      exact ih.concat_of_notMem htext

theorem KeepsFirsts.nodup {given kept : List Text} (h : KeepsFirsts given kept) : kept.Nodup :=
  h.inOrder.imp fun hbefore hsame => absurd (hsame ▸ hbefore) (Nat.lt_irrefl _)

theorem eraseDups_of_nodup {texts : List Text} (h : texts.Nodup) : texts.eraseDups = texts := by
  induction texts using List.reverseRecOn with
  | nil => rfl
  | append_singleton texts text ih =>
    obtain ⟨htexts, -, hapart⟩ := List.nodup_append.mp h
    have htext : text ∉ texts := fun hmem => hapart text hmem text List.mem_cons_self rfl
    rw [List.eraseDups_append, ih htexts, List.removeAll,
      List.filter_cons_of_pos (by simpa using htext)]
    rfl

/-! ## Words -/

/-- The text is a single word. -/
def IsSingleWord (text : Text) : Prop :=
  text ≠ [] ∧ ∀ c ∈ text, isWord c = true

instance (text : Text) : Decidable (IsSingleWord text) :=
  decidable_of_iff (text ≠ [] ∧ text.all isWord = true) (and_congr_right' List.all_eq_true)

theorem IsSingleWord.wordAt_head? {text : Text} (h : IsSingleWord text) :
    wordAt text.head? = true := by
  rw [List.head?_eq_some_head h.1, wordAt, Option.any_some]
  exact h.2 _ (List.head_mem h.1)

theorem IsSingleWord.wordAt_getLast? {text : Text} (h : IsSingleWord text) :
    wordAt text.getLast? = true := by
  rw [List.getLast?_eq_some_getLast h.1, wordAt, Option.any_some]
  exact h.2 _ (List.getLast_mem h.1)

/-- No newline is left behind a trimmed text. -/
theorem getLast?_trim_ne_newline (text : Text) : (trim text).getLast? ≠ some '\n' := by
  intro hlast
  have hne : (trimStart text).rdropWhile isBlank ≠ [] := by
    rintro hempty
    rw [show trim text = [] from hempty] at hlast
    cases hlast
  have hblank := List.rdropWhile_last_not isBlank (trimStart text) hne
  have hnewline : ((trimStart text).rdropWhile isBlank).getLast hne = '\n' :=
    Option.some.inj ((List.getLast?_eq_getLast_of_ne_nil hne).symm.trans hlast)
  rw [hnewline] at hblank
  exact hblank (by decide)

theorem isToken_trim_iff (text : Text) :
    isToken (trim text) = true ↔ IsSingleWord (trim text) := by
  rw [isToken, if_neg (getLast?_trim_ne_newline text), Bool.and_eq_true, Bool.not_eq_true',
    List.isEmpty_eq_false_iff, List.all_eq_true, IsSingleWord]

theorem checkTokens_of_forall {given : List Text}
    (h : ∀ token ∈ given, IsSingleWord (trim token)) :
    checkTokens given = .ok (given.map trim).eraseDups := by
  have hnone : (given.find? fun token => !isToken (trim token)) = none :=
    List.find?_eq_none.mpr fun token htoken => by
      simpa using (isToken_trim_iff token).mpr (h token htoken)
  rw [checkTokens, hnone]

/-- The first token that is no single word is named. -/
theorem checkTokens_of_first {before : List Text} {token : Text} (after : List Text)
    (hbefore : ∀ other ∈ before, IsSingleWord (trim other))
    (htoken : ¬ IsSingleWord (trim token)) :
    checkTokens (before ++ token :: after) =
      .error (.ruleBroken ("invalid suppression token ".toList ++ quoted token)) := by
  have hfirst : ((before ++ token :: after).find? fun token => !isToken (trim token)) =
      some token := by
    refine List.find?_eq_some_iff_append.mpr ⟨?_, before, after, rfl, fun other hother => ?_⟩
    · rwa [Bool.not_eq_true', ← Bool.not_eq_true, isToken_trim_iff]
    · rw [(isToken_trim_iff other).mpr (hbefore other hother)]
      rfl
  rw [checkTokens, hfirst]

theorem exists_first_of_not_forall {given : List Text}
    (h : ¬ ∀ token ∈ given, IsSingleWord (trim token)) :
    ∃ before token after, given = before ++ token :: after ∧
      (∀ other ∈ before, IsSingleWord (trim other)) ∧ ¬ IsSingleWord (trim token) := by
  have hsome : (given.find? fun token => !decide (IsSingleWord (trim token))).isSome := by
    simpa using h
  obtain ⟨token, hfind⟩ := Option.isSome_iff_exists.mp hsome
  obtain ⟨htoken, before, after, hgiven, hbefore⟩ := List.find?_eq_some_iff_append.mp hfind
  refine ⟨before, token, after, hgiven, fun other hother => ?_, ?_⟩
  · simpa using hbefore other hother
  · simpa using htoken

/-! ## Finding the tokens -/

/-- The token is found wherever it stands in a comment with nothing else of a word around it. -/
def IsFoundInComments (token : Text) (tokens : List Text) : Prop :=
  ∀ before gap behind : Text, '\n' ∉ gap → (∀ c ∈ gap.getLast?, isWord c = false) →
    (∀ c ∈ behind.head?, isWord c = false) →
    hasComment (before ++ '#' :: gap ++ token ++ behind) tokens = true

theorem isWord_of_mem_blank : ∀ c ∈ [' '].getLast?, isWord c = false := by
  rintro c ⟨⟩
  decide +kernel

/-- A single word has boundaries between characters that are none of words. -/
theorem isInComment_of_isSingleWord {token before gap behind : Text} (htoken : IsSingleWord token)
    (hgap : '\n' ∉ gap) (hbefore : ∀ c ∈ gap.getLast?, isWord c = false)
    (hbehind : ∀ c ∈ behind.head?, isWord c = false) :
    IsInComment token (before ++ '#' :: gap ++ token ++ behind) := by
  have hsign : wordAt ('#' :: gap).getLast? = false := by
    rw [List.getLast?_cons]
    cases hlast : gap.getLast? with
    | none => decide +kernel
    | some c => exact hbefore c hlast
  have hend : wordAt behind.head? = false := by
    cases behind with
    | nil => rfl
    | cons c behind => exact hbehind c rfl
  refine isInComment_append hgap ?_ ?_
  · rw [List.head?_append_of_ne_nil _ htoken.1, isBoundary, hsign, htoken.wordAt_head?]
    rfl
  · rw [List.getLast?_append_of_ne_nil _ htoken.1, isBoundary, hend, htoken.wordAt_getLast?]
    rfl

theorem isFoundInComments_iff {token : Text} {tokens : List Text} (htoken : IsSingleWord token)
    (hmem : token ∈ tokens) :
    IsFoundInComments token tokens ↔
      (IsLost tokens token →
        ∃ other ∈ tokens, ¬ IsLost tokens other ∧ SameCaseless other token) := by
  constructor
  · rintro hfound ⟨stem, c, hdiffer, rfl, -⟩
    have hword : isWord c = true := htoken.2 c (by simp)
    have hprobe : probe (stem ++ [c]) = [] ++ '#' :: [' '] ++ (stem ++ [c]) ++ [] := by
      rw [probe, gap, if_pos htoken.wordAt_head?, List.append_nil]
      rfl
    refine exists_twin_of_hasComment_probe hdiffer hmem hword ?_
    rw [hprobe]
    exact hfound [] [' '] [] (by decide) isWord_of_mem_blank (by simp)
  · intro htwin before gap behind hgap hbefore hbehind
    have hin : IsInComment token (before ++ '#' :: gap ++ token ++ behind) :=
      isInComment_of_isSingleWord htoken hgap hbefore hbehind
    rw [hasComment_iff]
    by_cases hlost : IsLost tokens token
    · obtain ⟨other, hother, hreaches, hsame⟩ := htwin hlost
      exact ⟨other, hother, hreaches, hin.of_sameCaseless hsame⟩
    · exact ⟨token, hmem, hlost, hin⟩

/-! ## Tokens that are given -/

theorem readItems_texts (index : Nat) (given : List Text) :
    Value.readItems index (given.map .text) = .ok given := by
  induction given generalizing index with
  | nil => rfl
  | cons token given ih =>
    rw [List.map_cons, Value.readItems, ih]
    rfl

theorem readChecked_texts (check : List Text → Except Refusal (List Text)) (given : List Text) :
    readChecked check (.array (given.map .text)) = inPlace (check given) := by
  rw [readChecked, Value.readTexts, readItems_texts]
  rfl

section

variable {fields : Table} {given : List Text}
  (hgiven : fields.find? "suppression_tokens".toList = some (.array (given.map .text)))

include hgiven

theorem readTokens_of_texts :
    readTokens fields = inField "suppression_tokens".toList (inPlace (checkTokens given)) := by
  rw [readTokens, readField, hgiven]
  exact congrArg _ (readChecked_texts checkTokens given)

theorem readTokens_of_forall (h : ∀ token ∈ given, IsSingleWord (trim token)) :
    readTokens fields = .ok (given.map trim).eraseDups := by
  rw [readTokens_of_texts hgiven, checkTokens_of_forall h]
  rfl

theorem errorsAt_tokens_of_first {before after : List Text} {token : Text}
    (hsplit : given = before ++ token :: after)
    (hbefore : ∀ other ∈ before, IsSingleWord (trim other))
    (htoken : ¬ IsSingleWord (trim token)) :
    errorsAt "suppression_tokens" (errorsOf (ofFields fields)) =
      [⟨[.field "suppression_tokens".toList],
        .ruleBroken ("invalid suppression token ".toList ++ quoted token)⟩] := by
  rw [errorsAt_tokens, readTokens_of_texts hgiven, hsplit,
    checkTokens_of_first after hbefore htoken]
  rfl

end

/-- Tokens are refused exactly if one of them is no single word, and the first such one is named.
Otherwise the trimmed tokens are kept, each once, and the other settings are what they would be
without them. Each token is found in comments exactly if it is not lost or has a twin that is
not. -/
theorem tokens_exact_unless_lost {fields : Table} {given : List Text}
    (hgiven : fields.find? "suppression_tokens".toList = some (.array (given.map .text))) :
    (errorsAt "suppression_tokens" (errorsOf (ofFields fields)) = [] ↔
      ∀ token ∈ given, IsSingleWord (trim token)) ∧
    (∀ before token after, given = before ++ token :: after →
      (∀ other ∈ before, IsSingleWord (trim other)) → ¬ IsSingleWord (trim token) →
      errorsAt "suppression_tokens" (errorsOf (ofFields fields)) =
        [⟨[.field "suppression_tokens".toList],
          .ruleBroken ("invalid suppression token ".toList ++ quoted token)⟩]) ∧
    ((∀ token ∈ given, IsSingleWord (trim token)) →
      let tokens := (given.map trim).eraseDups
      KeepsFirsts (given.map trim) tokens ∧
      ofFields fields = (ofFields (without "suppression_tokens" fields)).map
        (fun settings => { settings with tokens }) ∧
      ∀ token ∈ given, IsFoundInComments (trim token) tokens ↔
        (IsLost tokens (trim token) →
          ∃ other ∈ tokens, ¬ IsLost tokens other ∧ SameCaseless other (trim token))) := by
  refine ⟨⟨fun hnone => ?_, fun h => ?_⟩, ?_, fun h => ⟨keepsFirsts_eraseDups _, ?_, ?_⟩⟩
  · by_contra hbad
    obtain ⟨before, token, after, hsplit, hbefore, htoken⟩ := exists_first_of_not_forall hbad
    rw [errorsAt_tokens_of_first hgiven hsplit hbefore htoken] at hnone
    cases hnone
  · rw [errorsAt_tokens, readTokens_of_forall hgiven h]
    rfl
  · exact fun before token after => errorsAt_tokens_of_first hgiven
  · exact ofFields_of_readTokens (readTokens_of_forall hgiven h)
  · intro token htoken
    exact isFoundInComments_iff (h token htoken)
      (List.mem_eraseDups.mpr (List.mem_map_of_mem htoken))

/-- A token that is given twice, with different blanks around it, is found once it is kept. -/
theorem tokens_exact_unless_lost_of_repeated_token :
    let given : List Text := [" noqa".toList, "skip".toList, "noqa\n".toList]
    let fields : Table := [("suppression_tokens".toList, .array (given.map .text))]
    fields.find? "suppression_tokens".toList = some (.array (given.map .text)) ∧
      ofFields fields = .ok { tokens := ["noqa".toList, "skip".toList] } ∧
      IsFoundInComments (trim "noqa\n".toList) ["noqa".toList, "skip".toList] := by
  intro given fields
  have hgiven : fields.find? "suppression_tokens".toList = some (.array (given.map .text)) := rfl
  obtain ⟨-, -, haccepted⟩ := tokens_exact_unless_lost hgiven
  have hwords : ∀ token ∈ given, IsSingleWord (trim token) := by decide +kernel
  obtain ⟨-, hsettings, hfound⟩ := haccepted hwords
  have hkept : (given.map trim).eraseDups = ["noqa".toList, "skip".toList] := by decide +kernel
  rw [hkept] at hsettings hfound
  refine ⟨hgiven, hsettings, (hfound _ (by decide +kernel)).mpr fun hlost => ?_⟩
  obtain ⟨stem, c, hdiffer, -⟩ := hlost
  exact absurd ((differInLastLetter_iff _).mpr ⟨stem, hdiffer⟩) (by decide +kernel)

/-- A capital letter beyond the basic plane is accepted as a token beside another letter, and not
found in its own comment. -/
theorem not_isFoundInComments_of_capital_letter :
    let given : List Text := [[Char.ofNat 0x10400], ['z']]
    ofFields [("suppression_tokens".toList, .array (given.map .text))] = .ok { tokens := given } ∧
      ¬ IsFoundInComments (trim [Char.ofNat 0x10400]) given := by
  intro given
  refine ⟨by decide +kernel, fun hfound => ?_⟩
  have hline := hfound [] [' '] [] (by decide) isWord_of_mem_blank (by simp)
  exact absurd hline (by decide +kernel)

end DiagnosticMarkers.Settings
