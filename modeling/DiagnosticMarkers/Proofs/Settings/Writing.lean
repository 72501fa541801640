import DiagnosticMarkers.Proofs.Settings.Spelling

/-!
# Settings that are written down

Settings that were accepted can be written into a table again, each field under its name in any
spelling, and the fields in any order. The table is accepted and gives the settings back, since
what was trimmed and rid of repetitions stays as it is.
-/

namespace DiagnosticMarkers.Settings

open Text

variable {settings : Settings}

/-! ## What settings hold -/

/-- Nothing is left to trim or to leave out. -/
structure IsNormal (settings : Settings) : Prop where
  tokens : ∀ token ∈ settings.tokens, IsSingleWord token ∧ trim token = token
  distinct : settings.tokens.Nodup
  executable : settings.executable ≠ [] ∧ trim settings.executable = settings.executable

theorem isNormal_default : IsNormal {} where
  tokens := by decide +kernel
  distinct := by decide
  executable := by decide

theorem Field.Holds.tokens_normal {given : Option Value}
    (h : Field.tokens.Holds given settings) :
    (∀ token ∈ settings.tokens, IsSingleWord token ∧ trim token = token) ∧
      settings.tokens.Nodup := by
  cases given with
  | none =>
    rw [show settings.tokens = ({} : Settings).tokens from h]
    exact ⟨isNormal_default.tokens, isNormal_default.distinct⟩
  | some value =>
    obtain ⟨texts, -, hwords, hkept⟩ := h
    rw [hkept]
    refine ⟨fun token htoken => ?_, (keepsFirsts_eraseDups _).nodup⟩
    obtain ⟨text, htext, rfl⟩ := List.mem_map.mp (List.mem_eraseDups.mp htoken)
    exact ⟨hwords text htext, trim_trim text⟩

theorem Field.Holds.executable_normal {given : Option Value}
    (h : Field.executable.Holds given settings) :
    settings.executable ≠ [] ∧ trim settings.executable = settings.executable := by
  cases given with
  | none =>
    rw [show settings.executable = ({} : Settings).executable from h]
    exact isNormal_default.executable
  | some value =>
    obtain ⟨text, -, hne, htrimmed⟩ := h
    rw [htrimmed]
    exact ⟨hne, trim_trim text⟩

/-- Accepted settings are normal, whether a field is given or has its default. -/
theorem isNormal_of_ofTable {given : Table} (h : ofTable given = .ok settings) :
    settings.IsNormal := by
  have hholds := ((ofTable_eq_ok_iff given settings).mp h).2
  obtain ⟨htokens, hdistinct⟩ := (hholds .tokens).tokens_normal
  exact ⟨htokens, hdistinct, (hholds .executable).executable_normal⟩

/-- What the settings hold in the field, as a value. -/
def Field.valueIn : Field → Settings → Value
  | heading, settings => .text settings.heading
  | tokens, settings => .array (settings.tokens.map .text)
  | caseSensitive, settings => .boolean settings.caseSensitive
  | executable, settings => .text settings.executable
  | arguments, settings => .array (settings.arguments.map .text)

/-- Normal settings hold what their own values mean. -/
theorem IsNormal.means_valueIn (h : settings.IsNormal) (field : Field) :
    field.Means (field.valueIn settings) settings := by
  cases field with
  | heading => rfl
  | tokens =>
    have htrimmed : settings.tokens.map trim = settings.tokens :=
      (List.map_congr_left fun token htoken => (h.tokens token htoken).2).trans (List.map_id _)
    refine ⟨settings.tokens, rfl, fun token htoken => ?_, ?_⟩
    · rw [(h.tokens token htoken).2]
      exact (h.tokens token htoken).1
    · rw [htrimmed, eraseDups_of_nodup h.distinct]
  | caseSensitive => exact .boolean settings.caseSensitive
  | executable =>
    obtain ⟨hne, htrimmed⟩ := h.executable
    exact ⟨settings.executable, rfl, htrimmed.symm ▸ hne, htrimmed.symm⟩
  | arguments => rfl

/-! ## Tables with all fields -/

/-- The fields in order, each under its name. -/
def written (settings : Settings) : Table :=
  Field.all.map fun field => (field.name.toList, field.valueIn settings)

theorem find?_written (settings : Settings) (field : Field) :
    (written settings).find? field.name.toList = some (field.valueIn settings) := by
  cases field with
  | heading | tokens | caseSensitive | executable | arguments => rfl

theorem ofFields_written (h : settings.IsNormal) : ofFields (written settings) = .ok settings := by
  refine (ofFields_eq_ok_iff_holds _ _).mpr ⟨fun key hkey => ?_, fun field => ?_⟩
  · rw [written, List.map_map] at hkey
    obtain ⟨field, -, rfl⟩ := List.mem_map.mp hkey
    exact ⟨field, rfl⟩
  · rw [find?_written]
    exact h.means_valueIn field

/-- The key is the name, but there may be dashes for underscores. -/
def IsSpelling (key name : Text) : Prop :=
  List.Forall₂ (fun c d => c = d ∨ c = '-' ∧ d = '_') key name

instance (key name : Text) : Decidable (IsSpelling key name) :=
  inferInstanceAs (Decidable (List.Forall₂ _ key name))

theorem normalizeKey_of_isSpelling {key name : Text} (h : IsSpelling key name)
    (hname : '-' ∉ name) : normalizeKey key = name := by
  induction h with
  | nil => rfl
  | @cons c d key name hletter _ ih =>
    have hnormal : (if c = '-' then '_' else c) = d := by
      rcases hletter with rfl | ⟨rfl, rfl⟩
      · exact if_neg (List.ne_of_not_mem_cons hname).symm
      · rfl
    rw [normalizeKey, substitute, List.map_cons, hnormal]
    exact congrArg _ (ih (List.not_mem_of_not_mem_cons hname))

/-- The entry has the value of the field, under its name in some spelling. -/
def Field.IsWrittenIn (field : Field) (settings : Settings) (entry : Text × Value) : Prop :=
  IsSpelling entry.1 field.name.toList ∧ entry.2 = field.valueIn settings

/-- There is one entry for each field, in any order. -/
def Writes (entries : Table) (settings : Settings) : Prop :=
  ∃ ordered : Table, entries.Perm ordered ∧
    List.Forall₂ (fun entry field => Field.IsWrittenIn field settings entry) ordered Field.all

theorem map_normalizeKey_of_forall₂ {ordered : Table} {fields : List Field}
    (h : List.Forall₂ (fun entry field => Field.IsWrittenIn field settings entry)
      ordered fields) :
    (ordered.map fun entry => (normalizeKey entry.1, entry.2)) =
      fields.map fun field => (field.name.toList, field.valueIn settings) := by
  have hdashes (field : Field) : '-' ∉ field.name.toList := by
    cases field <;> decide
  induction h with
  | nil => rfl
  | @cons entry field ordered fields hentry _ ih =>
    obtain ⟨hkey, hvalue⟩ := hentry
    rw [List.map_cons, List.map_cons, ih]
    exact congrArg (· :: _) (Prod.ext (normalizeKey_of_isSpelling hkey (hdashes field)) hvalue)

theorem IsNormal.ofTable_of_writes {entries : Table} (h : settings.IsNormal)
    (hwrites : Writes entries settings) : ofTable entries = .ok settings := by
  obtain ⟨ordered, hperm, hordered⟩ := hwrites
  have hmap := map_normalizeKey_of_forall₂ hordered
  have hkeys : (ordered.map fun entry => normalizeKey entry.1) =
      Field.all.map fun field => field.name.toList := by
    have hfirst := congrArg (List.map Prod.fst) hmap
    rw [List.map_map, List.map_map] at hfirst
    exact hfirst
  have hreordered : Reordered ordered entries :=
    reordered_of_perm hperm (hkeys ▸ by decide)
  rw [hreordered.ofTable_eq_ok_iff, ofTable, normalizeKeys_eq, hmap]
  exact ofFields_written h

/-- Accepted settings that are written into a table come back from it, however the keys are
spelled and whichever order the fields are in. -/
theorem ofTable_gives_back_written {given entries : Table} (hgiven : ofTable given = .ok settings)
    (hwrites : Writes entries settings) : ofTable entries = .ok settings :=
  (isNormal_of_ofTable hgiven).ofTable_of_writes hwrites

/-- Tokens with blanks around them, one of them twice, and an answer in words are written down in
another order, with dashes here and there. -/
theorem ofTable_gives_back_written_in_mixed_spellings :
    let given : Table :=
      [("suppression-tokens".toList,
          .array [.text " noqa".toList, .text "skip".toList, .text "noqa\n".toList]),
        ("case_sensitive_paths".toList, .text "Off".toList),
        ("mypy-executable".toList, .text " dmypy ".toList)]
    let settings : Settings :=
      { tokens := ["noqa".toList, "skip".toList], caseSensitive := false,
        executable := "dmypy".toList }
    let heading := ("message-prefix".toList, Field.heading.valueIn settings)
    let tokens := ("suppression_tokens".toList, Field.tokens.valueIn settings)
    let caseSensitive := ("case-sensitive_paths".toList, Field.caseSensitive.valueIn settings)
    let executable := ("mypy-executable".toList, Field.executable.valueIn settings)
    let arguments := ("mypy_args".toList, Field.arguments.valueIn settings)
    let entries : Table := [executable, heading, tokens, caseSensitive, arguments]
    ofTable given = .ok settings ∧ Writes entries settings ∧ ofTable entries = .ok settings := by
  intro given settings heading tokens caseSensitive executable arguments entries
  have hgiven : ofTable given = .ok settings := by decide +kernel
  have hwrites : Writes entries settings := by
    refine ⟨[heading, tokens, caseSensitive, executable, arguments],
      (@List.perm_middle _ executable [heading, tokens, caseSensitive] [arguments]).symm, ?_⟩
    exact .cons ⟨by decide, rfl⟩ <| .cons ⟨by decide, rfl⟩ <| .cons ⟨by decide, rfl⟩ <|
      .cons ⟨by decide, rfl⟩ <| .cons ⟨by decide, rfl⟩ .nil
  exact ⟨hgiven, hwrites, ofTable_gives_back_written hgiven hwrites⟩

end DiagnosticMarkers.Settings
