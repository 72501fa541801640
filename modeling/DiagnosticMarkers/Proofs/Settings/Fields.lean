import DiagnosticMarkers.Proofs.Table
import DiagnosticMarkers.Settings.Basic

/-!
# Settings, field by field

The settings in a table are what is read from each of its fields. An error says in which field it
is, so the errors of one field can be told from the others, and a field that is read does not
change what becomes of the others.
-/

namespace DiagnosticMarkers.Settings

/-! ## The readings -/

variable {fields : Table} {settings : Settings}

def readHeading (fields : Table) : Except (List FieldError) Text :=
  readField fields "message_prefix" ({} : Settings).heading fun value => inPlace value.readText

def readTokens (fields : Table) : Except (List FieldError) (List Text) :=
  readField fields "suppression_tokens" ({} : Settings).tokens (readChecked checkTokens)

def readCaseSensitive (fields : Table) : Except (List FieldError) Bool :=
  readField fields "case_sensitive_paths" ({} : Settings).caseSensitive
    fun value => inPlace value.readBoolean

def readExecutable (fields : Table) : Except (List FieldError) Text :=
  readField fields "mypy_executable" ({} : Settings).executable
    fun value => inPlace (value.readText >>= checkExecutable)

def readArguments (fields : Table) : Except (List FieldError) (List Text) :=
  readField fields "mypy_args" ({} : Settings).arguments Value.readTexts

/-- Each field is read as the settings have it, and there are no other keys. -/
structure IsRead (fields : Table) (settings : Settings) : Prop where
  heading : readHeading fields = .ok settings.heading
  tokens : readTokens fields = .ok settings.tokens
  caseSensitive : readCaseSensitive fields = .ok settings.caseSensitive
  executable : readExecutable fields = .ok settings.executable
  arguments : readArguments fields = .ok settings.arguments
  known : unknownKeys fields = []

/-- All that is wrong with a table. -/
def refused (fields : Table) : List FieldError :=
  errorsOf (readHeading fields) ++ errorsOf (readTokens fields) ++
    errorsOf (readCaseSensitive fields) ++ errorsOf (readExecutable fields) ++
    errorsOf (readArguments fields) ++ unknownKeys fields

theorem ofFields_eq (fields : Table) :
    ofFields fields =
      match readHeading fields, readTokens fields, readCaseSensitive fields,
        readExecutable fields, readArguments fields, unknownKeys fields with
      | .ok heading, .ok tokens, .ok caseSensitive, .ok executable, .ok arguments, [] =>
        .ok { heading, tokens, caseSensitive, executable, arguments }
      | heading, tokens, caseSensitive, executable, arguments, unknown =>
        .error (errorsOf heading ++ errorsOf tokens ++ errorsOf caseSensitive ++
          errorsOf executable ++ errorsOf arguments ++ unknown) :=
  rfl

theorem ofFields_of_isRead (h : IsRead fields settings) : ofFields fields = .ok settings := by
  rw [ofFields_eq, h.heading, h.tokens, h.caseSensitive, h.executable, h.arguments, h.known]

theorem ofFields_of_not_isRead (h : ∀ settings, ¬ IsRead fields settings) :
    ofFields fields = .error (refused fields) := by
  rw [ofFields_eq]
  split
  · next heading tokens caseSensitive executable arguments hheading htokens hcase hexecutable
      harguments hknown =>
    exact absurd ⟨hheading, htokens, hcase, hexecutable, harguments, hknown⟩
      (h { heading, tokens, caseSensitive, executable, arguments })
  · rfl

/-- Settings come from a table exactly if each of its fields is read as they have it. -/
theorem ofFields_eq_ok_iff : ofFields fields = .ok settings ↔ IsRead fields settings := by
  refine ⟨fun hread => ?_, ofFields_of_isRead⟩
  by_cases h : ∃ other, IsRead fields other
  · obtain ⟨other, hother⟩ := h
    rw [ofFields_of_isRead hother] at hread
    exact Except.ok.inj hread ▸ hother
  · rw [ofFields_of_not_isRead (not_exists.mp h)] at hread
    cases hread

theorem errorsOf_ofFields (fields : Table) : errorsOf (ofFields fields) = refused fields := by
  by_cases h : ∃ settings, IsRead fields settings
  · obtain ⟨settings, hread⟩ := h
    rw [ofFields_of_isRead hread, refused, hread.heading, hread.tokens, hread.caseSensitive,
      hread.executable, hread.arguments, hread.known]
    rfl
  · rw [ofFields_of_not_isRead (not_exists.mp h)]
    rfl

/-! ## The errors of a field -/

/-- The errors with the field at the start of their way. -/
def errorsAt (name : String) (errors : List FieldError) : List FieldError :=
  errors.filter fun error => error.place.head? == some (.field name.toList)

theorem errorsAt_append (name : String) (errors others : List FieldError) :
    errorsAt name (errors ++ others) = errorsAt name errors ++ errorsAt name others :=
  List.filter_append errors others

theorem head?_place_of_mem_inField {α : Type} {name : Text}
    {found : Except (List FieldError) α} {error : FieldError}
    (h : error ∈ errorsOf (inField name found)) : error.place.head? = some (.field name) := by
  cases found with
  | ok value => exact absurd h List.not_mem_nil
  | error errors =>
    obtain ⟨_, -, rfl⟩ := List.mem_map.mp h
    rfl

theorem errorsAt_readField {α : Type} (fields : Table) (name : String) (default : α)
    (read : Value → Except (List FieldError) α) :
    errorsAt name (errorsOf (readField fields name default read)) =
      errorsOf (readField fields name default read) :=
  List.filter_eq_self.mpr fun _ herror => beq_iff_eq.mpr (head?_place_of_mem_inField herror)

theorem errorsAt_readField_of_ne {α : Type} {name other : String} (h : name ≠ other)
    (fields : Table) (default : α) (read : Value → Except (List FieldError) α) :
    errorsAt other (errorsOf (readField fields name default read)) = [] := by
  refine List.filter_eq_nil_iff.mpr fun error herror hat => h ?_
  have hplace := (head?_place_of_mem_inField herror).symm.trans (beq_iff_eq.mp hat)
  exact String.toList_injective (Step.field.inj (Option.some.inj hplace))

/-- No unknown key is a field. -/
theorem errorsAt_unknownKeys {name : String} (h : name ∈ fieldNames) (fields : Table) :
    errorsAt name (unknownKeys fields) = [] := by
  refine List.filter_eq_nil_iff.mpr fun error herror hat => ?_
  obtain ⟨⟨key, value⟩, hkey, rfl⟩ := List.mem_map.mp herror
  have hunknown : (!fieldNames.contains (String.ofList key)) = true := (List.mem_filter.mp hkey).2
  obtain rfl : key = name.toList :=
    Step.field.inj (Option.some.inj (beq_iff_eq.mp hat))
  rw [String.ofList_toList, List.contains_iff_mem.mpr h] at hunknown
  cases hunknown

theorem errorsAt_tokens (fields : Table) :
    errorsAt "suppression_tokens" (errorsOf (ofFields fields)) = errorsOf (readTokens fields) := by
  rw [errorsOf_ofFields, refused]
  simp only [errorsAt_append]
  rw [readHeading, readTokens, readCaseSensitive, readExecutable, readArguments,
    errorsAt_readField, errorsAt_unknownKeys (by decide),
    errorsAt_readField_of_ne (by decide), errorsAt_readField_of_ne (by decide),
    errorsAt_readField_of_ne (by decide), errorsAt_readField_of_ne (by decide)]
  simp

/-! ## The other fields -/

/-- The table without a field. -/
def without (name : String) (fields : Table) : Table :=
  fields.filter fun (key, _) => key ≠ name.toList

theorem find?_without (name other : String) (fields : Table) :
    (without other fields).find? name.toList =
      if name = other then none else fields.find? name.toList := by
  refine (lookup_filter_key (fun key => decide (key ≠ other.toList)) fields name.toList).trans ?_
  by_cases h : name = other
  · simp [h]
  · have hne : name.toList ≠ other.toList := fun hsame => h (String.toList_injective hsame)
    simp only [h, hne, ne_eq, not_false_eq_true, decide_true, if_true, if_false, Table.find?]

theorem readField_without {α : Type} {name other : String} (h : name ≠ other) (fields : Table)
    (default : α) (read : Value → Except (List FieldError) α) :
    readField (without other fields) name default read = readField fields name default read := by
  rw [readField, find?_without, if_neg h, readField]

theorem unknownKeys_without {name : String} (h : name ∈ fieldNames) (fields : Table) :
    unknownKeys (without name fields) = unknownKeys fields := by
  rw [unknownKeys, without, List.filter_filter, unknownKeys]
  refine congrArg _ (List.filter_congr fun (key, value) _ => ?_)
  by_cases hkey : key = name.toList
  · simp [hkey, h]
  · simp [hkey]

/-- Tokens that can be read take the place of the default ones and change nothing else. -/
theorem ofFields_of_readTokens {tokens : List Text} (h : readTokens fields = .ok tokens) :
    ofFields fields = (ofFields (without "suppression_tokens" fields)).map
      fun settings => { settings with tokens } := by
  have hheading : readHeading (without "suppression_tokens" fields) = readHeading fields :=
    readField_without (by decide) ..
  have hcase : readCaseSensitive (without "suppression_tokens" fields) = readCaseSensitive fields :=
    readField_without (by decide) ..
  have hexecutable :
      readExecutable (without "suppression_tokens" fields) = readExecutable fields :=
    readField_without (by decide) ..
  have harguments : readArguments (without "suppression_tokens" fields) = readArguments fields :=
    readField_without (by decide) ..
  have hknown : unknownKeys (without "suppression_tokens" fields) = unknownKeys fields :=
    unknownKeys_without (by decide) _
  have htokens : readTokens (without "suppression_tokens" fields) =
      .ok ({} : Settings).tokens := by
    rw [readTokens, readField, find?_without, if_pos rfl]
    rfl
  rw [ofFields_eq, ofFields_eq, hheading, hcase, hexecutable, harguments, hknown, htokens, h]
  -- Whatever is read elsewhere, both sides go the same way.
  cases readHeading fields <;> cases readCaseSensitive fields <;>
    cases readExecutable fields <;> cases readArguments fields <;>
    cases unknownKeys fields <;> rfl

end DiagnosticMarkers.Settings
