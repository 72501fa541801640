import DiagnosticMarkers.Proofs.Settings.Meaning
import DiagnosticMarkers.Proofs.Table

/-!
# Keys in several spellings

A key may be written with dashes for underscores, so a table may hold several entries for one
field. The last of them decides what the settings hold in the field, and whether they are
accepted; the ones before it are not looked at. The order of entries for different fields does not
matter.
-/

namespace DiagnosticMarkers.Settings

/-- The value of the last entry whose key is that of the field in some spelling. -/
def lastValue (field : Field) (entries : Table) : Option Value :=
  (entries.filter fun entry => normalizeKey entry.1 = field.name.toList).getLast?.map Prod.snd

variable {entries others : Table} {settings : Settings}

theorem normalizeKeys_eq (entries : Table) :
    normalizeKeys entries =
      Table.ofEntries (entries.map fun entry => (normalizeKey entry.1, entry.2)) :=
  rfl

theorem find?_normalizeKeys (entries : Table) (field : Field) :
    (normalizeKeys entries).find? field.name.toList = lastValue field entries := by
  rw [normalizeKeys_eq, Table.find?_ofEntries, List.filter_map, List.getLast?_map, Option.map_map]
  rfl

theorem forall_keys_normalizeKeys_iff (entries : Table) :
    (∀ key ∈ (normalizeKeys entries).map Prod.fst, IsFieldName key) ↔
      ∀ entry ∈ entries, IsFieldName (normalizeKey entry.1) := by
  simp only [normalizeKeys_eq, Table.mem_keys_ofEntries, List.map_map, List.forall_mem_map]
  rfl

/-- Settings come from entries exactly if each key is that of a field and each field holds what
its last value means. -/
theorem ofTable_eq_ok_iff (entries : Table) (settings : Settings) :
    ofTable entries = .ok settings ↔
      (∀ entry ∈ entries, IsFieldName (normalizeKey entry.1)) ∧
        ∀ field : Field, field.Holds (lastValue field entries) settings := by
  rw [ofTable, ofFields_eq_ok_iff_holds, forall_keys_normalizeKeys_iff]
  simp only [find?_normalizeKeys]

theorem exists_ofTable_eq_ok_iff (entries : Table) :
    (∃ settings, ofTable entries = .ok settings) ↔
      (∀ entry ∈ entries, IsFieldName (normalizeKey entry.1)) ∧
        ∀ (field : Field) (value : Value),
          lastValue field entries = some value → field.Takes value := by
  rw [← exists_holds_iff fun field => lastValue field entries]
  simp only [ofTable_eq_ok_iff, exists_and_left]

/-! ## Entries that are not looked at -/

/-- The value of an entry does not matter if a later one has its key in some spelling. -/
theorem ofTable_shadowed {before after : Table} {key : Text}
    (hlater : ∃ later ∈ after, normalizeKey later.1 = normalizeKey key) (value other : Value) :
    ofTable (before ++ (key, value) :: after) = ofTable (before ++ (key, other) :: after) := by
  obtain ⟨later, hmem, hkey⟩ := hlater
  have hkeys : normalizeKey key ∈
      (after.map fun entry => (normalizeKey entry.1, entry.2)).map Prod.fst := by
    rw [← hkey, List.map_map]
    exact List.mem_map_of_mem hmem
  rw [ofTable, ofTable, normalizeKeys_eq, normalizeKeys_eq, List.map_append, List.map_append]
  exact congrArg ofFields (Table.ofEntries_replaced hkeys _ value other)

/-! ## Entries that change places -/

/-- Entries change places, but those with the same key in some spelling stay in order. -/
def Reordered (entries others : Table) : Prop :=
  ∀ key : Text, (others.filter fun entry => normalizeKey entry.1 = key) =
    entries.filter fun entry => normalizeKey entry.1 = key

/-- Neighbours with different keys may change places. -/
theorem reordered_swap (before : Table) {first second : Text × Value}
    (h : normalizeKey first.1 ≠ normalizeKey second.1) (after : Table) :
    Reordered (before ++ first :: second :: after) (before ++ second :: first :: after) := by
  intro key
  rw [List.filter_append, List.filter_append]
  by_cases hfirst : normalizeKey first.1 = key
  · have hsecond : ¬ normalizeKey second.1 = key := fun hsecond =>
      h (hfirst.trans hsecond.symm)
    simp [hfirst, hsecond]
  · simp [hfirst, List.filter_cons]

/-- Where no key comes twice, entries may stand in any order. -/
theorem reordered_of_perm (hperm : others.Perm entries)
    (hdistinct : (entries.map fun entry => normalizeKey entry.1).Nodup) :
    Reordered entries others := by
  intro key
  have hfilter := hperm.filter fun entry => normalizeKey entry.1 = key
  have hkeys : ∀ entry ∈ entries.filter fun entry => normalizeKey entry.1 = key,
      normalizeKey entry.1 = key := fun entry hentry =>
    of_decide_eq_true (List.mem_filter.mp hentry).2
  have hsingle : ((entries.filter fun entry => normalizeKey entry.1 = key).map
      fun entry => normalizeKey entry.1).Nodup :=
    hdistinct.sublist (List.filter_sublist.map _)
  generalize (entries.filter fun entry => normalizeKey entry.1 = key) = found at *
  cases found with
  | nil => exact List.perm_nil.mp hfilter
  | cons first rest =>
    cases rest with
    | nil => exact List.perm_singleton.mp hfilter
    | cons second rest =>
      have hfirst := hkeys first List.mem_cons_self
      have hsecond := hkeys second (List.mem_cons_of_mem _ List.mem_cons_self)
      simp [hfirst, hsecond] at hsingle

theorem Reordered.lastValue_eq (h : Reordered entries others) (field : Field) :
    lastValue field others = lastValue field entries := by
  rw [lastValue, h, lastValue]

theorem Reordered.mem_iff (h : Reordered entries others) (entry : Text × Value) :
    entry ∈ others ↔ entry ∈ entries := by
  have hfilter := h (normalizeKey entry.1)
  have hiff := congrArg (entry ∈ ·) hfilter
  simpa using hiff

theorem Reordered.ofTable_eq_ok_iff (h : Reordered entries others) (settings : Settings) :
    ofTable others = .ok settings ↔ ofTable entries = .ok settings := by
  rw [Settings.ofTable_eq_ok_iff, Settings.ofTable_eq_ok_iff]
  simp only [h.lastValue_eq, h.mem_iff]

/-- Entries are accepted exactly if each key is that of a field and each field takes its last
value. The settings then hold in each field what this value means, or the default if there is
none. A value with a later one for its field does not matter, and neither does the order of entries
with different keys. -/
theorem ofTable_last_spelling_decides (entries : Table) :
    ((∃ settings, ofTable entries = .ok settings) ↔
      (∀ entry ∈ entries, IsFieldName (normalizeKey entry.1)) ∧
        ∀ (field : Field) (value : Value),
          lastValue field entries = some value → field.Takes value) ∧
    (∀ settings, ofTable entries = .ok settings → ∀ field : Field,
      field.Holds (lastValue field entries) settings ∧
        ∀ others other, ofTable others = .ok other →
          lastValue field others = lastValue field entries → field.Agrees settings other) ∧
    (∀ before key value after, entries = before ++ (key, value) :: after →
      (∃ later ∈ after, normalizeKey later.1 = normalizeKey key) →
        ∀ other, ofTable (before ++ (key, other) :: after) = ofTable entries) ∧
    ∀ others, Reordered entries others →
      ∀ settings, ofTable others = .ok settings ↔ ofTable entries = .ok settings := by
  refine ⟨exists_ofTable_eq_ok_iff entries, fun settings hsettings field => ?_, ?_,
    fun others hreordered => hreordered.ofTable_eq_ok_iff⟩
  · have hholds := ((ofTable_eq_ok_iff entries settings).mp hsettings).2 field
    refine ⟨hholds, fun others other hother hsame => ?_⟩
    have hholdsOther := ((ofTable_eq_ok_iff others other).mp hother).2 field
    rw [hsame] at hholdsOther
    exact hholds.agrees hholdsOther
  · rintro before key value after rfl hlater other
    exact ofTable_shadowed hlater other value

/-- A name of the checker that is refused, and two entries behind it that change places. -/
theorem ofTable_last_spelling_decides_of_shadowed_number :
    let key := "mypy-executable".toList
    let executable : Text × Value := ("mypy_executable".toList, .text " dmypy ".toList)
    let heading : Text × Value := ("message-prefix".toList, .text "T: ".toList)
    let settings : Settings := { heading := "T: ".toList, executable := "dmypy".toList }
    ofTable [(key, .text []), executable, heading] = .ok settings ∧
      ofTable [(key, .integer 3), executable, heading] = .ok settings ∧
      ofTable [(key, .integer 3), heading, executable] = .ok settings := by
  intro key executable heading settings
  obtain ⟨-, -, hshadowed, hreordered⟩ :=
    ofTable_last_spelling_decides [(key, .integer 3), executable, heading]
  have haccepted : ofTable [(key, .integer 3), executable, heading] = .ok settings := by rfl
  have hlater : ∃ later ∈ [executable, heading], normalizeKey later.1 = normalizeKey key :=
    ⟨executable, List.mem_cons_self, rfl⟩
  have hswapped : Reordered [(key, .integer 3), executable, heading]
      [(key, .integer 3), heading, executable] :=
    reordered_swap [(key, .integer 3)] (by decide) []
  refine ⟨(hshadowed [] _ _ _ rfl hlater _).trans haccepted, haccepted, ?_⟩
  exact (hreordered _ hswapped settings).mpr haccepted

end DiagnosticMarkers.Settings
