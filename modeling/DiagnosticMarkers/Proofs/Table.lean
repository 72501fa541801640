import DiagnosticMarkers.Value
import Mathlib.Data.List.Basic
import Mathlib.Data.List.Induction

/-!
# Tables made of entries

The last of the entries with a key gives the key its value. A value that is replaced later leaves
no trace, not even in the order of the keys.
-/

namespace DiagnosticMarkers

/-- Entries that are kept by their keys. -/
theorem lookup_filter_key {α : Type} (keep : Text → Bool) (entries : List (Text × α))
    (key : Text) :
    (entries.filter fun entry => keep entry.1).lookup key =
      if keep key then entries.lookup key else none := by
  induction entries with
  | nil => simp
  | cons entry entries ih =>
    obtain ⟨first, value⟩ := entry
    rw [List.filter_cons]
    by_cases hkeep : keep first = true
    · rw [if_pos hkeep, List.lookup_cons, List.lookup_cons, ih]
      by_cases hkey : key = first
      · simp [hkey, hkeep]
      · rw [beq_false_of_ne hkey]
    · rw [if_neg hkeep, List.lookup_cons, ih]
      by_cases hkey : key = first
      · simp [hkey, hkeep]
      · rw [beq_false_of_ne hkey]

namespace Table

theorem find?_cons (key : Text) (value : Value) (table : Table) (other : Text) :
    find? ((key, value) :: table) other =
      if other = key then some value else table.find? other := by
  rw [find?, List.lookup_cons]
  by_cases h : other = key
  · simp [h]
  · rw [beq_false_of_ne h, if_neg h, find?]

theorem find?_eq_none_iff (table : Table) (key : Text) :
    table.find? key = none ↔ key ∉ table.map Prod.fst := by
  rw [find?, List.lookup_eq_none_iff]
  constructor
  · rintro h hkey
    obtain ⟨entry, hentry, rfl⟩ := List.mem_map.mp hkey
    exact bne_iff_ne.mp (h entry hentry) rfl
  · rintro h entry hentry
    exact bne_iff_ne.mpr fun hkey => h (hkey ▸ List.mem_map_of_mem hentry)

theorem find?_insert (table : Table) (key other : Text) (value : Value) :
    (table.insert key value).find? other =
      if other = key then some value else table.find? other := by
  induction table with
  | nil => exact find?_cons key value [] other
  | cons entry table ih =>
    obtain ⟨first, held⟩ := entry
    by_cases hfirst : first = key
    · subst hfirst
      rw [insert, if_pos rfl, find?_cons, find?_cons]
      split <;> rfl
    · rw [insert, if_neg hfirst, find?_cons, find?_cons, ih]
      by_cases hother : other = first
      · rw [if_pos hother, if_pos hother, if_neg (hother ▸ hfirst)]
      · rw [if_neg hother, if_neg hother]

theorem ofEntries_concat (entries : Table) (key : Text) (value : Value) :
    ofEntries (entries ++ [(key, value)]) = (ofEntries entries).insert key value := by
  rw [ofEntries, List.foldl_append, ofEntries]
  rfl

/-- A key has the value of its last entry. -/
theorem find?_ofEntries (entries : Table) (key : Text) :
    (ofEntries entries).find? key =
      (entries.filter fun entry => entry.1 = key).getLast?.map Prod.snd := by
  induction entries using List.reverseRecOn with
  | nil => rfl
  | append_singleton entries entry ih =>
    obtain ⟨last, value⟩ := entry
    rw [ofEntries_concat, find?_insert, List.filter_append]
    by_cases h : key = last
    · subst h
      simp
    · rw [if_neg h, ih]
      simp [Ne.symm h]

theorem mem_keys_ofEntries (entries : Table) (key : Text) :
    key ∈ (ofEntries entries).map Prod.fst ↔ key ∈ entries.map Prod.fst := by
  rw [← not_iff_not, ← find?_eq_none_iff, find?_ofEntries, Option.map_eq_none_iff,
    List.getLast?_eq_none_iff, List.filter_eq_nil_iff]
  constructor
  · rintro h hkey
    obtain ⟨entry, hentry, rfl⟩ := List.mem_map.mp hkey
    simpa using h entry hentry
  · rintro h entry hentry hkey
    exact h (of_decide_eq_true hkey ▸ List.mem_map_of_mem hentry)

/-! ## Values that are replaced -/

theorem insert_insert (table : Table) (key : Text) (value other : Value) :
    (table.insert key value).insert key other = table.insert key other := by
  induction table with
  | nil => simp [insert]
  | cons entry table ih =>
    obtain ⟨first, held⟩ := entry
    by_cases hfirst : first = key
    · simp [insert, hfirst]
    · simp [insert, hfirst, ih]

/-- Where a key is held, giving it a value changes places with giving another key one. -/
theorem insert_comm_of_mem {table : Table} {key other : Text} (hkey : key ∈ table.map Prod.fst)
    (hne : key ≠ other) (value newer : Value) :
    (table.insert key value).insert other newer = (table.insert other newer).insert key value := by
  induction table with
  | nil => cases hkey
  | cons entry table ih =>
    obtain ⟨first, held⟩ := entry
    by_cases hfirst : first = key
    · subst hfirst
      simp [insert, hne]
    · have hrest : key ∈ table.map Prod.fst := by
        simpa [Ne.symm hfirst] using hkey
      by_cases hother : first = other
      · subst hother
        simp [insert, hfirst]
      · simp [insert, hfirst, hother, ih hrest]

theorem mem_keys_insert_self (table : Table) (key : Text) (value : Value) :
    key ∈ (table.insert key value).map Prod.fst := by
  by_contra h
  have hnone := (find?_eq_none_iff _ _).mpr h
  rw [find?_insert, if_pos rfl] at hnone
  cases hnone

/-- A table with more entries, of which later ones replace earlier ones. -/
def insertAll (table entries : Table) : Table :=
  entries.foldl (fun table (key, value) => insert table key value) table

theorem insertAll_cons (table : Table) (key : Text) (value : Value) (entries : Table) :
    insertAll table ((key, value) :: entries) = insertAll (table.insert key value) entries :=
  rfl

/-- A value does not matter if a later entry has its key. -/
theorem insertAll_replaced {entries : Table} {key : Text} (hlater : key ∈ entries.map Prod.fst)
    (table : Table) (value other : Value) :
    insertAll (table.insert key value) entries = insertAll (table.insert key other) entries := by
  induction entries generalizing table with
  | nil => cases hlater
  | cons entry entries ih =>
    obtain ⟨next, newer⟩ := entry
    by_cases hnext : next = key
    · subst hnext
      rw [insertAll_cons, insertAll_cons, insert_insert, insert_insert]
    · have hrest : key ∈ entries.map Prod.fst := by
        simpa [Ne.symm hnext] using hlater
      -- Once the key is held, its value may be given behind that of the next entry.
      have hbehind (given : Value) : (table.insert key given).insert next newer =
          ((table.insert key other).insert next newer).insert key given := by
        rw [← insert_comm_of_mem (mem_keys_insert_self table key other) (Ne.symm hnext),
          insert_insert]
      calc insertAll (table.insert key value) ((next, newer) :: entries)
          = insertAll (((table.insert key other).insert next newer).insert key value) entries :=
            congrArg (insertAll · entries) (hbehind value)
        _ = insertAll (((table.insert key other).insert next newer).insert key other) entries :=
            ih hrest _
        _ = insertAll (table.insert key other) ((next, newer) :: entries) :=
            (congrArg (insertAll · entries) (hbehind other)).symm

theorem ofEntries_replaced {after : Table} {key : Text} (hlater : key ∈ after.map Prod.fst)
    (before : Table) (value other : Value) :
    ofEntries (before ++ (key, value) :: after) = ofEntries (before ++ (key, other) :: after) := by
  rw [ofEntries, ofEntries, List.foldl_append, List.foldl_append]
  exact insertAll_replaced hlater _ value other

end Table

end DiagnosticMarkers
