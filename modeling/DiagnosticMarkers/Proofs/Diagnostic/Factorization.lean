import DiagnosticMarkers.Proofs.Diagnostic.Remainder
import DiagnosticMarkers.Validation

/-!
# The shortest path

A line may be taken apart in several ways, since a path may hold colons and digits. Reading
goes by the one with the shortest path, and by that one alone: if it gives no diagnostic, no
longer path is tried.
-/

namespace DiagnosticMarkers

open Text

/-- A way to take a line apart: a path, and what stands behind it. -/
@[ext]
structure Factorization where
  path : Text
  remainder : Remainder
  path_ne_nil : path ≠ []
  newline_notMem : '\n' ∉ path

namespace Factorization

def text (factorization : Factorization) : Text :=
  factorization.path ++ factorization.remainder.text

/-- Of all ways to take the line apart, none has a shorter path. -/
structure IsShortest (factorization : Factorization) (line : Text) : Prop where
  text_eq : factorization.text = line
  length_le : ∀ other : Factorization, other.text = line →
    factorization.path.length ≤ other.path.length

theorem IsShortest.unique {factorization other : Factorization} {line : Text}
    (h : factorization.IsShortest line) (hother : other.IsShortest line) :
    other = factorization := by
  have hlength : other.path.length = factorization.path.length := by
    have hle := h.length_le other hother.text_eq
    have hge := hother.length_le factorization h.text_eq
    omega
  have htext : other.path ++ other.remainder.text =
      factorization.path ++ factorization.remainder.text :=
    hother.text_eq.trans h.text_eq.symm
  obtain ⟨hpath, hremainder⟩ := List.append_inj htext hlength
  exact Factorization.ext hpath (Diagnostic.remainder_text_injective hremainder)

end Factorization

namespace Diagnostic

/-- What is split off is a path, and the rest can be read. -/
theorem exists_rest_of_splitPath? {inPath : Bool} {text path : Text} {written : Written}
    (h : splitPath? inPath text = some (path, written)) :
    ∃ rest, path ++ rest = text ∧ (inPath = true ∨ path ≠ []) ∧ '\n' ∉ path ∧
      afterPath? rest = some written := by
  induction text generalizing inPath path with
  | nil => cases h
  | cons c rest ih =>
    unfold splitPath? at h
    split at h
    · next found hfound =>
      obtain ⟨rfl, rfl⟩ := Prod.mk.inj (Option.some.inj h)
      cases inPath with
      | false => cases hfound
      | true => exact ⟨c :: rest, rfl, .inl rfl, by simp, hfound⟩
    · split at h
      · cases h
      · next hc =>
        obtain ⟨⟨tail, found⟩, htail, heq⟩ := Option.map_eq_some_iff.mp h
        obtain ⟨rfl, rfl⟩ := Prod.mk.inj heq
        obtain ⟨after, hafter, -, hnewline, hread⟩ := ih htail
        refine ⟨after, by rw [List.cons_append, hafter], .inr (by simp), ?_, hread⟩
        simp [hnewline, Ne.symm hc]

/-- Where a path can be split off, one is, and none that is longer. -/
theorem splitPath?_append {inPath : Bool} {path rest : Text} {written : Written}
    (hpath : inPath = true ∨ path ≠ []) (hnewline : '\n' ∉ path)
    (hrest : afterPath? rest = some written) :
    ∃ shorter found, splitPath? inPath (path ++ rest) = some (shorter, found) ∧
      shorter.length ≤ path.length := by
  induction path generalizing inPath with
  | nil =>
    obtain rfl : inPath = true := by simpa using hpath
    cases rest with
    | nil => cases hrest
    | cons c rest => exact ⟨[], written, by simp [splitPath?, hrest], le_rfl⟩
  | cons c path ih =>
    obtain ⟨hc, hnewline⟩ := not_or.mp (fun h => hnewline (List.mem_cons.mpr h))
    obtain ⟨shorter, found, hsplit, hlength⟩ := ih (.inl rfl) hnewline
    rw [List.cons_append, splitPath?]
    split
    · exact ⟨[], _, rfl, Nat.zero_le _⟩
    · refine ⟨c :: shorter, found, ?_, Nat.succ_le_succ hlength⟩
      rw [if_neg (Ne.symm hc), hsplit]
      rfl

/-- Every way to take a line apart is at least as long as the one that is found. -/
theorem factor?_text (factorization : Factorization) :
    ∃ path written, factor? factorization.text = some (path, written) ∧
      path.length ≤ factorization.path.length :=
  splitPath?_append (.inr factorization.path_ne_nil) factorization.newline_notMem
    (afterPath?_text factorization.remainder)

theorem exists_shortest_of_factor? {line path : Text} {written : Written}
    (h : factor? line = some (path, written)) :
    ∃ factorization : Factorization, factorization.IsShortest line ∧
      factorization.path = path ∧ factorization.remainder.written = written := by
  obtain ⟨rest, hline, hpath, hnewline, hrest⟩ := exists_rest_of_splitPath? h
  obtain ⟨remainder, rfl, hwritten⟩ := exists_remainder_of_afterPath? hrest
  refine ⟨⟨path, remainder, by simpa using hpath, hnewline⟩, ⟨hline, ?_⟩, rfl, hwritten⟩
  intro other hother
  obtain ⟨found, _, hfound, hlength⟩ := factor?_text other
  rw [hother, h] at hfound
  obtain ⟨rfl, -⟩ := Prod.mk.inj (Option.some.inj hfound)
  exact hlength

end Diagnostic

end DiagnosticMarkers
