import DiagnosticMarkers.Toml.Document

/-!
# Room on the call stack

A document is too deep for one call stack and may be read with another. More room changes nothing
else: what is read, and every other fault, stays. No room is enough for all documents, as each
bracket of an array takes some of it.
-/

namespace DiagnosticMarkers.Toml

variable {α β : Type}

section

variable {reader : Reader α} {next : α → Reader β} {text rest : Text}

theorem bind_of_ok {value : α} (h : reader text = .ok (value, rest)) :
    (reader >>= next) text = next value rest := by
  show reader text >>= (fun (value, rest) => next value rest) = next value rest
  rw [h]
  rfl

theorem bind_of_error {fault : Fault} (h : reader text = .error fault) :
    (reader >>= next) text = .error fault := by
  show reader text >>= (fun (value, rest) => next value rest) = .error fault
  rw [h]
  rfl

end

/-! ## More room -/

/-- The second reader does what the first one does, unless the text is too deep for that. -/
def Extends (reader more : Reader α) : Prop :=
  ∀ text, reader text ≠ .error .tooDeep → more text = reader text

namespace Extends

theorem refl (reader : Reader α) : Extends reader reader :=
  fun _ _ => rfl

theorem bind {reader more : Reader α} {next nextMore : α → Reader β} (h : Extends reader more)
    (hnext : ∀ value, Extends (next value) (nextMore value)) :
    Extends (reader >>= next) (more >>= nextMore) := by
  intro text hdeep
  cases hread : reader text with
  | error fault =>
    rw [bind_of_error hread] at hdeep
    have hmore : more text = .error fault :=
      (h text fun heq => hdeep (by rw [Except.error.inj (hread.symm.trans heq)])).trans hread
    rw [bind_of_error hread, bind_of_error hmore]
  | ok found =>
    obtain ⟨value, rest⟩ := found
    rw [bind_of_ok hread] at hdeep
    have hmore : more text = .ok (value, rest) :=
      (h text fun heq => nomatch hread.symm.trans heq).trans hread
    rw [bind_of_ok hread, bind_of_ok hmore]
    exact hnext value rest hdeep

end Extends

variable {item more inTable moreInTable : Reader Value}

variable {stack more : Stack}

variable {needs : Text → Nat} {depth left : Nat} {behind : Text}

/-- An entry whose value begins with so many brackets. -/
def nested (depth : Nat) (behind : Text) : Text :=
  "a=".toList ++ List.replicate depth '[' ++ behind

end DiagnosticMarkers.Toml
