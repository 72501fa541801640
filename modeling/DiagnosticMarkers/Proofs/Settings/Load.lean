import DiagnosticMarkers.Proofs.Text.Utf8
import DiagnosticMarkers.Proofs.Toml
import DiagnosticMarkers.Settings.Load

/-!
# What keeps settings from being loaded

A fault of the settings is told as one of their file: it is no document, the settings are no
table, or some of them are refused. Three faults get past that, wherever they stand in the file:
its octets may be those of no text, an integer may have too many digits, and values may stand
deeper in each other than the call stack allows.
-/

namespace DiagnosticMarkers.Settings

/-- The fault is told as one of the file of settings. -/
def LoadError.IsTold : LoadError → Prop
  | malformed _ | notTable _ | refused _ => True
  | undecodable _ | overlong _ | tooDeep => False

/-- What is wrong with a document is told. -/
theorem isTold_of_ofDocument {path : Text} {document : Table} {error : LoadError}
    (h : ofDocument path document = .error error) : error.IsTold := by
  unfold ofDocument at h
  split at h
  · split at h
    · next given _ =>
      cases hgiven : ofTable given with
      | ok settings =>
        rw [hgiven] at h
        cases h
      | error errors =>
        rw [hgiven] at h
        obtain rfl := Except.error.inj h
        trivial
    · obtain rfl := Except.error.inj h
      trivial
    · cases h
  · cases h

/-- What is wrong with octets without being told. -/
inductive Untold (stack : Toml.Stack) (octets : List UInt8) : LoadError → Prop
  | undecodable {fault : Utf8.Fault} (hoctets : Utf8.decode octets = .error fault) :
    Untold stack octets (.undecodable fault)
  | overlong {text : Text} {number : OverlongNumber} (htext : Utf8.decode octets = .ok text)
      (hnumber : Toml.parse stack text = .error (.overlong number)) :
    Untold stack octets (.overlong number)
  | tooDeep {text : Text} (htext : Utf8.decode octets = .ok text)
      (hdeep : Toml.parse stack text = .error .tooDeep) : Untold stack octets .tooDeep

section

variable (stack : Toml.Stack)

theorem Untold.ofOctets {octets : List UInt8} {error : LoadError}
    (h : Untold stack octets error) (path : Text) : ofOctets stack path octets = .error error := by
  cases h with
  | undecodable hoctets => simp only [Settings.ofOctets, hoctets]
  | overlong htext hnumber => simp only [Settings.ofOctets, htext, hnumber]
  | tooDeep htext hdeep => simp only [Settings.ofOctets, htext, hdeep]

theorem untold_of_ofOctets {path : Text} {octets : List UInt8} {error : LoadError}
    (h : ofOctets stack path octets = .error error) : error.IsTold ∨ Untold stack octets error := by
  unfold ofOctets at h
  cases htext : Utf8.decode octets with
  | error fault =>
    rw [htext] at h
    obtain rfl := Except.error.inj h
    exact .inr (.undecodable htext)
  | ok text =>
    cases hparse : Toml.parse stack text with
    | ok document =>
      simp only [htext, hparse] at h
      exact .inl (isTold_of_ofDocument h)
    | error fault =>
      cases fault with
      | malformed =>
        simp only [htext, hparse] at h
        obtain rfl := Except.error.inj h
        exact .inl trivial
      | overlong number =>
        simp only [htext, hparse] at h
        obtain rfl := Except.error.inj h
        exact .inr (.overlong htext hparse)
      | tooDeep =>
        simp only [htext, hparse] at h
        obtain rfl := Except.error.inj h
        exact .inr (.tooDeep htext hparse)

variable (tree : FileTree) (directory : Place) (named : Option PathName)

/-- Loading fails as reading the file fails that settings are loaded from. -/
theorem load_eq_error_iff (error : LoadError) :
    load stack tree directory named = .error error ↔
      ∃ path octets, source? tree directory named = some (path, octets) ∧
        ofOctets stack path octets = .error error := by
  unfold load
  cases source? tree directory named with
  | none => simp
  | some found =>
    obtain ⟨path, octets⟩ := found
    constructor
    · exact fun h => ⟨path, octets, rfl, h⟩
    · rintro ⟨_, _, ⟨rfl, rfl⟩, h⟩
      exact h

/-- What is not told when settings are loaded is wrong with the octets of their file. -/
theorem load_eq_error_iff_untold {error : LoadError} (herror : ¬ error.IsTold) :
    load stack tree directory named = .error error ↔
      ∃ path octets, source? tree directory named = some (path, octets) ∧
        Untold stack octets error := by
  rw [load_eq_error_iff]
  constructor
  · rintro ⟨path, octets, hsource, h⟩
    exact ⟨path, octets, hsource, (untold_of_ofOctets stack h).resolve_left herror⟩
  · rintro ⟨path, octets, hsource, h⟩
    exact ⟨path, octets, hsource, h.ofOctets stack path⟩

/-- What is not told of a text is what reading it as a document ends with. -/
theorem load_eq_error_iff_parse {error : LoadError} {fault : Toml.Fault} (herror : ¬ error.IsTold)
    (huntold : ∀ octets, Untold stack octets error ↔
      ∃ text, Utf8.decode octets = .ok text ∧ Toml.parse stack text = .error fault) :
    load stack tree directory named = .error error ↔
      ∃ path text, source? tree directory named = some (path, Utf8.encode text) ∧
        Toml.parse stack text = .error fault := by
  rw [load_eq_error_iff_untold stack tree directory named herror]
  constructor
  · rintro ⟨path, octets, hsource, h⟩
    obtain ⟨text, htext, hfault⟩ := (huntold octets).mp h
    rw [(Utf8.decode_eq_ok_iff _ _).mp htext] at hsource
    exact ⟨path, text, hsource, hfault⟩
  · rintro ⟨path, text, hsource, hfault⟩
    exact ⟨path, _, hsource, (huntold _).mpr ⟨text, (Utf8.decode_eq_ok_iff _ _).mpr rfl, hfault⟩⟩

theorem load_eq_overlong_iff (number : OverlongNumber) :
    load stack tree directory named = .error (.overlong number) ↔
      ∃ path text, source? tree directory named = some (path, Utf8.encode text) ∧
        Toml.parse stack text = .error (.overlong number) := by
  refine load_eq_error_iff_parse stack tree directory named id fun octets => ⟨?_, ?_⟩
  · rintro ⟨⟩
    next htext hnumber => exact ⟨_, htext, hnumber⟩
  · rintro ⟨text, htext, hnumber⟩
    exact .overlong htext hnumber

theorem load_eq_tooDeep_iff :
    load stack tree directory named = .error .tooDeep ↔
      ∃ path text, source? tree directory named = some (path, Utf8.encode text) ∧
        Toml.parse stack text = .error .tooDeep := by
  refine load_eq_error_iff_parse stack tree directory named id fun octets => ⟨?_, ?_⟩
  · rintro ⟨⟩
    next htext hdeep => exact ⟨_, htext, hdeep⟩
  · rintro ⟨text, htext, hdeep⟩
    exact .tooDeep htext hdeep

end

end DiagnosticMarkers.Settings
