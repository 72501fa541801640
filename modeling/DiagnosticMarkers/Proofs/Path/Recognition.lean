import DiagnosticMarkers.Path.Filter
import DiagnosticMarkers.Proofs.Path.NormalForm

/-!
# Accepted paths

A filter with a document accepts a path whose segments end the segments of the document, as it
was reported or read from the base directory. Read from there, a path has the parts of the
directory in front of its own, so its route is followed from the directory.

From the directory in which the checker ran, a document is named by climbing to a directory that
both have in common and then by the names that lead down to the document. Each such path is
recognised, from whichever of the common directories it goes down.
-/

namespace DiagnosticMarkers.PathFilter

open DiagnosticMarkers.Path Text

theorem endsDocument_iff (candidate document : List Text) :
    endsDocument candidate document = true ↔ candidate ≠ [] ∧ candidate <:+ document := by
  rw [endsDocument, Bool.and_eq_true, Bool.not_eq_true', List.isEmpty_eq_false_iff,
    List.isSuffixOf_iff_suffix]

theorem acceptsPath_iff (mode : CaseMode) (document base reported : Text) :
    PathFilter.acceptsPath { document := some document, mode, base := some base } reported = true ↔
      endsDocument (segments mode reported) (segments mode document) = true ∨
        isAbsolute reported = false ∧
          endsDocument (segments mode (fromBase base reported)) (segments mode document) =
            true := by
  rw [acceptsPath, Bool.or_eq_true, Bool.and_eq_true, Bool.not_eq_true']

/-- The base directory is a second way to be accepted, if there is one. -/
theorem acceptsPath_iff_exists (mode : CaseMode) (document : Text) (base : Option Text)
    (reported : Text) :
    PathFilter.acceptsPath { document := some document, mode, base } reported = true ↔
      endsDocument (segments mode reported) (segments mode document) = true ∨
        ∃ directory ∈ base, isAbsolute reported = false ∧
          endsDocument (segments mode (fromBase directory reported)) (segments mode document) =
            true := by
  cases base with
  | none => simp [acceptsPath]
  | some directory => rw [acceptsPath_iff]; simp

/-- The stack of segments of the base directory. Blanks at its end are part of its last name. -/
def baseStack (base : Text) : List Text :=
  (pieces (trimStart base)).foldl pushSegment []

/-- Without blanks around it, the base directory has the stack of its own segments. -/
theorem baseStack_of_trim_eq {base : Text} (h : trim base = base) :
    baseStack base = (parts base).foldl pushSegment [] := by
  rw [baseStack, trimStart_of_trim_eq h, parts_eq_pieces, h]

/-- The parts of a reported path act on the segments of the directory. -/
theorem foldl_fromBase (base reported : Text) :
    (parts (fromBase base reported)).foldl pushSegment [] =
      (parts reported).foldl pushSegment (baseStack base) := by
  have hslash : IsSeparator '/' := .inl rfl
  rw [parts_eq_pieces, fromBase, trim_append_cons hslash.isBlank_eq_false, trimEnd_trim,
    pieces_append hslash, List.foldl_append]
  rfl

end DiagnosticMarkers.PathFilter

/-! ## Recognition -/

namespace DiagnosticMarkers.Path

open Text

/-- A name as it stands in a path: in one piece, without blanks around it. -/
structure IsPlainName (name : Text) : Prop extends IsName name where
  no_slash : '/' ∉ name
  no_backslash : '\\' ∉ name
  trimmed : trim name = name

theorem isPlainName_iff (name : Text) :
    IsPlainName name ↔ (name ≠ [] ∧ name ≠ current ∧ name ≠ parent) ∧
      '/' ∉ name ∧ '\\' ∉ name ∧ trim name = name :=
  ⟨fun h => ⟨⟨h.ne_nil, h.ne_current, h.ne_parent⟩, h.no_slash, h.no_backslash, h.trimmed⟩,
    fun ⟨⟨hnil, hcurrent, hparent⟩, hslash, hback, htrim⟩ =>
      ⟨⟨hnil, hcurrent, hparent⟩, hslash, hback, htrim⟩⟩

instance (name : Text) : Decidable (IsPlainName name) :=
  decidable_of_iff' _ (isPlainName_iff name)

variable {names : List Text} {text : Text}

theorem IsPlainName.separators (hnames : ∀ name ∈ names, IsPlainName name) :
    ∀ name ∈ names, '/' ∉ name ∧ '\\' ∉ name :=
  fun name hname => ⟨(hnames name hname).no_slash, (hnames name hname).no_backslash⟩

/-- The names of an absolute path are its segments. -/
theorem foldl_pieces_absolute (hnames : ∀ name ∈ names, IsPlainName name) {separator : Char}
    (hseparator : IsSeparator separator) (htext : Spells names text) :
    (pieces (separator :: text)).foldl pushSegment [] = names.reverse := by
  have hpieces : pieces (separator :: text) = pieces [] ++ pieces text :=
    pieces_append hseparator [] text
  have hskip : (pieces []).foldl pushSegment [] = [] := rfl
  rw [hpieces, List.foldl_append, hskip,
    foldl_pieces_of_spells htext (IsPlainName.separators hnames),
    foldl_of_isName fun name hname => (hnames name hname).toIsName, List.append_nil]

theorem trim_absolute (hnames : ∀ name ∈ names, IsPlainName name) {separator : Char}
    (hseparator : IsSeparator separator) (htext : Spells names text) :
    trim (separator :: text) = separator :: text := by
  have htrim := htext.trim_eq fun name hname => (hnames name hname).trimmed
  have hends := trim_append_cons hseparator.isBlank_eq_false [] text
  rwa [trimEnd_of_trim_eq htrim] at hends

theorem segments_absolute (hnames : ∀ name ∈ names, IsPlainName name) {separator : Char}
    (hseparator : IsSeparator separator) (htext : Spells names text) (mode : CaseMode) :
    segments mode (separator :: text) = names.map mode.normalize := by
  rw [segments, parts_eq_pieces, trim_absolute hnames hseparator htext,
    foldl_pieces_absolute hnames hseparator htext, List.reverse_reverse]

/-- A path that climbs first is not absolute. -/
theorem isAbsolute_of_climbing (htext : Spells (parent :: names) text)
    (htrim : trim text = text) : isAbsolute text = false := by
  rw [isAbsolute, htrim]
  cases htext with
  | single => decide
  | cons name hseparator hrest => rfl

/-- A path that climbs and then goes down to some names. -/
theorem foldl_parts_climbing {climbs : Nat} (hne : names ≠ [])
    (hnames : ∀ name ∈ names, IsPlainName name)
    (htext : Spells (List.replicate climbs parent ++ names) text) :
    trim text = text ∧ ∀ stack,
      (parts text).foldl pushSegment stack = names.reverse ++ climb climbs stack := by
  have hsteps : ∀ step ∈ List.replicate climbs parent ++ names,
      trim step = step ∧ '/' ∉ step ∧ '\\' ∉ step := fun step hstep => by
    rcases List.mem_append.mp hstep with hclimb | hname
    · rw [List.eq_of_mem_replicate hclimb]
      decide
    · have hplain := hnames step hname
      exact ⟨hplain.trimmed, hplain.no_slash, hplain.no_backslash⟩
  have htrim : trim text = text := htext.trim_eq fun step hstep => (hsteps step hstep).1
  have hpieces := htext.pieces_eq (List.append_ne_nil_of_right_ne_nil _ hne)
    fun step hstep => (hsteps step hstep).2
  refine ⟨htrim, fun stack => ?_⟩
  rw [parts_eq_pieces, htrim, hpieces, List.foldl_append, foldl_replicate_parent,
    foldl_of_isName fun name hname => (hnames name hname).toIsName]

end Path

namespace PathFilter

open DiagnosticMarkers.Path Text

variable {document base : List Text} {shared : Nat}

/-- From the directory, climbing leads to the names that it shares with the document. -/
theorem climb_reverse_of_shared (hbase : ∀ name ∈ base, IsPlainName name)
    (hshared : document.take shared = base.take shared) (hlonger : shared < document.length) :
    climb (base.length - shared) base.reverse = (document.take shared).reverse := by
  have hparent : parent ∉ base.reverse := fun h =>
    (hbase parent (List.mem_reverse.mp h)).ne_parent rfl
  have hlength := congrArg List.length hshared
  rw [List.length_take, List.length_take] at hlength
  have hcount : base.length - (base.length - shared) = shared := by omega
  rw [climb_eq_drop hparent (by rw [List.length_reverse]; omega), List.drop_reverse, hcount,
    hshared]

theorem drop_ne_nil_of_shared (hlonger : shared < document.length) : document.drop shared ≠ [] :=
  mt List.drop_eq_nil_iff.mp (Nat.not_le_of_lt hlonger)

/-- The reported path climbs to the shared directory and enters what is left of the document. -/
theorem foldl_parts_of_shared (hdocument : ∀ name ∈ document, IsPlainName name)
    (hlonger : shared < document.length) {climbs : Nat} {reported : Text}
    (hreported : Spells (List.replicate climbs parent ++ document.drop shared) reported) :
    trim reported = reported ∧ ∀ stack, (parts reported).foldl pushSegment stack =
      (document.drop shared).reverse ++ climb climbs stack :=
  foldl_parts_climbing (drop_ne_nil_of_shared hlonger)
    (fun name hname => hdocument name (List.mem_of_mem_drop hname)) hreported

/-- Read from the base directory, the path that climbs from there to a shared directory and goes
down to the document has the document's segments. -/
theorem segments_fromBase_of_shared (hdocument : ∀ name ∈ document, IsPlainName name)
    (hbase : ∀ name ∈ base, IsPlainName name)
    (hshared : document.take shared = base.take shared) (hlonger : shared < document.length)
    {baseSlash : Char} (hbaseSlash : IsSeparator baseSlash) {baseText reported : Text}
    (hbaseText : Spells base baseText)
    (hreported : Spells (List.replicate (base.length - shared) parent ++ document.drop shared)
      reported) (mode : CaseMode) :
    segments mode (fromBase (baseSlash :: baseText) reported) = document.map mode.normalize := by
  have hstart : baseStack (baseSlash :: baseText) = base.reverse := by
    rw [baseStack, trimStart_of_trim_eq (trim_absolute hbase hbaseSlash hbaseText),
      foldl_pieces_absolute hbase hbaseSlash hbaseText]
  rw [segments, foldl_fromBase, hstart, (foldl_parts_of_shared hdocument hlonger hreported).2,
    climb_reverse_of_shared hbase hshared hlonger, ← List.reverse_append, List.reverse_reverse,
    List.take_append_drop]

/-- A document is recognised by the path from the base directory that climbs to any directory
above both and goes down to the document, whichever separators are used. -/
theorem acceptsPath_of_common_directory (hdocument : ∀ name ∈ document, IsPlainName name)
    (hbase : ∀ name ∈ base, IsPlainName name)
    (hshared : document.take shared = base.take shared) (hlonger : shared < document.length)
    {documentSlash baseSlash : Char} (hdocumentSlash : IsSeparator documentSlash)
    (hbaseSlash : IsSeparator baseSlash) {documentText baseText reported : Text}
    (hdocumentText : Spells document documentText) (hbaseText : Spells base baseText)
    (hreported : Spells (List.replicate (base.length - shared) parent ++ document.drop shared)
      reported) (mode : CaseMode) :
    PathFilter.acceptsPath
      { document := some (documentSlash :: documentText), mode,
        base := some (baseSlash :: baseText) } reported = true := by
  have hsegments := segments_absolute hdocument hdocumentSlash hdocumentText mode
  obtain ⟨htrim, hfold⟩ := foldl_parts_of_shared hdocument hlonger hreported
  rw [acceptsPath_iff, hsegments]
  cases hclimbs : base.length - shared with
  | zero =>
    -- The document is below the base directory: its path ends with the reported one.
    left
    rw [hclimbs] at hfold
    have hnames : segments mode reported = (document.drop shared).map mode.normalize := by
      rw [segments, hfold, climb, List.append_nil, List.reverse_reverse]
    rw [hnames, endsDocument_iff]
    exact ⟨mt List.map_eq_nil_iff.mp (drop_ne_nil_of_shared hlonger),
      (List.drop_suffix shared document).map _⟩
  | succ climbs =>
    -- The path climbs first, so a name like a drive further on does not make it absolute.
    right
    have hjoined := segments_fromBase_of_shared hdocument hbase hshared hlonger hbaseSlash hbaseText
      hreported mode
    rw [hjoined, endsDocument_iff]
    rw [hclimbs, List.replicate_succ, List.cons_append] at hreported
    have hdocumentNe : document ≠ [] := List.ne_nil_of_length_pos (Nat.zero_lt_of_lt hlonger)
    exact ⟨isAbsolute_of_climbing hreported htrim, mt List.map_eq_nil_iff.mp hdocumentNe,
      List.suffix_refl _⟩

/-- The checker ran two directories below the one that is shared. On the way down stands a name
that looks like a drive, and both slashes occur in each path. -/
theorem acceptsPath_of_common_directory_drive_name :
    let document : List Text := ["srv".toList, "C:".toList, "mod.py".toList]
    let base : List Text := ["srv".toList, "work".toList, "deep er".toList]
    (∀ name ∈ document, IsPlainName name) ∧ (∀ name ∈ base, IsPlainName name) ∧
      document.take 1 = base.take 1 ∧ 1 < document.length ∧
      Spells document "srv\\C:/mod.py".toList ∧ Spells base "srv/work\\deep er".toList ∧
      Spells (List.replicate (base.length - 1) parent ++ document.drop 1)
        "../..\\C:/mod.py".toList ∧
      PathFilter.acceptsPath
        { document := some "/srv\\C:/mod.py".toList, mode := .sensitive,
          base := some "\\srv/work\\deep er".toList } "../..\\C:/mod.py".toList = true := by
  intro document base
  have hdocument : ∀ name ∈ document, IsPlainName name := by decide +kernel
  have hbase : ∀ name ∈ base, IsPlainName name := by decide +kernel
  have hshared : document.take 1 = base.take 1 := by decide +kernel
  have hlonger : 1 < document.length := by decide +kernel
  have hdocumentText : Spells document "srv\\C:/mod.py".toList :=
    .cons _ (.inr rfl) (.cons _ (.inl rfl) (.single _))
  have hbaseText : Spells base "srv/work\\deep er".toList :=
    .cons _ (.inl rfl) (.cons _ (.inr rfl) (.single _))
  have hreported : Spells (List.replicate (base.length - 1) parent ++ document.drop 1)
      "../..\\C:/mod.py".toList :=
    .cons parent (.inl rfl) (.cons parent (.inr rfl) (.cons _ (.inl rfl) (.single _)))
  exact ⟨hdocument, hbase, hshared, hlonger, hdocumentText, hbaseText, hreported,
    acceptsPath_of_common_directory hdocument hbase hshared hlonger (.inl rfl) (.inr rfl)
      hdocumentText hbaseText hreported .sensitive⟩

end PathFilter

end DiagnosticMarkers
