import DiagnosticMarkers.Proofs.Analysis.Session
import DiagnosticMarkers.Proofs.Output
import DiagnosticMarkers.Proofs.Text.Trim

/-!
# Noise in output

A line is noise if it can be read and gives no diagnostic that is accepted: it is blank, or a
summary, or it is about another file. Noise may stand anywhere among the other lines, between an
error and the notes that explain it too. It changes neither the markers nor the error of an
analysis, and the same lines of the document are read in the same order; only the events tell of
it. The document may answer differently each time: since it is asked the same questions, it cannot
tell the two analyses apart.
-/

namespace DiagnosticMarkers.Output

variable {accepts : Diagnostic → Bool}

/-- Is the line noise? It holds no diagnostic, or one that is not accepted. -/
def isNoise (accepts : Diagnostic → Bool) (line : Text) : Bool :=
  match Diagnostic.ofLine line with
  | .error _ => false
  | .ok none => true
  | .ok (some diagnostic) => !accepts diagnostic

/-- The second lines are the first ones with noise put in between them, in front or behind. -/
inductive WithNoise (accepts : Diagnostic → Bool) : List Text → List Text → Prop
  | nil : WithNoise accepts [] []
  | keep (line : Text) {lines noisy : List Text} (h : WithNoise accepts lines noisy) :
    WithNoise accepts (line :: lines) (line :: noisy)
  | noise {line : Text} (hline : isNoise accepts line = true) {lines noisy : List Text}
      (h : WithNoise accepts lines noisy) : WithNoise accepts lines (line :: noisy)

theorem exists_of_isNoise {line : Text} (hline : isNoise accepts line = true) :
    ∃ found, Diagnostic.ofLine line = .ok found ∧ found.toList.filter accepts = [] := by
  unfold isNoise at hline
  split at hline
  · cases hline
  · next hread => exact ⟨none, hread, rfl⟩
  · next diagnostic hread => exact ⟨some diagnostic, hread, by simpa using hline⟩

/-- The diagnostics among noise are read, or the fault is found, as without it. -/
theorem WithNoise.result_read {lines noisy : List Text} (h : WithNoise accepts lines noisy) :
    (read accepts noisy).result = (read accepts lines).result := by
  induction h with
  | nil => rfl
  | keep line _ ih =>
    cases hread : Diagnostic.ofLine line with
    | error fault => rw [result_read_cons_of_error hread, result_read_cons_of_error hread]
    | ok found => rw [result_read_cons_of_ok hread, result_read_cons_of_ok hread, ih]
  | @noise line hline lines noisy _ ih =>
    obtain ⟨found, hread, hnone⟩ := exists_of_isNoise hline
    rw [result_read_cons_of_ok hread, hnone, ih]
    cases (read accepts lines).result <;> rfl

theorem ofLine_dropLineEnd (item : Text) :
    Diagnostic.ofLine (dropLineEnd item) = Diagnostic.ofLine item := by
  have hblank : ∀ c : Char, (c == '\r' || c == '\n') = true → Text.isBlank c = true := by
    intro c hc
    rcases Bool.or_eq_true_iff.mp hc with hreturn | hnewline
    · rw [beq_iff_eq.mp hreturn]
      rfl
    · rw [beq_iff_eq.mp hnewline]
      rfl
  rw [Diagnostic.ofLine, dropLineEnd, Text.trim_dropEndWhile hblank, Diagnostic.ofLine]

/-- Lines that are given with their line ends may be compared as they are given. -/
theorem WithNoise.items {given noisy : List Text} (h : WithNoise accepts given noisy) :
    WithNoise accepts (Output.items given).lines (Output.items noisy).lines := by
  induction h with
  | nil => exact .nil
  | keep line _ ih => exact .keep (dropLineEnd line) ih
  | noise hline _ ih =>
    refine .noise ?_ ih
    rwa [isNoise, ofLine_dropLineEnd]

end DiagnosticMarkers.Output

namespace DiagnosticMarkers

/-! ## Analyses -/

variable {σ : Type} {analysis : Analysis σ} {stdout noisy : Output}

namespace Analysis

/-- Noise is seen in the events only. -/
theorem run_of_withNoise
    (h : Output.WithNoise analysis.filter.accepts stdout.lines noisy.lines)
    (stderr : Output) (state : σ) :
    (analysis.run noisy stderr state).result.result =
        (analysis.run stdout stderr state).result.result ∧
      (analysis.run noisy stderr state).state = (analysis.run stdout stderr state).state ∧
      (analysis.run noisy stderr state).accesses =
        (analysis.run stdout stderr state).accesses := by
  have hreading : (analysis.reading noisy).result = (analysis.reading stdout).result :=
    h.result_read
  cases hread : (analysis.reading stdout).result with
  | error fault =>
    rw [hread] at hreading
    rw [run_of_error hread, run_of_error hreading]
    exact ⟨rfl, rfl, rfl⟩
  | ok diagnostics =>
    rw [hread] at hreading
    rw [run_of_ok hread, run_of_ok hreading]
    exact ⟨rfl, rfl, rfl⟩

end Analysis

namespace Session

/-- With noise put anywhere into the output, an analysis gives the same markers or fails with the
same error, makes the same accesses to the document, and leaves the same session behind. -/
theorem analyze_of_withNoise (analysis : Analysis σ) (session : Session σ)
    {stdout noisy : Output}
    (hnoise : Output.WithNoise analysis.filter.accepts stdout.lines noisy.lines)
    (stderr : Output) :
    (session.analyze analysis noisy stderr).result.result =
        (session.analyze analysis stdout stderr).result.result ∧
      (session.analyze analysis noisy stderr).accesses =
        (session.analyze analysis stdout stderr).accesses ∧
      (session.analyze analysis noisy stderr).state =
        (session.analyze analysis stdout stderr).state := by
  obtain ⟨hresult, hstate, haccesses⟩ :=
    Analysis.run_of_withNoise hnoise stderr session.state
  cases h : session.cancelled with
  | true =>
    rw [analyze_of_cancelled h, analyze_of_cancelled h]
    exact ⟨rfl, rfl, rfl⟩
  | false =>
    rw [analyze_of_not_cancelled h, analyze_of_not_cancelled h]
    simp only [hresult, hstate, haccesses, and_self]

/-- Noise of every kind, also between an error and its note, and a document that suppresses only
what it is asked about first. -/
theorem analyze_of_withNoise_everywhere :
    let document : Document Nat :=
      { path := some "/pkg/mod.py".toList
        hasLock := true
        line := fun _ count => (.ok (if count = 0 then "# noqa".toList else []), count + 1) }
    let analysis : Analysis Nat := ⟨document, {}, none⟩
    let session : Session Nat := { state := 0 }
    let given : List Text := ["mod.py:1:5: error: boom".toList,
      "mod.py:1:5: note: because".toList, "mod.py:3: note: first".toList,
      "mod.py:3: note: second\n".toList]
    let noisy : List Text := ["".toList, "mod.py:1:5: error: boom".toList,
      "other.py:1:5: note: elsewhere".toList, "Found 2 errors".toList,
      "mod.py:1:5: note: because".toList, "mod.py:3: note: first".toList,
      "other.py:2: error: elsewhere".toList, "mod.py:0: error: nowhere\r\n".toList,
      "mod.py:3: note: second\n".toList, "mod.py:3: fatal: unknown".toList]
    let found := session.analyze analysis (.items noisy) (.whole [])
    Output.WithNoise analysis.filter.accepts (Output.items given).lines
        (Output.items noisy).lines ∧
      (found.result.result.toOption.map fun markers => markers.map Marker.message) =
        some ["Mypy: boom\nbecause".toList] ∧
      found.accesses = [.lock, .read 3, .read 1, .unlock] ∧ found.state.state = 2 := by
  intro document analysis session given noisy found
  have hnoise : Output.WithNoise analysis.filter.accepts given noisy := by
    refine .noise (by decide +kernel) (.keep _ (.noise (by decide +kernel)
      (.noise (by decide +kernel) (.keep _ (.keep _ (.noise (by decide +kernel)
      (.noise (by decide +kernel) (.keep _ (.noise (by decide +kernel) .nil)))))))))
  obtain ⟨hresult, haccesses, hstate⟩ :=
    analyze_of_withNoise analysis session hnoise.items (.whole [])
  refine ⟨hnoise.items, ?_, ?_, ?_⟩
  · rw [hresult]
    decide +kernel
  · rw [haccesses]
    decide +kernel
  · rw [hstate]
    decide +kernel

end Session

end DiagnosticMarkers
