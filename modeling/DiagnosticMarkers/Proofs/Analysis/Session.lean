import DiagnosticMarkers.Proofs.Analysis.Run
import DiagnosticMarkers.Proofs.Document.Steady

/-!
# Sessions without history

A session remembers three things: the markers of the last analysis that gave some, the content
that was put into the document last, and whether analyses are given up. Each step keeps or
replaces them, so after any run they are told by the last step that replaced them. What an
analysis gives depends on nothing else, and not on the markers.
-/

namespace DiagnosticMarkers

namespace Session

variable {σ τ : Type}

/-- What a step of a session leaves behind. -/
abbrev Step (σ : Type) : Type :=
  Visit (Session σ) (Option (Findings AnalysisError))

/-- The markers that a step gave, if it was an analysis that gave some. -/
def returned (step : Step σ) : Option (List Marker) :=
  step.result.bind fun findings => findings.result.toOption

/-- The content that an operation puts into the document, as far as it can be seen. -/
def edits (view : σ → τ) : Operation σ → Option τ
  | .edit state => some (view state)
  | _ => none

/-- What an operation says about giving analyses up. -/
def cancels : Operation σ → Option Bool
  | .cancel cancelled => some cancelled
  | _ => none

/-- The session after operations. -/
def after (analysis : Analysis σ) (session : Session σ) (operations : List (Operation σ)) :
    Session σ :=
  operations.foldl (fun session operation => (session.perform analysis operation).state) session

variable {analysis : Analysis σ} {session : Session σ}

/-- An analysis that is given up does nothing. -/
theorem analyze_of_cancelled (h : session.cancelled = true) (stdout stderr : Output) :
    session.analyze analysis stdout stderr = ⟨⟨.error .cancelled, []⟩, session, []⟩ := by
  rw [analyze, if_pos h]

/-- Any other analysis is run on the document as it is, and its markers, if there are any,
replace those before. -/
theorem analyze_of_not_cancelled (h : session.cancelled = false) (stdout stderr : Output) :
    session.analyze analysis stdout stderr =
      ⟨⟨(analysis.run stdout stderr session.state).result.result.mapError .overlong,
          (analysis.run stdout stderr session.state).result.events⟩,
        { session with
          state := (analysis.run stdout stderr session.state).state
          markers := (analysis.run stdout stderr session.state).result.result.toOption.getD
            session.markers },
        (analysis.run stdout stderr session.state).accesses⟩ := by
  rw [analyze, if_neg (by simp [h])]
  cases hresult : (analysis.run stdout stderr session.state).result.result with
  | error fault =>
    simp only [hresult]
    rfl
  | ok markers =>
    simp only [hresult]
    rfl

theorem markers_perform (operation : Operation σ) :
    (session.perform analysis operation).state.markers =
      (returned (session.perform analysis operation)).getD session.markers := by
  cases operation with
  | edit state => rfl
  | cancel cancelled => rfl
  | analyze stdout stderr =>
    cases h : session.cancelled with
    | true => simp [perform, analyze_of_cancelled h, returned, Except.toOption]
    | false =>
      simp only [perform, analyze_of_not_cancelled h, returned, Option.bind_some]
      cases (analysis.run stdout stderr session.state).result.result <;> rfl

theorem cancelled_perform (operation : Operation σ) :
    (session.perform analysis operation).state.cancelled =
      (cancels operation).getD session.cancelled := by
  cases operation with
  | edit state => rfl
  | cancel cancelled => rfl
  | analyze stdout stderr =>
    cases h : session.cancelled with
    | true => simp [perform, analyze_of_cancelled h, cancels, h]
    | false => simp [perform, analyze_of_not_cancelled h, cancels, h]

theorem view_perform {view : σ → τ} (htold : analysis.document.ToldBy view)
    (operation : Operation σ) :
    view (session.perform analysis operation).state.state =
      (edits view operation).getD (view session.state) := by
  cases operation with
  | edit state => rfl
  | cancel cancelled => rfl
  | analyze stdout stderr =>
    cases h : session.cancelled with
    | true => simp [perform, analyze_of_cancelled h, edits]
    | false =>
      simpa [perform, analyze_of_not_cancelled h, edits] using
        Analysis.view_run htold stdout stderr session.state

theorem performAll_append (before later : List (Operation σ)) :
    session.performAll analysis (before ++ later) =
      session.performAll analysis before ++ (session.after analysis before).performAll analysis
        later := by
  induction before generalizing session with
  | nil => rfl
  | cons operation before ih =>
    rw [List.cons_append, performAll, ih]
    rfl

/-- The markers are those of the last analysis that gave some. -/
theorem markers_after (operations : List (Operation σ)) :
    (session.after analysis operations).markers =
      latest returned session.markers (session.performAll analysis operations) := by
  induction operations generalizing session with
  | nil => rfl
  | cons operation operations ih =>
    rw [performAll, latest_cons, ← markers_perform]
    exact ih

/-- Analyses are given up if the last word about it said so. -/
theorem cancelled_after (operations : List (Operation σ)) :
    (session.after analysis operations).cancelled =
      latest cancels session.cancelled operations := by
  induction operations generalizing session with
  | nil => rfl
  | cons operation operations ih =>
    rw [latest_cons, ← cancelled_perform]
    exact ih

/-- The document looks as the last edit left it. -/
theorem view_after {view : σ → τ} (htold : analysis.document.ToldBy view)
    (operations : List (Operation σ)) :
    view (session.after analysis operations).state =
      latest (edits view) (view session.state) operations := by
  induction operations generalizing session with
  | nil => rfl
  | cons operation operations ih =>
    rw [latest_cons, ← view_perform htold]
    exact ih

theorem perform_of_cancelled (h : session.cancelled = true) (stdout stderr : Output) :
    session.perform analysis (.analyze stdout stderr) =
      ⟨some ⟨.error .cancelled, []⟩, session, []⟩ := by
  rw [perform, analyze_of_cancelled h]

theorem result_perform_of_not_cancelled {view : σ → τ} (htold : analysis.document.ToldBy view)
    (h : session.cancelled = false) {fresh : σ} (hfresh : view fresh = view session.state)
    (stdout stderr : Output) :
    (session.perform analysis (.analyze stdout stderr)).result.map Findings.result =
      some ((analysis.run stdout stderr fresh).result.result.mapError .overlong) := by
  rw [perform, analyze_of_not_cancelled h,
    ← Analysis.result_run_of_toldBy htold hfresh.symm stdout stderr stderr]
  rfl

theorem returned_eq (step : Step σ) :
    returned step = (step.result.map Findings.result).bind Except.toOption := by
  unfold returned
  cases step.result <;> rfl

/-- What is left behind by the step that follows some operations. -/
structure Follows (analysis : Analysis σ) (view : σ → τ) (start : Session σ)
    (before : List (Operation σ)) (operation : Operation σ) (step : Step σ) : Prop where
  /-- The markers are those of the last analysis that gave some, this one included. -/
  markers : step.state.markers =
    latest returned start.markers (start.performAll analysis before ++ [step])
  /-- An analysis that fails leaves the markers as they were. -/
  kept : ∀ findings fault, step.result = some findings → findings.result = .error fault →
    step.state.markers = latest returned start.markers (start.performAll analysis before)
  /-- An analysis that is given up does not touch the document and reports nothing. -/
  givenUp : ∀ stdout stderr, operation = .analyze stdout stderr →
    latest cancels start.cancelled before = true →
    step.result = some ⟨.error .cancelled, []⟩ ∧ step.accesses = []
  /-- Any other analysis comes out as on its own, with a document that looks as it was left. -/
  carriedOut : ∀ stdout stderr, operation = .analyze stdout stderr →
    latest cancels start.cancelled before = false →
    ∀ fresh, view fresh = latest (edits view) (view start.state) before →
      step.result.map Findings.result =
        some ((analysis.run stdout stderr fresh).result.result.mapError .overlong)
  /-- Markers are given only if they are given by the analysis on its own. -/
  fresh : ∀ stdout stderr given, operation = .analyze stdout stderr → returned step = some given →
    ∀ fresh, view fresh = latest (edits view) (view start.state) before →
      (analysis.run stdout stderr fresh).result.result = .ok given

theorem follows_perform {view : σ → τ} (htold : analysis.document.ToldBy view)
    (start : Session σ) (before : List (Operation σ)) (operation : Operation σ) :
    Follows analysis view start before operation
      ((start.after analysis before).perform analysis operation) := by
  have hmarkers : (start.after analysis before).markers = _ := markers_after before
  have hcancelled : (start.after analysis before).cancelled = _ := cancelled_after before
  have hview : view (start.after analysis before).state = _ := view_after htold before
  constructor
  · have hlast : (start.after analysis (before ++ [operation])).markers = _ := markers_after _
    rw [performAll_append, after, List.foldl_append] at hlast
    exact hlast
  · intro findings fault hfindings hfault
    have hnone : returned ((start.after analysis before).perform analysis operation) = none := by
      simp [returned, hfindings, hfault, Except.toOption]
    rw [markers_perform, hnone, ← hmarkers]
    rfl
  · rintro stdout stderr rfl hgivenUp
    rw [perform_of_cancelled (hcancelled.trans hgivenUp)]
    exact ⟨rfl, rfl⟩
  · rintro stdout stderr rfl hcarriedOut fresh hfresh
    exact result_perform_of_not_cancelled htold (hcancelled.trans hcarriedOut)
      (hfresh.trans hview.symm) stdout stderr
  · rintro stdout stderr given rfl hgiven fresh hfresh
    cases h : (start.after analysis before).cancelled with
    | true =>
      rw [perform_of_cancelled h] at hgiven
      cases hgiven
    | false =>
      have hresult := result_perform_of_not_cancelled htold h (hfresh.trans hview.symm)
        stdout stderr
      rw [returned_eq, hresult] at hgiven
      cases hrun : (analysis.run stdout stderr fresh).result.result with
      | error fault =>
        rw [hrun] at hgiven
        cases hgiven
      | ok markers =>
        rw [hrun] at hgiven
        exact congrArg Except.ok (Option.some.inj hgiven)

/-- After any operations, a step leaves behind what is told by the last analysis that gave
markers, the last edit and the last word about giving up. -/
theorem performAll_follows (analysis : Analysis σ) (view : σ → τ)
    (htold : analysis.document.ToldBy view) (state : σ) (cancelled : Bool)
    (before : List (Operation σ)) (operation : Operation σ) (later : List (Operation σ)) :
    ∃ step : Step σ,
      performAll analysis { state, cancelled } (before ++ operation :: later) =
        performAll analysis { state, cancelled } before ++
          step :: performAll analysis step.state later ∧
      Follows analysis view { state, cancelled } before operation step := by
  refine ⟨_, ?_, follows_perform htold { state, cancelled } before operation⟩
  rw [performAll_append, performAll]

/-- An analysis that is given up leaves a marker in place that an edit has suppressed. -/
theorem performAll_follows_after_edit :
    let analysis : Analysis TextBuffer :=
      ⟨TextBuffer.document (some "/pkg/mod.py".toList), {}, none⟩
    let stdout : Output := .items ["mod.py:1: error: boom".toList]
    let before : List (Operation TextBuffer) :=
      [.analyze stdout (.whole []), .edit (.ofText "x = 1  # noqa".toList), .cancel true]
    let start : Session TextBuffer := { state := .ofText "x = 1".toList }
    analysis.document.ToldBy id ∧
      ∃ step ∈ start.performAll analysis (before ++ [.analyze stdout (.whole [])]),
        step.accesses = [] ∧ step.state.markers.map Marker.message = ["Mypy: boom".toList] := by
  intro analysis stdout before start
  have htold : analysis.document.ToldBy id := TextBuffer.toldBy_id _
  obtain ⟨step, hrun, hfollows⟩ := performAll_follows analysis id htold start.state false before
    (.analyze stdout (.whole [])) []
  obtain ⟨hresult, haccesses⟩ := hfollows.givenUp _ _ rfl rfl
  refine ⟨htold, step, ?_, haccesses, ?_⟩
  · rw [hrun]
    simp
  · rw [hfollows.kept _ _ hresult rfl]
    decide +kernel

end Session

end DiagnosticMarkers
