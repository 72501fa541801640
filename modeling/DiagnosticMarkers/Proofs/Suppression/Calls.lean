import DiagnosticMarkers.Proofs.Document.Steady
import DiagnosticMarkers.Suppression

/-!
# Filtering with any host

Each marker is judged by its own source line, read when its turn comes. In a steady document
the turn does not matter, so the markers that stay are told by the lines as they were in the
beginning.

A host may answer each request for a line with any text or with any error, and the same request
differently each time. Filtering asks for the line of each marker once, in order and between
taking the lock and giving it back. No answer ends it: what becomes of a marker, and what is
logged about it, is told by the answer to its own request alone.
-/

namespace DiagnosticMarkers.Suppression

/-! ## The markers that stay -/

variable {σ τ : Type}

/-- Are markers shown at a line? They are if the document does not give the line out, or gives
it out without a suppression comment. -/
def showsAt (document : Document σ) (tokens : List Text) (state : σ) (line : Int) : Bool :=
  (document.line line state).1.toOption.all fun text => !hasComment text tokens

/-- A marker goes only if its line is given out with a suppression comment. -/
theorem markers_judge (tokens : List Text) (marker : Marker) (answer : Except LineError Text) :
    (judge tokens marker answer).markers =
      if answer.toOption.all fun text => !hasComment text tokens then [marker] else [] := by
  cases answer with
  | error fault => rfl
  | ok text => by_cases h : hasComment text tokens <;> simp [judge, Except.toOption, h]

/-- Whether markers are shown does not change while lines are read. -/
theorem showsAt_line {document : Document σ} {start : σ} (hsteady : document.Steady start)
    (tokens : List Text) (number line : Int) :
    showsAt document tokens (document.line number start).2 line =
      showsAt document tokens start line := by
  rw [showsAt, showsAt, hsteady line _ (.read number .start)]

/-- In a steady document the markers stay that are shown in the beginning. -/
theorem markers_collect {document : Document σ} {start : σ} (hsteady : document.Steady start)
    (tokens : List Text) (markers : List Marker) :
    (collect document tokens markers start).result.markers =
      markers.filter fun marker => showsAt document tokens start marker.location.line := by
  induction markers generalizing start with
  | nil => rfl
  | cons marker markers ih =>
    have hrest := ih (hsteady.line marker.location.line)
    simp only [showsAt_line hsteady] at hrest
    simp only [collect, hrest, markers_judge, List.filter_cons, showsAt]
    split <;> rfl

/-- Documents that look alike show markers at the same lines. -/
theorem showsAt_of_toldBy {document : Document σ} {view : σ → τ} (htold : document.ToldBy view)
    (tokens : List Text) {state other : σ} (h : view state = view other) (line : Int) :
    showsAt document tokens state line = showsAt document tokens other line := by
  rw [showsAt, showsAt, htold.answer line state other h]

end DiagnosticMarkers.Suppression

namespace DiagnosticMarkers

/-! ## Requests and their answers -/

variable {σ : Type}

namespace Document

def answers (document : Document σ) : List Int → σ → List (Except LineError Text)
  | [], _ => []
  | number :: numbers, state =>
    (document.line number state).1 :: document.answers numbers (document.line number state).2

def stateAfter (document : Document σ) (numbers : List Int) (state : σ) : σ :=
  numbers.foldl (fun state number => (document.line number state).2) state

end Document

namespace Suppression

/-- A request for the source line of a marker, with its answer. -/
structure Call where
  marker : Marker
  answer : Except LineError Text

namespace Call

/-- Does the marker stay? It does if the request fails, or gives a line without a suppression
comment. -/
def stays (tokens : List Text) (call : Call) : Bool :=
  call.answer.toOption.all fun text => !hasComment text tokens

/-- What is logged: a warning if the request fails, a debug record if the marker goes. -/
def record? (tokens : List Text) (call : Call) : Option LogRecord :=
  let line := Text.ofInt call.marker.location.line
  match call.answer with
  | .error fault =>
    some ⟨.warning, "typemarks.suppression",
      "cannot check suppression for line ".toList ++ line ++ ": ".toList ++ fault.message⟩
  | .ok _ =>
    if call.stays tokens then none
    else
      some ⟨.debug, "typemarks.suppression",
        "marker at line ".toList ++ line ++ " suppressed by inline comment".toList⟩

theorem record?_of_error {call : Call} {fault : LineError} (h : call.answer = .error fault)
    (tokens : List Text) : call.record? tokens =
      some (Event.unreadableLine call.marker.location.line fault.message).toRecord := by
  rw [record?, h]
  rfl

theorem record?_of_ok {call : Call} {text : Text} (h : call.answer = .ok text)
    (tokens : List Text) : call.record? tokens =
      if call.stays tokens then none
      else some (Event.suppressed call.marker.location.line).toRecord := by
  rw [record?, h]
  rfl

/-- The events of a call are written as one record at most. -/
theorem records_judge (tokens : List Text) (call : Call) :
    (judge tokens call.marker call.answer).events.map Event.toRecord =
      (call.record? tokens).toList := by
  cases hanswer : call.answer with
  | error fault =>
    rw [record?_of_error hanswer, judge]
    rfl
  | ok text =>
    rw [record?_of_ok hanswer, stays, hanswer]
    by_cases h : hasComment text tokens = true <;> simp [judge, Except.toOption, h]

/-- A marker goes exactly if a debug record says so. -/
theorem isDebug_record? (tokens : List Text) (call : Call) :
    ((call.record? tokens).map fun record => decide (record.level = .debug)).getD false =
      !call.stays tokens := by
  cases hanswer : call.answer with
  | error fault =>
    rw [record?_of_error hanswer, stays, hanswer]
    rfl
  | ok text =>
    rw [record?_of_ok hanswer]
    cases call.stays tokens <;> rfl

end Call

def calls (document : Document σ) (markers : List Marker) (state : σ) : List Call :=
  List.zipWith Call.mk markers (document.answers (markers.map (·.location.line)) state)

variable (document : Document σ) (tokens : List Text) (markers : List Marker) (state : σ)

theorem map_marker_calls : (calls document markers state).map Call.marker = markers := by
  induction markers generalizing state with
  | nil => rfl
  | cons marker markers ih => exact congrArg (marker :: ·) (ih _)

theorem map_answer_calls : (calls document markers state).map Call.answer =
    document.answers (markers.map (·.location.line)) state := by
  induction markers generalizing state with
  | nil => rfl
  | cons marker markers ih => exact congrArg (_ :: ·) (ih _)

theorem calls_cons (marker : Marker) :
    calls document (marker :: markers) state =
      ⟨marker, (document.line marker.location.line state).1⟩ ::
        calls document markers (document.line marker.location.line state).2 :=
  rfl

/-- The markers stay whose own call says so. -/
theorem markers_collect_calls :
    (collect document tokens markers state).result.markers =
      ((calls document markers state).filter (Call.stays tokens)).map Call.marker := by
  induction markers generalizing state with
  | nil => rfl
  | cons marker markers ih =>
    have hjudge : (judge tokens marker (document.line marker.location.line state).1).markers =
        if Call.stays tokens ⟨marker, (document.line marker.location.line state).1⟩ then [marker]
        else [] := markers_judge tokens marker _
    simp only [collect, calls_cons, List.filter_cons, ih, hjudge]
    split <;> rfl

theorem records_collect_calls :
    (collect document tokens markers state).result.events.map Event.toRecord =
      (calls document markers state).filterMap (Call.record? tokens) := by
  induction markers generalizing state with
  | nil => rfl
  | cons marker markers ih =>
    have hcall := Call.records_judge tokens
      ⟨marker, (document.line marker.location.line state).1⟩
    simp only [collect, calls_cons, List.map_append, List.filterMap_cons, ih, hcall]
    split <;> simp_all

/-- The markers that stay and the debug records about those that go are as many as the calls. -/
theorem length_filter_stays_add_countP (tokens : List Text) (calls : List Call) :
    (calls.filter (Call.stays tokens)).length +
      (calls.filterMap (Call.record? tokens)).countP (fun record => record.level = .debug) =
        calls.length := by
  have hgone : (calls.filterMap (Call.record? tokens)).countP
      (fun record => record.level = .debug) = calls.countP fun call => ¬ call.stays tokens := by
    rw [List.countP_filterMap]
    exact List.countP_congr fun call _ => by rw [call.isDebug_record?]; simp
  rw [← List.countP_eq_length_filter, hgone, ← List.length_eq_countP_add_countP]

/-- Each line is asked for once and in order, whatever the answers are. -/
theorem accesses_collect :
    (collect document tokens markers state).accesses =
      markers.map fun marker => .read marker.location.line := by
  induction markers generalizing state with
  | nil => rfl
  | cons marker markers ih => exact congrArg (_ :: ·) (ih _)

theorem state_collect :
    (collect document tokens markers state).state =
      document.stateAfter (markers.map (·.location.line)) state := by
  induction markers generalizing state with
  | nil => rfl
  | cons marker markers ih => exact ih _

/-- Whatever a host answers, filtering makes one call for each marker, in order. The markers stay
whose call fails or gives a line without a suppression comment, and each failing call is logged
as a warning, each marker that goes as a debug record. If there is a lock, it is taken once before
all calls and given back once behind them. -/
theorem filter_one_call_each :
    ∃ calls : List Call,
      calls.map Call.marker = markers ∧
      calls.map Call.answer = document.answers (markers.map (·.location.line)) state ∧
      (filter document tokens markers state).result.markers =
        (calls.filter (Call.stays tokens)).map Call.marker ∧
      (filter document tokens markers state).result.events.map Event.toRecord =
        calls.filterMap (Call.record? tokens) ∧
      (filter document tokens markers state).accesses =
        (if document.hasLock then [.lock] else []) ++
          markers.map (fun marker => .read marker.location.line) ++
          (if document.hasLock then [.unlock] else []) ∧
      (filter document tokens markers state).state =
        document.stateAfter (markers.map (·.location.line)) state := by
  refine ⟨calls document markers state, map_marker_calls document markers state,
    map_answer_calls document markers state, markers_collect_calls document tokens markers state,
    records_collect_calls document tokens markers state, ?_,
    state_collect document tokens markers state⟩
  have haccesses := accesses_collect document tokens markers state
  cases hlock : document.hasLock <;>
    simp [filter, Document.synchronized, Document.guarded, haccesses, hlock]

end Suppression

end DiagnosticMarkers
