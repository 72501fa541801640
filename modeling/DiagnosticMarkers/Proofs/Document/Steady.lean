import DiagnosticMarkers.Document
import Mathlib.Data.List.Basic

/-!
# Documents from state to state

Reading a line may change the state of a document. A document is steady in a state if, after
any reading, each line is given out as it was in the beginning, or refused as it was then; the
reason of a refusal may change. Of the things that happen to what is remembered some replace it,
and the latest of them decides.
-/

namespace DiagnosticMarkers

/-- The last of what is told, or what there was before anything was. -/
def latest {α β : Type} (told : α → Option β) (before : β) (items : List α) : β :=
  (items.filterMap told).getLast?.getD before

theorem latest_cons {α β : Type} (told : α → Option β) (before : β) (item : α)
    (items : List α) :
    latest told before (item :: items) = latest told ((told item).getD before) items := by
  unfold latest
  cases h : told item with
  | none => simp [h]
  | some value => simp [h, List.getLast?_cons]

/-! ## Steady documents -/

namespace Document

variable {σ τ : Type} {document : Document σ}

/-- The states that reading lines leads to. -/
inductive Reaches (document : Document σ) (start : σ) : σ → Prop
  | start : Reaches document start start
  | read {state : σ} (number : Int) (h : Reaches document start state) :
    Reaches document start (document.line number state).2

/-- Each line is always given out with one text, or never. -/
def Steady (document : Document σ) (start : σ) : Prop :=
  ∀ number state, document.Reaches start state →
    (document.line number state).1.toOption = (document.line number start).1.toOption

/-- What is given out is told by the number and by what can be seen of the state, and reading
does not change what can be seen. -/
structure ToldBy (document : Document σ) (view : σ → τ) : Prop where
  answer : ∀ number state other, view state = view other →
    (document.line number state).1 = (document.line number other).1
  view_line : ∀ number state, view (document.line number state).2 = view state

theorem Reaches.of_line {number : Int} {start state : σ}
    (h : document.Reaches (document.line number start).2 state) :
    document.Reaches start state := by
  induction h with
  | start => exact .read number .start
  | read next _ ih => exact .read next ih

/-- A steady document is steady after a line was read, with the same lines. -/
theorem Steady.line {start : σ} (hsteady : document.Steady start) (number : Int) :
    document.Steady (document.line number start).2 := by
  intro next state hstate
  have hnow := hsteady next state (.of_line hstate)
  have hthen := hsteady next _ (.read number .start)
  exact hnow.trans hthen.symm

theorem ToldBy.view_of_reaches {view : σ → τ} (htold : document.ToldBy view) {start state : σ}
    (h : document.Reaches start state) : view state = view start := by
  induction h with
  | start => rfl
  | read number _ ih => exact (htold.view_line number _).trans ih

/-- A document whose lines are told by what can be seen is steady in every state. -/
theorem ToldBy.steady {view : σ → τ} (htold : document.ToldBy view) (start : σ) :
    document.Steady start := by
  intro number state hstate
  rw [htold.answer number state start (htold.view_of_reaches hstate)]

end Document

/-- The lines of a text buffer are told by its content. -/
theorem TextBuffer.toldBy_id (path : Option Text) : (TextBuffer.document path).ToldBy id where
  answer number state other h := by
    obtain rfl : state = other := h
    rfl
  view_line _ _ := rfl

end DiagnosticMarkers
