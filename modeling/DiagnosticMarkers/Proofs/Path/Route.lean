import DiagnosticMarkers.Path.Filter
import DiagnosticMarkers.Proofs.Text.Case
import Mathlib.Data.List.Induction

/-!
# Routes

Whatever its parts are, all that a path does to a stack of segments is to climb some times and
then to enter some names. Climbing takes back the names of the stack, as long as it has any. So
where a path leads to is told by its route and the stack alone, and paths with equal segments
have equal routes, with case or without it.
-/

namespace DiagnosticMarkers

open Text

namespace CaseMode

/-- A row of dots is its own normal form and that of nothing else. -/
theorem normalize_eq_dots_iff (mode : CaseMode) (n : Nat) (segment : Text) :
    mode.normalize segment = List.replicate n '.' ↔ segment = List.replicate n '.' := by
  cases mode with
  | sensitive => exact Iff.rfl
  | insensitive => exact foldCase_eq_dots_iff n segment

theorem mem_normalize_iff {mark : Char} (hmark : mark ∈ pathMarks) (mode : CaseMode)
    (segment : Text) : mark ∈ mode.normalize segment ↔ mark ∈ segment := by
  cases mode with
  | sensitive => exact Iff.rfl
  | insensitive => exact mem_foldCase_iff hmark segment

theorem normalize_normalize (mode : CaseMode) (segment : Text) :
    mode.normalize (mode.normalize segment) = mode.normalize segment := by
  cases mode with
  | sensitive => rfl
  | insensitive => exact foldCase_foldCase segment

end CaseMode

namespace Path

/-- The part names something in a directory. -/
structure IsName (part : Text) : Prop where
  ne_nil : part ≠ []
  ne_current : part ≠ current
  ne_parent : part ≠ parent

theorem normalize_eq_parent_iff (mode : CaseMode) (part : Text) :
    mode.normalize part = parent ↔ part = parent :=
  mode.normalize_eq_dots_iff 2 part

theorem isName_normalize_iff (mode : CaseMode) (part : Text) :
    IsName (mode.normalize part) ↔ IsName part := by
  have hnil : mode.normalize part = [] ↔ part = [] := mode.normalize_eq_dots_iff 0 part
  have hcurrent : mode.normalize part = current ↔ part = current :=
    mode.normalize_eq_dots_iff 1 part
  have hparent := normalize_eq_parent_iff mode part
  constructor
  · exact fun h => ⟨hnil.not.mp h.ne_nil, hcurrent.not.mp h.ne_current, hparent.not.mp h.ne_parent⟩
  · exact fun h =>
      ⟨hnil.not.mpr h.ne_nil, hcurrent.not.mpr h.ne_current, hparent.not.mpr h.ne_parent⟩

/-! ## One part -/

variable {part top : Text} {stack below : List Text}

theorem part_cases (part : Text) :
    (part = [] ∨ part = current) ∨ part = parent ∨ IsName part := by
  by_cases hskipped : part = [] ∨ part = current
  · exact .inl hskipped
  · by_cases hparent : part = parent
    · exact .inr (.inl hparent)
    · obtain ⟨hnil, hcurrent⟩ := not_or.mp hskipped
      exact .inr (.inr ⟨hnil, hcurrent, hparent⟩)

theorem pushSegment_of_skipped (h : part = [] ∨ part = current) :
    pushSegment stack part = stack := by
  rcases h with rfl | rfl
  · rfl
  · rfl

theorem pushSegment_of_isName (h : IsName part) : pushSegment stack part = part :: stack := by
  simp [pushSegment, h.ne_nil, h.ne_current, h.ne_parent]

theorem pushSegment_parent_nil : pushSegment [] parent = [parent] := rfl

theorem pushSegment_parent_cons (h : top ≠ parent) : pushSegment (top :: below) parent = below := by
  show (if top = parent then parent :: top :: below else below) = below
  rw [if_neg h]

theorem pushSegment_parent_parent :
    pushSegment (parent :: below) parent = parent :: parent :: below := rfl

/-! ## Climbing -/

/-- Climb to the parent directory so many times. -/
def climb : Nat → List Text → List Text
  | 0, stack => stack
  | n + 1, stack => pushSegment (climb n stack) parent

/-- With nothing to take back, climbing stays in the segments. -/
theorem climb_nil (n : Nat) : climb n [] = List.replicate n parent := by
  induction n with
  | zero => rfl
  | succ n ih =>
    rw [climb, ih]
    cases n with
    | zero => exact pushSegment_parent_nil
    | succ n => exact pushSegment_parent_parent

theorem foldl_replicate_parent (n : Nat) (stack : List Text) :
    (List.replicate n parent).foldl pushSegment stack = climb n stack := by
  induction n with
  | zero => rfl
  | succ n ih =>
    rw [List.replicate_succ', List.foldl_append, ih]
    rfl

/-- As long as there are names, climbing takes them back. -/
theorem climb_eq_drop (hstack : parent ∉ stack) {n : Nat} (hn : n ≤ stack.length) :
    climb n stack = stack.drop n := by
  induction n with
  | zero => rfl
  | succ n ih =>
    have hdrop := List.drop_eq_getElem_cons (Nat.lt_of_succ_le hn)
    have hname : stack[n] ≠ parent := fun h => hstack (h ▸ List.getElem_mem _)
    rw [climb, ih (Nat.le_of_succ_le hn), hdrop, pushSegment_parent_cons hname]

/-- Where climbing leaves no two dots behind, it has taken back names only. -/
theorem climb_eq_drop_of_notMem {n : Nat} (h : parent ∉ climb n stack) :
    n ≤ stack.length ∧ climb n stack = stack.drop n := by
  induction n with
  | zero => exact ⟨Nat.zero_le _, rfl⟩
  | succ n ih =>
    rw [climb] at h ⊢
    cases hclimbed : climb n stack with
    | nil =>
      rw [hclimbed, pushSegment_parent_nil] at h
      exact absurd List.mem_cons_self h
    | cons top below =>
      rw [hclimbed] at h ih
      by_cases htop : top = parent
      · subst htop
        rw [pushSegment_parent_parent] at h
        exact absurd List.mem_cons_self h
      · rw [pushSegment_parent_cons htop] at h ⊢
        have hparent : parent ∉ top :: below :=
          List.not_mem_cons_of_ne_of_not_mem (Ne.symm htop) h
        obtain ⟨-, hdrop⟩ := ih hparent
        have hlength := congrArg List.length hdrop
        rw [List.length_cons, List.length_drop] at hlength
        refine ⟨by omega, ?_⟩
        rw [← List.tail_drop, ← hdrop, List.tail_cons]

/-- Climbing is the same with case and without it. -/
theorem map_climb (mode : CaseMode) (n : Nat) (stack : List Text) :
    (climb n stack).map mode.normalize = climb n (stack.map mode.normalize) := by
  induction n with
  | zero => rfl
  | succ n ih =>
    have hself : mode.normalize parent = parent := (normalize_eq_parent_iff mode parent).mpr rfl
    rw [climb, climb, ← ih]
    cases hclimbed : climb n stack with
    | nil =>
      rw [pushSegment_parent_nil, List.map_nil, pushSegment_parent_nil, List.map_singleton, hself]
    | cons top below =>
      by_cases htop : top = parent
      · subst htop
        rw [pushSegment_parent_parent, List.map_cons, List.map_cons, hself,
          pushSegment_parent_parent]
      · have hfolded := (normalize_eq_parent_iff mode top).not.mpr htop
        rw [pushSegment_parent_cons htop, List.map_cons, pushSegment_parent_cons hfolded]

/-! ## Routes -/

/-- How often to climb, and then which names to enter, the last one first. -/
@[ext]
structure Route where
  climbs : Nat
  names : List Text
  isName : ∀ name ∈ names, IsName name

namespace Route

/-- Where the route leads to from a stack of segments. -/
def follow (route : Route) (stack : List Text) : List Text :=
  route.names ++ climb route.climbs stack

/-- The route with its names in the form in which they are compared. -/
def normalize (mode : CaseMode) (route : Route) : Route where
  climbs := route.climbs
  names := route.names.map mode.normalize
  isName := by
    intro name hname
    obtain ⟨given, hgiven, rfl⟩ := List.mem_map.mp hname
    exact (isName_normalize_iff mode given).mpr (route.isName given hgiven)

theorem map_follow (mode : CaseMode) (route : Route) (stack : List Text) :
    (route.follow stack).map mode.normalize =
      (route.normalize mode).follow (stack.map mode.normalize) := by
  rw [follow, List.map_append, map_climb]
  rfl

theorem parent_notMem_names (route : Route) : parent ∉ route.names :=
  fun h => (route.isName parent h).ne_parent rfl

/-- Without a start, the names stand in front of the first two dots. -/
theorem takeWhile_follow_nil (route : Route) :
    (route.follow []).takeWhile (· != parent) = route.names := by
  have hnames : ∀ name ∈ route.names, (name != parent) = true :=
    fun name hname => bne_iff_ne.mpr (route.isName name hname).ne_parent
  rw [follow, climb_nil, List.takeWhile_append_of_pos hnames, List.takeWhile_replicate]
  simp

/-- A route is known from where it leads to without a start. -/
theorem eq_of_follow_nil {route other : Route} (h : route.follow [] = other.follow []) :
    route = other := by
  have hnames : route.names = other.names := by
    rw [← route.takeWhile_follow_nil, h, other.takeWhile_follow_nil]
  rw [follow, follow, hnames, climb_nil, climb_nil, List.append_cancel_left_eq] at h
  have hclimbs := congrArg List.length h
  rw [List.length_replicate, List.length_replicate] at hclimbs
  exact Route.ext hclimbs hnames

/-- One more part makes a route of a route. -/
theorem exists_push (route : Route) (part : Text) :
    ∃ next : Route, ∀ stack, pushSegment (route.follow stack) part = next.follow stack := by
  rcases part_cases part with hskipped | rfl | hname
  · exact ⟨route, fun stack => pushSegment_of_skipped hskipped⟩
  · cases hnames : route.names with
    | nil =>
      refine ⟨⟨route.climbs + 1, [], by simp⟩, fun stack => ?_⟩
      rw [follow, hnames]
      rfl
    | cons top names =>
      have hisName : ∀ name ∈ top :: names, IsName name := hnames ▸ route.isName
      obtain ⟨htop, hbelow⟩ := List.forall_mem_cons.mp hisName
      refine ⟨⟨route.climbs, names, hbelow⟩, fun stack => ?_⟩
      rw [follow, hnames]
      exact pushSegment_parent_cons htop.ne_parent
  · refine ⟨⟨route.climbs, part :: route.names, List.forall_mem_cons.mpr ⟨hname, route.isName⟩⟩,
      fun stack => ?_⟩
    rw [pushSegment_of_isName hname]
    rfl

end Route

/-- All parts together are one route. -/
theorem exists_route (parts : List Text) :
    ∃ route : Route, ∀ stack, parts.foldl pushSegment stack = route.follow stack := by
  -- From the last part on: a part acts on what the parts before it have left.
  induction parts using List.reverseRecOn with
  | nil => exact ⟨⟨0, [], by simp⟩, fun stack => rfl⟩
  | append_singleton parts part ih =>
    obtain ⟨route, hroute⟩ := ih
    obtain ⟨next, hnext⟩ := route.exists_push part
    refine ⟨next, fun stack => ?_⟩
    rw [List.foldl_append, hroute, ← hnext]
    rfl

/-- Parts that lead to the same segments without a start lead to the same segments from every
start. -/
theorem foldl_pushSegment_congr (mode : CaseMode) {parts others stack start : List Text}
    (hparts : (parts.foldl pushSegment []).map mode.normalize =
      (others.foldl pushSegment []).map mode.normalize)
    (hstack : stack.map mode.normalize = start.map mode.normalize) :
    (parts.foldl pushSegment stack).map mode.normalize =
      (others.foldl pushSegment start).map mode.normalize := by
  obtain ⟨route, hroute⟩ := exists_route parts
  obtain ⟨other, hother⟩ := exists_route others
  have hsame : route.normalize mode = other.normalize mode := by
    rw [hroute, hother, Route.map_follow, Route.map_follow] at hparts
    exact Route.eq_of_follow_nil hparts
  calc (parts.foldl pushSegment stack).map mode.normalize
      = (route.normalize mode).follow (stack.map mode.normalize) := by
        rw [hroute, Route.map_follow]
    _ = (other.normalize mode).follow (start.map mode.normalize) := by rw [hsame, hstack]
    _ = (others.foldl pushSegment start).map mode.normalize := by
        rw [hother, Route.map_follow]

end Path

end DiagnosticMarkers
