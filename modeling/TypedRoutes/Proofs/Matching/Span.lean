import TypedRoutes.Proofs.Matching.Propriety

/-!
Contract: a run is told by places of its route.

For each capture the name and the places between which its text stands, and the place where the run
ends: from these spans and the route, the entries of the run and its last cursor are read off. The
place can lie behind the end of the route. A match of the start of a route does not look at that; a
match of the whole route is one that ends at its end.

Owns: spans, and what they tell of runs and matches.
-/

set_option autoImplicit false

namespace TypedRoutes.Matching

open TypedRoutes.Text TypedRoutes.Pattern TypedRoutes.Program

def Cursor.placeIn (route : Text) (cursor : Cursor) : Nat :=
  route.length - cursor.rest.length + cursor.past

theorem placeIn_ofPlace (route : Text) (place : Nat) :
    (Cursor.ofPlace route place).placeIn route = place := by
  unfold Cursor.placeIn Cursor.ofPlace
  dsimp only
  rw [List.length_drop]
  omega

/-- The name of a capture, and the places between which its text stands. -/
structure Span where
  name : Option Text
  start : Nat
  final : Nat
deriving DecidableEq, Repr

/-- The entry of what stands in a span of a route. -/
def Span.entry (route : Text) (span : Span) : Entry :=
  ⟨span.name, route.extract span.start span.final⟩

def Taking.span (route : Text) (taking : Taking) : Span :=
  let start := taking.start.placeIn route
  ⟨taking.block.name, start, start + taking.text.length⟩

/-- The spans of the captures in a run from the start of a route, and the place where it ends. -/
def spans? (fold : Bool) (program : Program) (route : Text) : Option (List Span × Nat) :=
  (record fold program { rest := route }).map fun (takings, last) =>
    (takings.map (·.span route), last.placeIn route)

/-- The spans of a run tell all of it. -/
theorem run_eq_map_spans? (fold : Bool) (program : Program) (route : Text) :
    run fold program { rest := route } =
      (spans? fold program route).map fun (spans, final) =>
        (spans.map (·.entry route), Cursor.ofPlace route final) := by
  unfold spans?
  rw [run_eq_map_record, Option.map_map]
  cases recorded : record fold program { rest := route } with
  | none => rfl
  | some result =>
    obtain ⟨takings, last⟩ := result
    rw [← ofPlace_zero] at recorded
    obtain ⟨⟨final, rfl⟩, taken⟩ := exists_places_of_record recorded
    have entries : takings.map (·.entry) = takings.map fun taking =>
        (taking.span route).entry route := by
      refine List.map_congr_left fun taking member => ?_
      obtain ⟨start, stops, next, began, captured⟩ := taken taking member
      obtain ⟨block, _, text⟩ := taking
      obtain rfl : _ = Cursor.ofPlace route start := began
      have split : route.drop start = text ++ next.rest := (segments_of_capture? captured).1
      have stretch : route.extract start (start + text.length) = text := by
        rw [extract_add, split, List.take_left]
      dsimp only [Taking.entry, Taking.span, Span.entry]
      rw [placeIn_ofPlace, stretch]
    simp only [Option.map_some, Function.comp_apply, List.map_map, placeIn_ofPlace, entries]
    rfl

namespace Matcher

variable {matcher : Matcher} {route : Text}

/-- The spans of a run of a matcher from the start of a route, and the place where it ends. -/
def spans? (matcher : Matcher) (route : Text) : Option (List Span × Nat) :=
  Matching.spans? matcher.settings.caseInsensitive matcher.program route

def wholeSpans? (matcher : Matcher) (route : Text) : Option (List Span) :=
  ((matcher.spans? route).filter fun (_, final) =>
    !matcher.settings.complete || final = route.length).map (·.1)

/-- Spans tell all that a matcher makes of a route. -/
structure IsToldBy (matcher : Matcher) (route : Text) (outcome : Option (List Span × Nat))
    (whole : Option (List Span)) :
    Prop where
  spans : matcher.spans? route = outcome
  start :
    matcher.start route = outcome.map fun (spans, final) =>
      (spans.map (·.entry route), Cursor.ofPlace route final)
  part :
    matcher.matchStart? route = outcome.map fun (spans, final) =>
      (⟨spans.map (·.entry route)⟩, route.drop final)
  whole : matcher.match? route = whole.map fun spans => ⟨spans.map (·.entry route)⟩

theorem start_eq_map_spans? (matcher : Matcher) (route : Text) :
    matcher.start route = (matcher.spans? route).map fun (spans, final) =>
      (spans.map (·.entry route), Cursor.ofPlace route final) :=
  run_eq_map_spans? _ _ _

theorem matchStart?_eq_map_spans? (matcher : Matcher) (route : Text) :
    matcher.matchStart? route = (matcher.spans? route).map fun (spans, final) =>
      (⟨spans.map (·.entry route)⟩, route.drop final) := by
  rw [matchStart?, start_eq_map_spans?, Option.map_map]
  rfl

theorem match?_eq_map_wholeSpans? (matcher : Matcher) (route : Text) :
    matcher.match? route = (matcher.wholeSpans? route).map fun spans =>
      ⟨spans.map (·.entry route)⟩ := by
  unfold match? verdict wholeSpans?
  rw [start_eq_map_spans?]
  cases matcher.spans? route with
  | none => rfl
  | some outcome =>
    obtain ⟨spans, final⟩ := outcome
    have ended : (Cursor.ofPlace route final).atEnd = decide (final = route.length) := by
      rw [Bool.eq_iff_iff, atEnd_ofPlace_iff, decide_eq_true_eq]
    dsimp only [Option.map_some]
    rw [ended]
    cases matcher.settings.complete <;> by_cases last : final = route.length <;>
      simp [Option.filter, last]

theorem isToldBy_spans? (matcher : Matcher) (route : Text) :
    matcher.IsToldBy route (matcher.spans? route) (matcher.wholeSpans? route) where
  spans := rfl
  start := matcher.start_eq_map_spans? route
  part := matcher.matchStart?_eq_map_spans? route
  whole := matcher.match?_eq_map_wholeSpans? route

end Matcher

end TypedRoutes.Matching
