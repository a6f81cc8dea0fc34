import TypedRoutes.Proofs.Matching.Propriety
import TypedRoutes.Proofs.Matching.Stopping

/-!
Contract: where a capture ends that is closed by fixed text.

Groups may stand between the capture and the fixed text at its level. The first fixed text of each
group and the fixed text behind them are what can end the capture, and the leftmost occurrence from
its last segment on decides: the capture ends there if its text can be captured, and else it takes
nothing. No later occurrence is tried.

Owns: occurrences of texts, closing texts, leftmost ends, and the law for closed captures.
-/

set_option autoImplicit false

namespace TypedRoutes.Matching

open TypedRoutes.Text TypedRoutes.Pattern TypedRoutes.Program

/-! ## Occurrences -/

/-- A text occurs at a place of a route, wholly inside it. With `fold` both are compared in lower
case. -/
def Occurs (fold : Bool) (route : Text) (place : Nat) (text : Text) : Prop :=
  place + text.length ≤ route.length ∧
    if fold then lowercase (route.extract place (place + text.length)) = lowercase text
    else route.extract place (place + text.length) = text

/-- At a place of a route that text occurs which stands at the start of what is left there. -/
theorem occursAt_drop_iff {fold : Bool} {route text : Text} {place : Nat}
    (within : place ≤ route.length) :
    occursAt fold (route.drop place) text = true ↔ Occurs fold route place text := by
  have bound : text.length ≤ (route.drop place).length ↔ place + text.length ≤ route.length := by
    rw [List.length_drop]
    omega
  unfold Occurs occursAt
  rw [extract_add, ← bound]
  cases fold with
  | true => simp
  | false =>
    simp only [Bool.false_eq_true, if_false]
    rw [List.isPrefixOf_iff_prefix, List.prefix_iff_eq_take, eq_comm]
    refine (and_iff_right_of_imp fun same => ?_).symm
    rw [← same]
    exact List.length_take_le' _ _

/-! ## Closing texts -/

/-- The fixed texts of a program in order, those in groups included. -/
def fixedTexts (program : Program) : List Text :=
  program.flatten.filterMap fun
    | .fixed text => some text
    | _ => none

/-- Groups, fixed text behind them, and more behind it. -/
def closedBy (groups : List Program) (text : Text) (behind : Program) : Program :=
  groups.foldr .group (.item (.fixed text) behind)

/-- The first fixed texts of the groups that have any, and the fixed text behind the groups. -/
def closingTexts (groups : List Program) (text : Text) : List Text :=
  groups.filterMap (fun group => (fixedTexts group).head?) ++ [text]

theorem firstFixed?_eq_head? (program : Program) :
    Program.firstFixed? program = (fixedTexts program).head? := by
  unfold fixedTexts
  induction program with
  | nil => rfl
  | item instruction rest inductionHypothesis =>
    cases instruction with
    | fixed text => rfl
    | capture block => exact inductionHypothesis
    | stop => exact inductionHypothesis
  | group inner rest innerHypothesis inductionHypothesis =>
    rw [Program.firstFixed?, innerHypothesis, inductionHypothesis, Grouped.flatten, List.filterMap_append,
      List.head?_append]
    cases (List.filterMap _ inner.flatten).head? <;> rfl

/-- The stops of a capture that is closed by fixed text are its closing texts. -/
theorem stops_closedBy (groups : List Program) (text : Text) (behind : Program) :
    stops (closedBy groups text behind) = ⟨closingTexts groups text, false⟩ := by
  induction groups with
  | nil => rfl
  | cons group others inductionHypothesis =>
    unfold closedBy closingTexts at inductionHypothesis ⊢
    rw [List.foldr_cons, stops, inductionHypothesis, firstFixed?_eq_head?, List.filterMap_cons]
    cases (fixedTexts group).head? <;> rfl

/-! ## Ends -/

/-- The last segment of a capture that begins at one place begins at another one: all segments but
the last stand in between, each with a slash behind it. -/
def LastBegins (block : Capture) (route : Text) (start first : Nat) : Prop :=
  ∃ leading : List Text,
    leading.length = (block.segments - 1).toNat ∧ (∀ segment ∈ leading, IsSegment segment) ∧
      leading.flatMap (· ++ ['/']) <+: route.drop start ∧
        first = start + (leading.flatMap (· ++ ['/'])).length

/-- A segment from one place to another one ends where one of some texts occurs, and where none of
them has occurred before. There are characters in it, and all of them can be captured. -/
structure IsLeftmostEnd (fold many : Bool) (texts : List Text) (route : Text) (first final : Nat) :
    Prop where
  here : ∃ text ∈ texts, Occurs fold route final text
  leftmost : ∀ place, first ≤ place → place < final → ∀ text ∈ texts, ¬ Occurs fold route place text
  nonempty : first < final
  inside : ∀ c ∈ route.extract first final, isCaptureChar many c = true

/-- The last segment of a closed capture is as long as it is to its leftmost end. -/
theorem segmentLength?_ofPlace_iff {fold many : Bool} {texts : List Text} {route : Text}
    {first length : Nat} :
    segmentLength? fold many ⟨texts, false⟩ (Cursor.ofPlace route first) = some length ↔
      IsLeftmostEnd fold many texts route first (first + length) := by
  have occurs {steps : Nat} (within : first + steps ≤ route.length) :
      texts.any (occursAt fold ((route.drop first).drop steps)) = true ↔
        ∃ text ∈ texts, Occurs fold route (first + steps) text := by
    rw [List.drop_drop, List.any_eq_true]
    exact exists_congr fun text => and_congr_right fun _ => occursAt_drop_iff within
  rw [segmentLength?_closed_iff, le_runLength_iff, firstStop?, firstTail?_eq_some_iff]
  change IsLeftmost _ (route.drop first) length ∧ 0 < length ∧
    length ≤ (route.drop first).length ∧ (∀ c ∈ (route.drop first).take length, _) ↔ _
  rw [← extract_add, List.length_drop]
  constructor
  · rintro ⟨leftmost, positive, bounded, inside⟩
    refine ⟨(occurs (by omega)).1 leftmost.here, ?_, by omega, inside⟩
    intro place behind before text member found
    obtain ⟨steps, rfl⟩ := Nat.exists_eq_add_of_le behind
    have missed := leftmost.first steps (by omega)
    rw [(occurs (by omega)).2 ⟨text, member, found⟩] at missed
    cases missed
  · intro ends
    obtain ⟨text, member, found⟩ := ends.here
    have within : first + length ≤ route.length := Nat.le_trans (Nat.le_add_right _ _) found.1
    have positive : 0 < length := by
      have nonempty := ends.nonempty
      omega
    refine ⟨⟨?_, ?_, ?_⟩, positive, by omega, ends.inside⟩
    · rw [List.length_drop]
      omega
    · exact (occurs within).2 ⟨text, member, found⟩
    · intro earlier below
      rw [Bool.eq_false_iff]
      intro before
      obtain ⟨other, among, here⟩ := (occurs (by omega)).1 before
      exact ends.leftmost (first + earlier) (by omega) (by omega) other among here

/-! ## Captures -/

/-- Behind segments that stand at a place of a route there is another place of it. -/
theorem ofPlace_behind {route ahead rest : Text} {start : Nat}
    (split : route.drop start = ahead ++ rest) :
    { Cursor.ofPlace route start with rest } = Cursor.ofPlace route (start + ahead.length) := by
  have lengths := congrArg List.length split
  rw [List.length_drop, List.length_append] at lengths
  have behind : route.drop (start + ahead.length) = rest := by
    rw [← List.drop_drop, split, List.drop_left]
  dsimp only [Cursor.ofPlace]
  rw [behind]
  congr 1
  omega

/-- A capture takes all of a route from where it begins to where its last segment ends. -/
theorem capture?_ofPlace_iff {fold : Bool} {block : Capture} {stops : Stops} {route value : Text}
    {start : Nat} {next : Cursor} :
    capture? fold block stops (Cursor.ofPlace route start) = some (value, next) ↔
      ∃ first length,
        LastBegins block route start first ∧
          segmentLength? fold block.isMany stops (Cursor.ofPlace route first) = some length ∧
            isAllowed fold block.allowed (route.extract start (first + length)) = true ∧
              value = route.extract start (first + length) ∧
                next = Cursor.ofPlace route (first + length) := by
  have taken {ahead rest : Text} (split : route.drop start = ahead ++ rest) (length : Nat) :
      ahead ++ rest.take length = route.extract start (start + ahead.length + length) := by
    rw [Nat.add_assoc, extract_add, split, List.take_length_add_append]
  have reached {ahead rest : Text} {length : Nat}
      (split : route.drop start = ahead ++ rest)
      (measured : segmentLength? fold block.isMany stops
        (Cursor.ofPlace route (start + ahead.length)) = some length) :
      { Cursor.ofPlace route start with rest := rest.drop length } =
        Cursor.ofPlace route (start + ahead.length + length) := by
    rw [← ofPlace_behind split] at measured
    have bounded : length ≤ rest.length :=
      (le_runLength_iff.1 (length_of_segmentLength? measured).1).1
    have further : route.drop start = (ahead ++ rest.take length) ++ rest.drop length := by
      rw [List.append_assoc, List.take_append_drop, split]
    rw [ofPlace_behind further, List.length_append, List.length_take_of_le bounded, Nat.add_assoc]
  rw [capture?_eq_some_iff]
  constructor
  · rintro ⟨leading, rest, length, led, measured, rfl, allowed, rfl⟩
    obtain ⟨split, count, solid⟩ := eq_of_leadingSegments? led
    have split : route.drop start = leading.flatMap (· ++ ['/']) ++ rest := split
    rw [ofPlace_behind split] at measured
    rw [join_append_singleton, taken split] at allowed ⊢
    refine ⟨_, length, ⟨leading, count, ?_, ⟨rest, split.symm⟩, rfl⟩, measured, allowed, rfl,
      reached split measured⟩
    exact fun segment member => isSegment_iff.2 (solid segment member)
  · rintro ⟨_, length, ⟨leading, count, solid, ⟨rest, split⟩, rfl⟩, measured, allowed, rfl, rfl⟩
    have led : leadingSegments? (block.segments - 1).toNat (Cursor.ofPlace route start).rest =
        some (leading, rest) := by
      change leadingSegments? _ (route.drop start) = _
      rw [← split, ← count]
      exact leadingSegments?_eq_some (fun segment member => isSegment_iff.1 (solid segment member)) _
    rw [← taken split.symm, ← join_append_singleton] at allowed ⊢
    refine ⟨leading, rest, length, led, ?_, rfl, allowed, (reached split.symm measured).symm⟩
    rw [ofPlace_behind split.symm]
    exact measured

/-- A closed capture ends at its leftmost end or takes nothing. Whatever groups are behind a capture
and whatever fixed text is behind them, whatever the route, the place and the way to compare: the
capture takes text exactly if all its segments but the last are there, and the leftmost place from
its last segment on where a closing text occurs is behind text that can be captured and, with those
segments, is allowed. It then takes all of the route up to that place. -/
theorem capture?_closedBy_iff {fold : Bool} {block : Capture} {groups : List Program} {text : Text}
    {behind : Program} {route value : Text} {start : Nat} {next : Cursor} :
    capture? fold block (stops (closedBy groups text behind)) (Cursor.ofPlace route start) =
        some (value, next) ↔
      ∃ first final,
        LastBegins block route start first ∧
          IsLeftmostEnd fold block.isMany (closingTexts groups text) route first final ∧
            isAllowed fold block.allowed (route.extract start final) = true ∧
              value = route.extract start final ∧ next = Cursor.ofPlace route final := by
  rw [stops_closedBy, capture?_ofPlace_iff]
  refine exists_congr fun first => ?_
  constructor
  · rintro ⟨length, begins, measured, taken⟩
    exact ⟨first + length, begins, segmentLength?_ofPlace_iff.1 measured, taken⟩
  · rintro ⟨final, begins, ends, taken⟩
    obtain ⟨length, rfl⟩ := Nat.exists_eq_add_of_le ends.nonempty.le
    exact ⟨length, begins, segmentLength?_ofPlace_iff.2 ends, taken⟩

/-- A later occurrence would leave text in front of it, and is not tried. -/
example :
    capture? false ⟨.one, none, none⟩ (stops (closedBy [] ['b'] .nil))
      (Cursor.ofPlace "bab".toList 0) = none := by
  decide

end TypedRoutes.Matching
