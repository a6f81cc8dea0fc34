import TypedRoutes.Proofs.Matching.Span
import TypedRoutes.Proofs.Text.Lowercase

/-!
Contract: without regard to case, the case of ASCII letters is not seen.

Lower-case forms, the characters that captures may hold and the places of a route do not depend on
the case of ASCII letters, be it in the route or in the texts of a program. So a run on the route with
these letters in lower case is the run in lower case, and two runs whose routes and programs differ
in the case of such letters only are told by the same spans.

Owns: programs and runs with ASCII letters in lower case, and the agreement of two matchers.
-/

set_option autoImplicit false

namespace TypedRoutes.Matching

open TypedRoutes.Text TypedRoutes.Pattern TypedRoutes.Program

/-! ## Programs with ASCII letters in lower case -/

/-- The capture with the ASCII letters of the texts it allows in lower case. -/
def lowerCapture (block : Capture) : Capture :=
  { block with allowed := block.allowed.map (·.map lowerLetters) }

/-- The program with the ASCII letters of its fixed and allowed texts in lower case. -/
def lowerProgram : Program → Program
  | .nil => .nil
  | .item (.fixed text) rest => .item (.fixed (lowerLetters text)) (lowerProgram rest)
  | .item (.capture block) rest => .item (.capture (lowerCapture block)) (lowerProgram rest)
  | .item .stop rest => .item .stop (lowerProgram rest)
  | .group inner rest => .group (lowerProgram inner) (lowerProgram rest)

/-- The cursor in the route with ASCII letters in lower case. -/
def lowerCursor (cursor : Cursor) : Cursor :=
  { cursor with rest := lowerLetters cursor.rest }

/-- The taking of the capture in the route, both with ASCII letters in lower case. -/
def lowerTaking (taking : Taking) : Taking :=
  ⟨lowerCapture taking.block, lowerCursor taking.start, lowerLetters taking.text⟩

@[simp] theorem length_lowerLetters (text : Text) : (lowerLetters text).length = text.length :=
  List.length_map _

theorem lowerLetters_append (first second : Text) :
    lowerLetters (first ++ second) = lowerLetters first ++ lowerLetters second :=
  List.map_append

theorem lowerLetters_take (length : Nat) (text : Text) :
    (lowerLetters text).take length = lowerLetters (text.take length) :=
  List.map_take.symm

theorem lowerLetters_drop (length : Nat) (text : Text) :
    (lowerLetters text).drop length = lowerLetters (text.drop length) :=
  List.map_drop.symm

theorem lowerLetters_join (separator : Text) (parts : List Text) :
    lowerLetters (join separator parts) =
      join (lowerLetters separator) (parts.map lowerLetters) := by
  induction parts with
  | nil => rfl
  | cons part rest inductionHypothesis =>
    cases rest with
    | nil => rfl
    | cons second others =>
      rw [join, lowerLetters_append, lowerLetters_append, inductionHypothesis]
      · rfl
      · simp

theorem atEnd_lowerCursor (cursor : Cursor) : (lowerCursor cursor).atEnd = cursor.atEnd := by
  unfold Cursor.atEnd lowerCursor lowerLetters
  rw [List.isEmpty_map]

/-! ## Instructions -/

theorem skip?_lowerCursor (text : Text) (cursor : Cursor) :
    (lowerCursor cursor).skip? true (lowerLetters text) =
      (cursor.skip? true text).map lowerCursor := by
  unfold Cursor.skip? lowerCursor
  simp only [if_true, length_lowerLetters, lowerLetters_take, lowerLetters_drop,
    lowercase_lowerLetters]
  split <;> rfl

theorem isCaptureChar_toLower (many : Bool) (c : Char) :
    isCaptureChar many c.toLower = isCaptureChar many c := by
  cases many <;> exact eq_of_toLower (by decide) c

theorem takeWhile_lowerLetters (many : Bool) (text : Text) :
    (lowerLetters text).takeWhile (isCaptureChar many) =
      lowerLetters (text.takeWhile (isCaptureChar many)) := by
  unfold lowerLetters
  rw [List.takeWhile_map]
  congr 2
  funext c
  exact isCaptureChar_toLower many c

theorem dropWhile_lowerLetters (many : Bool) (text : Text) :
    (lowerLetters text).dropWhile (isCaptureChar many) =
      lowerLetters (text.dropWhile (isCaptureChar many)) := by
  unfold lowerLetters
  rw [List.dropWhile_map]
  congr 2
  funext c
  exact isCaptureChar_toLower many c

theorem firstFixed?_lowerProgram (program : Program) :
    Program.firstFixed? (lowerProgram program) =
      (Program.firstFixed? program).map lowerLetters := by
  induction program with
  | nil => rfl
  | item instruction rest inductionHypothesis =>
    cases instruction with
    | fixed text => rfl
    | capture block => exact inductionHypothesis
    | stop => exact inductionHypothesis
  | group inner rest innerHypothesis inductionHypothesis =>
    rw [lowerProgram, Program.firstFixed?, Program.firstFixed?, innerHypothesis,
      inductionHypothesis]
    cases Program.firstFixed? inner <;> rfl

theorem stops_lowerProgram (program : Program) :
    stops (lowerProgram program) =
      ⟨(stops program).texts.map lowerLetters, (stops program).isOpen⟩ := by
  induction program with
  | nil => rfl
  | item instruction rest => cases instruction <;> rfl
  | group inner rest _ inductionHypothesis =>
    rw [lowerProgram, stops, stops, inductionHypothesis, firstFixed?_lowerProgram]
    cases Program.firstFixed? inner <;> rfl

theorem occursAt_lowerLetters (rest text : Text) :
    occursAt true (lowerLetters rest) (lowerLetters text) = occursAt true rest text := by
  simp only [occursAt, if_true, length_lowerLetters, lowerLetters_take, lowercase_lowerLetters]

theorem firstStop?_lowerLetters (texts : List Text) (rest : Text) :
    firstStop? true (texts.map lowerLetters) (lowerLetters rest) =
      firstStop? true texts rest := by
  have occurs (tail : Text) :
      (texts.map lowerLetters).any (occursAt true (lowerLetters tail)) =
        texts.any (occursAt true tail) := by
    rw [List.any_map]
    congr 1
    funext text
    exact occursAt_lowerLetters tail text
  unfold firstStop?
  induction rest with
  | nil =>
    have here := occurs []
    change (texts.map lowerLetters).any (occursAt true []) = _ at here
    change firstTail? _ [] = _
    rw [firstTail?, firstTail?, here]
  | cons c rest inductionHypothesis =>
    have here := occurs (c :: rest)
    change (texts.map lowerLetters).any (occursAt true (c.toLower :: lowerLetters rest)) = _ at here
    change firstTail? _ (c.toLower :: lowerLetters rest) = _
    rw [firstTail?, firstTail?, here, inductionHypothesis]

theorem segmentLength?_lowerCursor (many : Bool) (stops : Stops) (cursor : Cursor) :
    segmentLength? true many ⟨stops.texts.map lowerLetters, stops.isOpen⟩ (lowerCursor cursor) =
      segmentLength? true many stops cursor := by
  have longest : runLength many (lowerCursor cursor).rest = runLength many cursor.rest := by
    unfold runLength lowerCursor
    rw [takeWhile_lowerLetters, length_lowerLetters]
  have found : firstStop? true (stops.texts.map lowerLetters) (lowerCursor cursor).rest =
      firstStop? true stops.texts cursor.rest :=
    firstStop?_lowerLetters stops.texts cursor.rest
  unfold segmentLength?
  dsimp only
  rw [longest, found, atEnd_lowerCursor]

/-- A segment is followed by more of them only where a slash is behind it. -/
theorem leadingSegments?_succ_eq {rest after : Text}
    (dropped : rest.dropWhile (isCaptureChar false) = '/' :: after) (count : Nat) :
    leadingSegments? (count + 1) rest =
      if (rest.takeWhile (isCaptureChar false)).isEmpty then none
      else (leadingSegments? count after).map fun (segments, left) =>
        (rest.takeWhile (isCaptureChar false) :: segments, left) := by
  rw [leadingSegments?, dropped]
  rfl

theorem leadingSegments?_succ_eq_none {rest : Text}
    (missed : ∀ after, rest.dropWhile (isCaptureChar false) ≠ '/' :: after) (count : Nat) :
    leadingSegments? (count + 1) rest = none := by
  unfold leadingSegments?
  dsimp only
  split
  · rename_i after dropped
    exact absurd dropped (missed after)
  · rfl

theorem leadingSegments?_lowerLetters (count : Nat) (rest : Text) :
    leadingSegments? count (lowerLetters rest) =
      (leadingSegments? count rest).map fun (segments, left) =>
        (segments.map lowerLetters, lowerLetters left) := by
  induction count generalizing rest with
  | zero => rfl
  | succ count inductionHypothesis =>
    have behind := dropWhile_lowerLetters false rest
    by_cases slashed : ∃ after, rest.dropWhile (isCaptureChar false) = '/' :: after
    · obtain ⟨after, dropped⟩ := slashed
      have lowered : (lowerLetters rest).dropWhile (isCaptureChar false) =
          '/' :: lowerLetters after := by
        rw [behind, dropped]
        rfl
      have empty : (lowerLetters (rest.takeWhile (isCaptureChar false))).isEmpty =
          (rest.takeWhile (isCaptureChar false)).isEmpty := List.isEmpty_map
      rw [leadingSegments?_succ_eq lowered, leadingSegments?_succ_eq dropped,
        takeWhile_lowerLetters, empty, inductionHypothesis after]
      split
      · rfl
      · rw [Option.map_map, Option.map_map]
        rfl
    · rw [not_exists] at slashed
      rw [leadingSegments?_succ_eq_none slashed, leadingSegments?_succ_eq_none]
      · rfl
      · intro after dropped
        rw [behind] at dropped
        obtain ⟨c, others, whole, same, _⟩ := List.map_eq_cons_iff.1 dropped
        have slash : c = '/' := (decide_eq_decide.1
          (eq_of_toLower (f := fun c => decide (c = '/')) (by decide) c)).1 same
        subst slash
        exact slashed others whole

theorem isAllowed_lowerLetters (allowed : Option (List Text)) (text : Text) :
    isAllowed true (allowed.map (·.map lowerLetters)) (lowerLetters text) =
      isAllowed true allowed text := by
  cases allowed with
  | none => rfl
  | some texts =>
    simp only [Option.map_some, isAllowed, if_true, List.any_map, Function.comp_def,
      lowercase_lowerLetters]

theorem capture?_lowerCursor (block : Capture) (stops : Stops) (cursor : Cursor) :
    capture? true (lowerCapture block) ⟨stops.texts.map lowerLetters, stops.isOpen⟩
        (lowerCursor cursor) =
      (capture? true block stops cursor).map fun (text, next) =>
        (lowerLetters text, lowerCursor next) := by
  have led : leadingSegments? ((lowerCapture block).segments - 1).toNat (lowerCursor cursor).rest =
      (leadingSegments? (block.segments - 1).toNat cursor.rest).map fun (segments, rest) =>
        (segments.map lowerLetters, lowerLetters rest) :=
    leadingSegments?_lowerLetters (block.segments - 1).toNat cursor.rest
  unfold capture?
  rw [led]
  cases leadingSegments? (block.segments - 1).toNat cursor.rest with
  | none => rfl
  | some found =>
    obtain ⟨segments, rest⟩ := found
    have measured : segmentLength? true (lowerCapture block).isMany
          ⟨stops.texts.map lowerLetters, stops.isOpen⟩
          { lowerCursor cursor with rest := lowerLetters rest } =
        segmentLength? true block.isMany stops { cursor with rest } :=
      segmentLength?_lowerCursor block.isMany stops { cursor with rest }
    dsimp only [Option.map_some]
    rw [measured]
    cases segmentLength? true block.isMany stops { cursor with rest } with
    | none => rfl
    | some length =>
      have joined : join ['/'] (segments.map lowerLetters ++ [(lowerLetters rest).take length]) =
          lowerLetters (join ['/'] (segments ++ [rest.take length])) := by
        rw [lowerLetters_join, List.map_append, lowerLetters_take]
        rfl
      have allowed : isAllowed true (lowerCapture block).allowed
            (lowerLetters (join ['/'] (segments ++ [rest.take length]))) =
          isAllowed true block.allowed (join ['/'] (segments ++ [rest.take length])) :=
        isAllowed_lowerLetters block.allowed _
      dsimp only
      rw [joined, allowed, lowerLetters_drop]
      split <;> rfl

/-! ## Runs -/

/-- A run on a lowered route with a lowered program is the lowered run. -/
theorem record_lowerProgram (program : Program) (cursor : Cursor) :
    record true (lowerProgram program) (lowerCursor cursor) =
      (record true program cursor).map fun (takings, last) =>
        (takings.map lowerTaking, lowerCursor last) := by
  induction program generalizing cursor with
  | nil => rfl
  | item instruction rest inductionHypothesis =>
    cases instruction with
    | fixed text =>
      rw [lowerProgram, record, record, skip?_lowerCursor]
      cases cursor.skip? true text with
      | none => rfl
      | some next => exact inductionHypothesis next
    | capture block =>
      rw [lowerProgram, record, record, stops_lowerProgram, capture?_lowerCursor]
      cases capture? true block (stops rest) cursor with
      | none => rfl
      | some captured =>
        obtain ⟨text, next⟩ := captured
        dsimp only [Option.map_some]
        rw [inductionHypothesis next, Option.map_map, Option.map_map]
        rfl
    | stop =>
      rw [lowerProgram, record, record, atEnd_lowerCursor]
      split
      · exact inductionHypothesis cursor
      · rfl
  | group inner rest innerHypothesis inductionHypothesis =>
    rw [lowerProgram, record, record, innerHypothesis cursor]
    cases record true inner cursor with
    | none => exact inductionHypothesis cursor
    | some within =>
      obtain ⟨takings, next⟩ := within
      dsimp only [Option.map_some]
      rw [inductionHypothesis next, Option.map_map, Option.map_map]
      congr 1
      funext later
      simp

/-! ## Spans -/

theorem placeIn_lowerCursor (route : Text) (cursor : Cursor) :
    (lowerCursor cursor).placeIn (lowerLetters route) = cursor.placeIn route := by
  simp [Cursor.placeIn, lowerCursor]

/-- The case of ASCII letters does not show in the spans of a run. -/
theorem spans?_lowerProgram (program : Program) (route : Text) :
    spans? true (lowerProgram program) (lowerLetters route) = spans? true program route := by
  have lowered := record_lowerProgram program { rest := route }
  have begun : lowerCursor { rest := route } = { rest := lowerLetters route } := rfl
  have spans (taking : Taking) :
      (lowerTaking taking).span (lowerLetters route) = taking.span route := by
    simp [Taking.span, lowerTaking, lowerCapture, placeIn_lowerCursor]
  unfold spans?
  rw [← begun, lowered, Option.map_map]
  congr 1
  funext result
  simp [placeIn_lowerCursor, spans]

namespace Matcher

/-- Without regard to case, the case of ASCII letters is not seen. Let two programs be the same but
for the case of ASCII letters in fixed and allowed texts, and two routes the same but for the case
of ASCII letters. Then both runs fail, or they end at the same place with the same spans, which hold
the captured texts of either route. So both matches of the start, and both of the whole route, fail
or capture the texts of the same spans. -/
theorem isToldBy_of_lowerLetters {first second : Matcher} {route other : Text}
    (insensitive : first.settings.caseInsensitive = true)
    (settings : second.settings = first.settings)
    (programs : lowerProgram first.program = lowerProgram second.program)
    (routes : lowerLetters route = lowerLetters other) :
    ∃ outcome whole, first.IsToldBy route outcome whole ∧ second.IsToldBy other outcome whole := by
  have spans : second.spans? other = first.spans? route := by
    unfold Matcher.spans?
    rw [settings, insensitive, ← spans?_lowerProgram, ← programs, ← routes, spans?_lowerProgram]
  have ends : other.length = route.length := by
    have lengths := congrArg List.length routes
    rw [length_lowerLetters, length_lowerLetters] at lengths
    exact lengths.symm
  have whole : second.wholeSpans? other = first.wholeSpans? route := by
    unfold wholeSpans?
    rw [spans, settings, ends]
  have told := second.isToldBy_spans? other
  rw [spans, whole] at told
  exact ⟨_, _, first.isToldBy_spans? route, told⟩

/-- The agreement at a final sigma behind an ASCII letter, an allowed text and a group. -/
theorem isToldBy_of_lowerLetters_sigma :
    let program (fixed allowed ending : String) : Program :=
      .item (.fixed fixed.toList)
        (.item (.capture ⟨.one, some "k".toList, some [allowed.toList]⟩)
          (.group (.item (.fixed ending.toList) .nil) .nil))
    let matcher (program : Program) : Matcher :=
      { text := [], pattern := .nil, program, settings := { caseInsensitive := true } }
    let first := matcher (program "/aΣ/" "Ωb" ".HTML")
    let second := matcher (program "/AΣ/" "ΩB" ".html")
    let route := "/Aς/ωB.Html".toList
    let other := "/aς/ωb.hTML".toList
    lowerProgram first.program = lowerProgram second.program ∧
      lowerLetters route = lowerLetters other ∧
        first.match? route = some ⟨[⟨some "k".toList, "ωB".toList⟩]⟩ ∧
          second.match? other = some ⟨[⟨some "k".toList, "ωb".toList⟩]⟩ ∧
            ∃ outcome whole,
              first.IsToldBy route outcome whole ∧ second.IsToldBy other outcome whole := by
  intro program matcher first second route other
  have programs : lowerProgram first.program = lowerProgram second.program := by
    decide
  have routes : lowerLetters route = lowerLetters other := by
    decide
  exact ⟨programs, routes, by decide +kernel, by decide +kernel,
    isToldBy_of_lowerLetters rfl rfl programs routes⟩

end Matcher

end TypedRoutes.Matching
