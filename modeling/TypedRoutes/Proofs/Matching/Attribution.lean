import TypedRoutes.Proofs.Mapping
import TypedRoutes.Proofs.Matching.Consumption

/-!
Contract: which captures the entries of a match come from.

An entry has the name of its capture and the text, but not the capture. A run can be told with the
captures kept, each with the cursor at which it began; this changes nothing in it. The captures
behind the entries are then all captures of the program but for those of some groups, which are left
out as a whole. So a match delivers what stands outside of groups, and nothing that its matcher does
not announce.

Owns: the record of a run, and that matches deliver what matchers announce. Does not own: the texts
that captures take.
-/

set_option autoImplicit false

namespace TypedRoutes.Matching

open TypedRoutes.Pattern TypedRoutes.Program

/-- A capture in a run, with the cursor at which it began and the text that it took. -/
structure Taking where
  block : Capture
  start : Cursor
  text : Text
deriving DecidableEq, Repr

def Taking.entry (taking : Taking) : Entry :=
  ⟨taking.block.name, taking.text⟩

/-- Runs a program and keeps the captures behind the entries. -/
def record (fold : Bool) : Program → Cursor → Option (List Taking × Cursor)
  | .nil, cursor => some ([], cursor)
  | .item (.fixed text) rest, cursor =>
    match cursor.skip? fold text with
    | none => none
    | some next => record fold rest next
  | .item (.capture block) rest, cursor =>
    match capture? fold block (stops rest) cursor with
    | none => none
    | some (text, next) =>
      (record fold rest next).map fun (takings, last) => (⟨block, cursor, text⟩ :: takings, last)
  | .item .stop rest, cursor => if cursor.atEnd then record fold rest cursor else none
  | .group inner rest, cursor =>
    match record fold inner cursor with
    | none => record fold rest cursor
    | some (takings, next) =>
      (record fold rest next).map fun (more, last) => (takings ++ more, last)

/-- A run is its record with only the entries kept. -/
theorem run_eq_map_record (fold : Bool) (program : Program) (cursor : Cursor) :
    run fold program cursor =
      (record fold program cursor).map fun (takings, last) => (takings.map (·.entry), last) := by
  induction program generalizing cursor with
  | nil => rfl
  | item instruction rest inductionHypothesis =>
    cases instruction with
    | fixed text =>
      rw [run, record]
      cases cursor.skip? fold text with
      | none => rfl
      | some next => exact inductionHypothesis next
    | capture block =>
      rw [run, record]
      cases capture? fold block (stops rest) cursor with
      | none => rfl
      | some captured =>
        obtain ⟨text, next⟩ := captured
        dsimp only
        rw [inductionHypothesis next, Option.map_map, Option.map_map]
        rfl
    | stop =>
      rw [run, record]
      split
      · exact inductionHypothesis cursor
      · rfl
  | group inner rest innerHypothesis inductionHypothesis =>
    rw [run, record, innerHypothesis cursor]
    cases record fold inner cursor with
    | none => exact inductionHypothesis cursor
    | some within =>
      obtain ⟨takings, next⟩ := within
      dsimp only [Option.map_some]
      rw [inductionHypothesis next, Option.map_map, Option.map_map]
      congr 1
      funext later
      simp

/-- The captures of a record are those on a way through the program. -/
theorem exists_way_of_record {fold : Bool} {program : Program} {cursor last : Cursor}
    {takings : List Taking} (recorded : record fold program cursor = some (takings, last)) :
    ∃ reached, IsWay program reached ∧
      takings.map (·.block) = reached.filterMap Instruction.capture? := by
  induction program generalizing cursor last takings with
  | nil =>
    cases recorded
    exact ⟨[], .nil, rfl⟩
  | item instruction rest inductionHypothesis =>
    cases instruction with
    | fixed text =>
      unfold record at recorded
      split at recorded
      · cases recorded
      · obtain ⟨reached, way, same⟩ := inductionHypothesis recorded
        exact ⟨_, .item way, same⟩
    | capture block =>
      unfold record at recorded
      split at recorded
      · cases recorded
      · obtain ⟨⟨others, _⟩, further, same⟩ := Option.map_eq_some_iff.1 recorded
        cases same
        obtain ⟨reached, way, blocks⟩ := inductionHypothesis further
        exact ⟨_, .item way, congrArg (List.cons block) blocks⟩
    | stop =>
      unfold record at recorded
      split at recorded
      · obtain ⟨reached, way, same⟩ := inductionHypothesis recorded
        exact ⟨_, .item way, same⟩
      · cases recorded
  | group inner rest innerHypothesis inductionHypothesis =>
    unfold record at recorded
    split at recorded
    · obtain ⟨reached, way, same⟩ := inductionHypothesis recorded
      exact ⟨_, .skipped way, same⟩
    · rename_i within
      obtain ⟨⟨others, _⟩, further, same⟩ := Option.map_eq_some_iff.1 recorded
      cases same
      obtain ⟨reached, way, blocks⟩ := innerHypothesis within
      obtain ⟨later, laterWay, laterBlocks⟩ := inductionHypothesis further
      refine ⟨_, .taken way laterWay, ?_⟩
      rw [List.map_append, List.filterMap_append, blocks, laterBlocks]

/-! ## Ways -/

theorem IsWay.topItems_sublist {program : Program} {reached : List Instruction}
    (way : IsWay program reached) :
    program.topItems.Sublist reached := by
  induction way with
  | nil => exact .slnil
  | item _ inductionHypothesis => exact inductionHypothesis.cons_cons _
  | taken _ _ _ inductionHypothesis => exact inductionHypothesis.trans (List.sublist_append_right _ _)
  | skipped _ inductionHypothesis => exact inductionHypothesis

theorem IsWay.sublist_flatten {program : Program} {reached : List Instruction}
    (way : IsWay program reached) :
    reached.Sublist program.flatten := by
  induction way with
  | nil => exact .slnil
  | item _ inductionHypothesis => exact inductionHypothesis.cons_cons _
  | taken _ _ withinHypothesis inductionHypothesis =>
    exact withinHypothesis.append inductionHypothesis
  | skipped _ inductionHypothesis =>
    exact inductionHypothesis.trans (List.sublist_append_right _ _)

/-! ## Names -/

theorem mem_sorted_names {blocks : List Capture} {name : Text} :
    name ∈ Text.sorted (blocks.filterMap (·.name)).eraseDups ↔
      ∃ block ∈ blocks, block.name = some name := by
  rw [Text.sorted, List.mem_mergeSort, List.mem_eraseDups, List.mem_filterMap]

theorem mem_named_iff {takings : List Taking} {name : Text} :
    name ∈ (Captures.named ⟨takings.map (·.entry)⟩).map (·.1) ↔
      ∃ block ∈ takings.map (·.block), block.name = some name := by
  rw [Captures.named, Mapping.mem_names_ofEntries]
  simp [Taking.entry]

namespace Matcher

variable {matcher : Matcher} {route : Text} {captures : Captures}

/-- A match of all that the settings ask for, or of a part at the start, has captured this. -/
def Captured (matcher : Matcher) (route : Text) (captures : Captures) : Prop :=
  matcher.match? route = some captures ∨
    ∃ rest, matcher.matchStart? route = some (captures, rest)

/-- The captures of a match of a route, kept with their texts. -/
def record? (matcher : Matcher) (route : Text) : Option (List Taking) :=
  (record matcher.settings.caseInsensitive matcher.program { rest := route }).map (·.1)

theorem exists_start_of_captured (captured : matcher.Captured route captures) :
    ∃ last, matcher.start route = some (captures.entries, last) := by
  rcases captured with whole | ⟨rest, part⟩
  · have matched := match?_eq_some_iff.1 whole
    unfold verdict at matched
    cases started : matcher.start route with
    | none =>
      rw [started] at matched
      cases matched
    | some found =>
      obtain ⟨entries, last⟩ := found
      rw [started] at matched
      dsimp only at matched
      split at matched
      · cases matched
      · cases matched
        exact ⟨last, rfl⟩
  · obtain ⟨⟨entries, last⟩, started, same⟩ := Option.map_eq_some_iff.1 part
    cases same
    exact ⟨last, started⟩

theorem exists_record_of_start {entries : List Entry} {last : Cursor}
    (started : matcher.start route = some (entries, last)) :
    ∃ takings,
      record matcher.settings.caseInsensitive matcher.program { rest := route } =
          some (takings, last) ∧
        entries = takings.map (·.entry) := by
  unfold start at started
  rw [run_eq_map_record] at started
  obtain ⟨⟨takings, _⟩, recorded, same⟩ := Option.map_eq_some_iff.1 started
  cases same
  exact ⟨takings, recorded, rfl⟩

/-- A match has a record, whose captures are those on a way through the program. -/
theorem exists_way_of_captured (captured : matcher.Captured route captures) :
    ∃ takings reached,
      matcher.record? route = some takings ∧
        captures.entries = takings.map (·.entry) ∧
          IsWay matcher.program reached ∧
            takings.map (·.block) = reached.filterMap Instruction.capture? := by
  obtain ⟨last, started⟩ := exists_start_of_captured captured
  obtain ⟨takings, recorded, listed⟩ := exists_record_of_start started
  obtain ⟨reached, way, blocks⟩ := exists_way_of_record recorded
  refine ⟨takings, reached, ?_, listed, way, blocks⟩
  rw [record?, recorded]
  rfl

/-- A match captures as many texts as there are captures outside of groups, if not more. -/
theorem captureCount_le_length (captured : matcher.Captured route captures) :
    matcher.captureCount ≤ captures.positional.length := by
  obtain ⟨takings, reached, _, listed, way, blocks⟩ := exists_way_of_captured captured
  have most : matcher.program.topCaptures.Sublist (takings.map (·.block)) :=
    blocks ▸ way.topItems_sublist.filterMap _
  have enough := most.length_le
  simpa [captureCount, Captures.positional, listed] using enough

theorem mem_named_of_mem_requiredNames {name : Text} (captured : matcher.Captured route captures)
    (required : name ∈ matcher.requiredNames) :
    name ∈ captures.named.map (·.1) := by
  obtain ⟨takings, reached, _, listed, way, blocks⟩ := exists_way_of_captured captured
  have most : matcher.program.topCaptures.Sublist (takings.map (·.block)) :=
    blocks ▸ way.topItems_sublist.filterMap _
  obtain ⟨block, member, named⟩ := mem_sorted_names.1 required
  rw [Captures.named, listed]
  exact mem_named_iff.2 ⟨block, most.subset member, named⟩

/-- A match delivers what its matcher announces. The captures behind its entries are those of the
program, in order, but for those of some groups, which are left out with all that is in them. So the
names outside of groups are delivered, all names that are delivered are announced, and there are as
many texts as captures outside of groups, if not more. -/
theorem delivers_of_captured (captured : matcher.Captured route captures) :
    (∃ takings reached,
      matcher.record? route = some takings ∧
        captures.entries = takings.map (·.entry) ∧
          IsWay matcher.program reached ∧
            takings.map (·.block) = reached.filterMap Instruction.capture?) ∧
      (∀ name ∈ matcher.requiredNames, name ∈ captures.named.map (·.1)) ∧
        (∀ name ∈ captures.named.map (·.1), name ∈ matcher.names) ∧
          matcher.captureCount ≤ captures.positional.length := by
  have recorded := exists_way_of_captured captured
  refine ⟨recorded, fun name => mem_named_of_mem_requiredNames captured, ?_,
    captureCount_le_length captured⟩
  intro name delivered
  obtain ⟨takings, reached, _, listed, way, blocks⟩ := recorded
  have least : (takings.map (·.block)).Sublist matcher.program.captures :=
    blocks ▸ way.sublist_flatten.filterMap _
  rw [Captures.named, listed] at delivered
  obtain ⟨block, member, named⟩ := mem_named_iff.1 delivered
  exact mem_sorted_names.2 ⟨block, least.subset member, named⟩

/-- What is delivered where the first of two groups fails behind a capture of its own. -/
theorem delivers_of_captured_nested :
    let route := "/x/y-z".toList
    let captures : Captures := ⟨[⟨some "a".toList, "x".toList⟩, ⟨some "d".toList, "y-z".toList⟩]⟩
    ∃ matcher,
      Matcher.compile "/{a}(/{b}-{c}.html)(/{d})".toList { caseInsensitive := true } = .ok matcher ∧
        matcher.Captured route captures ∧
          (∃ takings reached,
            matcher.record? route = some takings ∧
              captures.entries = takings.map (·.entry) ∧
                IsWay matcher.program reached ∧
                  takings.map (·.block) = reached.filterMap Instruction.capture?) ∧
            (∀ name ∈ matcher.requiredNames, name ∈ captures.named.map (·.1)) ∧
              (∀ name ∈ captures.named.map (·.1), name ∈ matcher.names) ∧
                matcher.captureCount ≤ captures.positional.length := by
  intro route captures
  have computed :
      (match Matcher.compile "/{a}(/{b}-{c}.html)(/{d})".toList { caseInsensitive := true } with
      | .ok matcher => decide (matcher.match? route = some captures)
      | .error _ => false) = true := by
    decide +kernel
  split at computed
  · rename_i matcher compiled
    have captured : matcher.Captured route captures := .inl (of_decide_eq_true computed)
    exact ⟨matcher, compiled, captured, delivers_of_captured captured⟩
  · cases computed

end Matcher

end TypedRoutes.Matching
