import TypedRoutes.Proofs.Declaration.Isolation
import TypedRoutes.Proofs.Table.Audit

/-!
Contract: which class of a table a request selects, and when one that is reported as unreachable.

The class that is selected is the first one that comes to an instance. An earlier class with the
same pattern and settings matches the same routes with the same captures, but its fields need not
take them. So a class that an audit reports as unreachable can be reached all the same, but only with
routes that such an earlier class matches without being filled.

Owns: the place of the selected class, and how far an audit is right about it.
-/

set_option autoImplicit false

namespace TypedRoutes.Table

open TypedRoutes.Matching

section

variable
  {nested : ClassRef → Option Resolver}
  {accounts : ClassRef → Option Account}
  {produce : Producer}
  {variants : List Variant}
  {text : Text}
  {slot : Slot Value}
  {value : Value}

/-- The place of the first class that comes to an instance, with the instance. -/
def selectFirst (nested : ClassRef → Option Resolver) (produce : Producer) :
    List Variant → Text → Slot Value → Option (Nat × Value)
  | [], _, _ => none
  | variant :: rest, text, slot =>
    let first := variant.resolve nested produce text slot
    match first.result with
    | .error _ => none
    | .ok (some value) => some (0, value)
    | .ok none =>
      (selectFirst nested produce rest text first.slot).map fun (place, value) => (place + 1, value)

/-- A search comes to the instance of the class that it selects. -/
theorem result_resolveFirst_eq_ok_iff :
    (resolveFirst nested produce variants text slot).result = .ok (some value) ↔
      ∃ place, selectFirst nested produce variants text slot = some (place, value) := by
  induction variants generalizing slot with
  | nil => simp [resolveFirst, selectFirst]
  | cons variant rest inductionHypothesis =>
    rw [resolveFirst, selectFirst]
    dsimp only
    cases result : (variant.resolve nested produce text slot).result with
    | error error => simp [result]
    | ok found =>
      cases found with
      | some found => simp
      | none =>
        dsimp only
        rw [inductionHypothesis]
        constructor
        · rintro ⟨place, selected⟩
          exact ⟨place + 1, by rw [selected, Option.map_some]⟩
        · rintro ⟨_, selected⟩
          obtain ⟨⟨place, _⟩, earlier, same⟩ := Option.map_eq_some_iff.1 selected
          cases same
          exact ⟨place, earlier⟩

theorem exists_resolve_of_selectFirst {place : Nat}
    (selected : selectFirst nested produce variants text slot = some (place, value)) :
    ∃ variant slot, variants[place]? = some variant ∧
      (variant.resolve nested produce text slot).result = .ok (some value) := by
  induction variants generalizing slot place with
  | nil => cases selected
  | cons variant rest inductionHypothesis =>
    rw [selectFirst] at selected
    dsimp only at selected
    split at selected
    · cases selected
    · rename_i resolved
      cases selected
      exact ⟨variant, slot, rfl, resolved⟩
    · obtain ⟨⟨earlier, _⟩, later, same⟩ := Option.map_eq_some_iff.1 selected
      cases same
      exact inductionHypothesis later

/-- A class is selected if it comes to an instance, and all before it come to nothing, each of them
with the slot that there was at first. -/
theorem selectFirst_eq_some_iff (agree : ∀ cls, Agrees (accounts cls) (nested cls)) {place : Nat} :
    selectFirst nested produce variants text slot = some (place, value) ↔
      (∃ variant, variants[place]? = some variant ∧
        (variant.resolve nested produce text slot).result = .ok (some value)) ∧
        ∀ earlier ∈ variants.take place,
          (earlier.resolve nested produce text slot).result = .ok none := by
  induction variants generalizing place with
  | nil => simp [selectFirst]
  | cons variant rest inductionHypothesis =>
    rw [selectFirst]
    dsimp only
    cases place with
    | zero =>
      cases result : (variant.resolve nested produce text slot).result with
      | error error => simp [result]
      | ok found => cases found <;> simp [result]
    | succ place =>
      rw [List.getElem?_cons_succ, List.take_succ_cons, List.forall_mem_cons]
      cases result : (variant.resolve nested produce text slot).result with
      | error error => simp
      | ok found =>
        cases found with
        | some found => simp
        | none =>
          dsimp only
          rw [Variant.slot_eq_of_unresolved agree result]
          simp [inductionHypothesis]

end

/-- Classes with the same pattern and settings match the same routes with the same captures. -/
theorem Variant.verdict_eq_of_sameMatch {variant other : Variant} (sound : variant.IsSound)
    (otherSound : other.IsSound) (same : variant.sameMatch other = true) (text : Text) :
    other.matcher.verdict text = variant.matcher.verdict text := by
  rw [sameMatch, Bool.and_eq_true, decide_eq_true_eq, decide_eq_true_eq] at same
  obtain ⟨pattern, settings⟩ := same
  have program : other.matcher.program = variant.matcher.program := by
    obtain ⟨own, _, made⟩ := map_eq_ok_iff.1 sound.compiled
    obtain ⟨its, _, madeOther⟩ := map_eq_ok_iff.1 otherSound.compiled
    rw [← made, ← madeOther] at pattern ⊢
    dsimp only at pattern ⊢
    rw [pattern, settings]
  unfold Matcher.verdict Matcher.start
  rw [program, settings]

/-- The class of a table that a request selects, by its place, with the instance. -/
def Catalog.selected (catalog : Catalog) (table : RouteTable) (request : Request) :
    Option (Nat × Value) :=
  selectFirst catalog.nested catalog.evaluate table.variants request.route request.slot

/-- Each of some classes that has the pattern and settings of another one matches a request as that
one does, with the same captures, and fails at a field that cannot be filled from them. -/
def Catalog.FailsToFill (catalog : Catalog) (request : Request) (earlier : List Variant)
    (variant : Variant) :
    Prop :=
  ∃ captures, variant.matcher.match? request.route = some captures ∧
    ∀ first ∈ earlier, variant.sameMatch first = true →
      first.matcher.match? request.route = some captures ∧
        ∃ name,
          (fill catalog.nested catalog.evaluate (first.route.captured captures)
            request.slot).result = .error (.field name)

/-- What a table resolves a request to is the instance of the class that is selected. -/
theorem Catalog.Searches.result_switch_eq_ok_iff {catalog : Catalog} {table : RouteTable}
    {request : Request} {value : Value} (searches : catalog.Searches table) :
    (catalog.switch table request).result = .ok (some value) ↔
      ∃ place, catalog.selected table request = some (place, value) := by
  rw [searches.result_switch, result_resolveFirst_eq_ok_iff]
  rfl

end TypedRoutes.Table

namespace TypedRoutes.Declaration

open TypedRoutes.Matching TypedRoutes.Table

/-- What an audit is right about. Whatever is declared in a module, the audit of a table reports as
unreachable just the classes with an earlier one of the same pattern and settings. If such a class
is selected for a request, all these earlier classes have matched it with the same captures, and
each has failed at a field that it could not fill from them. -/
theorem Module.failsToFill_of_hiddenIssue {statements : List Statement} {table : RouteTable}
    (known : Declared.table table ∈ (({} : Module).declareAll statements).1.catalog.declarations)
    (searches : (({} : Module).declareAll statements).1.catalog.Searches table) :
    let catalog := (({} : Module).declareAll statements).1.catalog
    (∀ issue,
      issue ∈ (catalog.audit table).issues ∧ issue.category = "unreachable" ↔
        ∃ (place : Nat) (variant : Variant), table.variants[place]? = some variant ∧
          issue ∈ variant.hiddenIssue (table.variants.take place)) ∧
      ∀ (place : Nat) (variant : Variant) (issue : Issue),
        table.variants[place]? = some variant →
          issue ∈ variant.hiddenIssue (table.variants.take place) →
            (∃ first ∈ table.variants.take place, variant.sameMatch first = true) ∧
              ∀ request value, catalog.selected table request = some (place, value) →
                (catalog.switch table request).result = .ok (some value) ∧
                  catalog.FailsToFill request (table.variants.take place) variant := by
  intro catalog
  have agree := Module.agrees_declareAll statements
  refine ⟨fun issue => Catalog.mem_audit_unreachable_iff, ?_⟩
  intro place variant issue found hidden
  refine ⟨Variant.exists_sameMatch_of_hiddenIssue hidden, ?_⟩
  intro request value selected
  refine ⟨searches.result_switch_eq_ok_iff.2 ⟨place, selected⟩, ?_⟩
  obtain ⟨⟨other, foundAgain, resolved⟩, unresolved⟩ := (selectFirst_eq_some_iff agree).1 selected
  obtain rfl : other = variant := Option.some.inj (foundAgain.symm.trans found)
  obtain ⟨captures, matched⟩ := Variant.exists_verdict_of_resolve resolved
  refine ⟨captures, Matcher.match?_eq_some_iff.2 matched, ?_⟩
  intro first before same
  have own := Module.isSound_of_mem_variants known (List.mem_of_getElem? found)
  have its := Module.isSound_of_mem_variants known (List.mem_of_mem_take before)
  have matchedToo : first.matcher.verdict request.route = .matched captures :=
    (Variant.verdict_eq_of_sameMatch own its same request.route).trans matched
  exact ⟨Matcher.match?_eq_some_iff.2 matchedToo,
    Variant.exists_field_of_unresolved matchedToo (unresolved first before)⟩

/-- A module with a table of two classes that have one pattern. The first one takes numbers only. -/
def onePattern : List Statement :=
  let page (name : String) (type : FieldType) : Clause :=
    .route
      { name := name.toList
        pattern := some "/users/{id}".toList
        settings := .none
        shape := .record
        fields := [{ name := "id".toList, type := .known type }] }
  [.table "App".toList none .none [page "User" .integer, page "Name" .text]]

/-- The second class is selected for a route that has no number, although it is hidden. -/
theorem exists_selected_onePattern :
    let catalog := (({} : Module).declareAll onePattern).1.catalog
    ∃ table : RouteTable, Declared.table table ∈ catalog.declarations ∧
      catalog.Searches table ∧
        ∃ variant issue value,
          table.variants[1]? = some variant ∧
            issue ∈ variant.hiddenIssue (table.variants.take 1) ∧
              catalog.selected table ⟨"/users/ann".toList, .absent⟩ = some (1, value) := by
  intro catalog
  obtain ⟨table, known, searches, conditions⟩ :=
    Catalog.exists_searched_of_any catalog ⟨2, "App".toList, []⟩
      (fun table =>
        (table.variants[1]?.any fun variant =>
          !(variant.hiddenIssue (table.variants.take 1)).isEmpty) &&
          (catalog.selected table ⟨"/users/ann".toList, .absent⟩).any (·.1 = 1))
      (by decide +kernel)
  obtain ⟨hides, selects⟩ := (Bool.and_eq_true _ _).mp conditions
  obtain ⟨variant, found, hidden⟩ := (Option.any_eq_true _ _).1 hides
  obtain ⟨⟨place, value⟩, selected, first⟩ := (Option.any_eq_true _ _).1 selects
  obtain rfl : place = 1 := of_decide_eq_true first
  obtain ⟨issue, reported⟩ : ∃ issue, issue ∈ variant.hiddenIssue (table.variants.take 1) := by
    apply List.exists_mem_of_ne_nil
    simpa using hidden
  exact ⟨table, known, searches, variant, issue, value, found, reported, selected⟩

/-- The law at a class that is selected because the one before it takes numbers only. -/
theorem Module.failsToFill_of_hiddenIssue_onePattern :
    let catalog := (({} : Module).declareAll onePattern).1.catalog
    let request : Request := ⟨"/users/ann".toList, .absent⟩
    ∃ table : RouteTable, Declared.table table ∈ catalog.declarations ∧
      catalog.Searches table ∧
        ∃ variant issue value,
          table.variants[1]? = some variant ∧
            issue ∈ variant.hiddenIssue (table.variants.take 1) ∧
              (issue ∈ (catalog.audit table).issues ∧ issue.category = "unreachable") ∧
                catalog.selected table request = some (1, value) ∧
                  (catalog.switch table request).result = .ok (some value) ∧
                    catalog.FailsToFill request (table.variants.take 1) variant := by
  intro catalog request
  obtain ⟨table, known, searches, variant, issue, value, found, hidden, selected⟩ :=
    exists_selected_onePattern
  obtain ⟨reported_iff, law⟩ := Module.failsToFill_of_hiddenIssue known searches
  obtain ⟨result, fails⟩ := (law 1 variant issue found hidden).2 request value selected
  exact ⟨table, known, searches, variant, issue, value, found, hidden,
    (reported_iff issue).2 ⟨1, variant, found, hidden⟩, selected, result, fails⟩

/-- Whether in a module no class of a table that is reported as unreachable is ever selected. -/
def NeverSelectsReported (statements : List Statement) : Prop :=
  let catalog := (({} : Module).declareAll statements).1.catalog
  ∀ (table : RouteTable) (place : Nat) (variant : Variant) (issue : Issue),
    Declared.table table ∈ catalog.declarations →
      catalog.Searches table →
        table.variants[place]? = some variant →
          issue ∈ (catalog.audit table).issues →
            issue ∈ variant.hiddenIssue (table.variants.take place) →
              ∀ request value, catalog.selected table request ≠ some (place, value)

/-- A class is selected that is said to be one that can never be. -/
theorem not_neverSelectsReported : ¬ NeverSelectsReported onePattern := by
  intro never
  let catalog := (({} : Module).declareAll onePattern).1.catalog
  obtain ⟨table, known, searches, variant, issue, value, found, hidden, selected⟩ :=
    exists_selected_onePattern
  have reported : issue ∈ (catalog.audit table).issues ∧ issue.category = "unreachable" :=
    Catalog.mem_audit_unreachable_iff.2 ⟨1, variant, found, hidden⟩
  exact never table 1 variant issue known searches found reported.1 hidden _ value selected

end TypedRoutes.Declaration
