import TypedRoutes.Proofs.Declaration.Demand
import TypedRoutes.Proofs.Declaration.Selection

/-!
Contract: what comes of classes with fields that no text converts to.

An audit reports such fields as errors by their types alone. A text that is captured for one of them
does end the attempt. But a match may leave the field out, and then the field has its default, what
its factory makes, or the absent value, whatever its type. So a class with such a field can be
selected all the same, with routes that leave out all of them.

Owns: what is known of a selected class by its reported fields. Does not own: which routes leave a
field out.
-/

set_option autoImplicit false

namespace TypedRoutes.Table

open TypedRoutes.Matching

section Filling

variable
  {nested : ClassRef → Option Resolver}
  {produce : Producer}
  {field : Field}
  {captured : Option Text}
  {pairs : List (Field × Option Text)}
  {slot : Slot Value}

/-- A field that no text converts to comes to nothing with a text. -/
theorem result_fillField_of_unfillable (lacking : field.isFillable nested = false) (text : Text)
    (slot : Slot Value) :
    (fillField nested produce field (some text) slot).result = .ok none := by
  simp only [Field.isFillable, Bool.or_eq_false_iff, Option.isSome_eq_false_iff,
    Option.isNone_iff_eq_none] at lacking
  obtain ⟨⟨payload, unresolved⟩, unconverted⟩ := lacking
  unfold fillField readField
  rw [payload, if_neg Bool.false_ne_true]
  dsimp only
  rw [unresolved]
  dsimp only
  rw [unconverted]

/-- If it has a value all the same, it has had no text, and the value is its fallback. -/
theorem eq_none_of_fillField {value : Value} (lacking : field.isFillable nested = false)
    (filled : (fillField nested produce field captured slot).result = .ok (some value)) :
    captured = none ∧ field.fallback? produce = some (.ok value) := by
  cases captured with
  | some text =>
    rw [result_fillField_of_unfillable lacking] at filled
    cases filled
  | none =>
    have payload : field.isState = false := by
      rw [Field.isFillable, Bool.or_eq_false_iff, Bool.or_eq_false_iff] at lacking
      exact lacking.1.1
    unfold fillField at filled
    rw [payload, if_neg Bool.false_ne_true] at filled
    dsimp only at filled
    unfold Field.withoutText at filled
    split at filled
    · cases filled
    · rename_i own has
      cases filled
      exact ⟨rfl, has⟩
    · cases filled

/-- Where all fields are filled, those that no text converts to have had none. -/
theorem eq_none_of_fill {values : List (Text × Value)} (lacking : field.isFillable nested = false)
    (filled : (fill nested produce pairs slot).result = .ok values)
    (member : (field, captured) ∈ pairs) :
    captured = none ∧
      ∃ own, field.fallback? produce = some (.ok own) ∧ (field.name, own) ∈ values := by
  induction pairs generalizing slot values with
  | nil => cases member
  | cons pair rest inductionHypothesis =>
    obtain ⟨first, taken⟩ := pair
    unfold fill at filled
    dsimp only at filled
    split at filled
    · cases filled
    · cases filled
    · rename_i value own
      obtain ⟨others, further, rfl⟩ := map_eq_ok_iff.1 filled
      rcases List.mem_cons.1 member with same | later
      · cases same
        obtain ⟨untaken, fallback⟩ := eq_none_of_fillField lacking own
        exact ⟨untaken, value, fallback, List.mem_cons_self⟩
      · obtain ⟨untaken, value, fallback, inside⟩ := inductionHypothesis further later
        exact ⟨untaken, value, fallback, List.mem_cons_of_mem _ inside⟩

theorem exists_text_of_mem_take {fields : List Field} {texts : List Text}
    (member : field ∈ fields.take texts.length) :
    ∃ text, (field, some text) ∈ pairInOrder fields texts := by
  induction fields generalizing texts with
  | nil => simp at member
  | cons first rest inductionHypothesis =>
    cases texts with
    | nil => cases member
    | cons text texts =>
      rw [List.length_cons, List.take_succ_cons] at member
      rcases List.mem_cons.1 member with rfl | later
      · exact ⟨text, List.mem_cons_self⟩
      · obtain ⟨taken, inside⟩ := inductionHypothesis later
        exact ⟨taken, List.mem_cons_of_mem _ inside⟩

end Filling

namespace Variant

variable
  {variant : Variant}
  {field : Field}
  {text : Text}
  {captures : Captures}

/-- Every match has a text for a field: its name is captured outside of groups, or there are enough
captures outside of groups for its place. -/
def AlwaysSupplies (variant : Variant) (field : Field) : Prop :=
  match variant.route.layout with
  | .named => field.name ∈ variant.matcher.requiredNames
  | .positional => field ∈ variant.route.arguments.take variant.matcher.captureCount
  | .unit => False

theorem AlwaysSupplies.exists_text (always : variant.AlwaysSupplies field)
    (argument : field ∈ variant.route.arguments)
    (matched : variant.matcher.match? text = some captures) :
    ∃ text, (field, some text) ∈ variant.route.captured captures := by
  unfold AlwaysSupplies at always
  cases layout : variant.route.layout with
  | named =>
    rw [layout] at always
    obtain ⟨⟨name, taken⟩, inside, same⟩ :=
      List.mem_map.1 (Matcher.mem_named_of_mem_requiredNames (.inl matched) always)
    obtain rfl : name = field.name := same
    have found : captures.get? field.name = some taken :=
      Mapping.get?_eq_some_of_mem (Mapping.nodup_names_ofEntries _) inside
    rw [RouteClass.captured, layout]
    exact ⟨taken, found ▸ List.mem_map_of_mem (f := fun field => (field, _)) argument⟩
  | positional =>
    rw [layout] at always
    have enough := Matcher.captureCount_le_length (.inl matched)
    rw [RouteClass.captured, layout]
    exact exists_text_of_mem_take (List.take_subset_take_left _ enough always)
  | unit =>
    rw [layout] at always
    cases always

end Variant

/-- A request comes to an instance of a class with nothing captured for a field. The instance is
made with the fallback of the field. -/
def Catalog.LeavesOut (catalog : Catalog) (request : Request) (variant : Variant) (field : Field)
    (value : Value) :
    Prop :=
  ∃ captures values own,
    variant.matcher.match? request.route = some captures ∧
      (∀ text, (field, some text) ∉ variant.route.captured captures) ∧
        field.fallback? catalog.evaluate = some (.ok own) ∧ (field.name, own) ∈ values ∧
          variant.route.make catalog.evaluate values = .ok value

namespace Catalog

variable
  {catalog : Catalog}
  {table : RouteTable}

/-- A class that is selected has left out each field that no text converts to. -/
theorem leavesOut_of_selected
    {request : Request}
    {place : Nat}
    {value : Value}
    (selected : catalog.selected table request = some (place, value)) :
    ∃ variant, table.variants[place]? = some variant ∧
      ∀ field ∈ variant.unfillable catalog.nested, catalog.LeavesOut request variant field value := by
  obtain ⟨variant, slot, found, resolved⟩ := exists_resolve_of_selectFirst selected
  refine ⟨variant, found, fun field lacking => ?_⟩
  obtain ⟨argument, unfillable⟩ := List.mem_filter.1 lacking
  rw [Bool.not_eq_true'] at unfillable
  obtain ⟨captures, values, matched, filled, made⟩ := Variant.exists_values_of_resolve resolved
  have untaken (captured : Option Text)
      (member : (field, captured) ∈ variant.route.captured captures) :=
    eq_none_of_fill unfillable filled member
  rw [← variant.route.map_fst_captured captures] at argument
  obtain ⟨⟨_, captured⟩, member, rfl⟩ := List.mem_map.1 argument
  obtain ⟨_, own, fallback, inside⟩ := untaken captured member
  refine ⟨captures, values, own, Matcher.match?_eq_some_iff.2 matched, fun text taken => ?_,
    fallback, inside, made⟩
  exact Option.some_ne_none text (untaken _ taken).1

section

variable
  {request : Request}
  {variant : Variant}
  {field : Field}
  {value : Value}

theorem LeavesOut.isRequired_eq_false (leaves : catalog.LeavesOut request variant field value) :
    field.isRequired = false := by
  obtain ⟨_, _, own, _, _, fallback, _⟩ := leaves
  rw [Field.isRequired_eq_false_iff catalog.evaluate, fallback]
  rfl

/-- Where a field is left out, there is a match without a text for it. -/
theorem LeavesOut.not_alwaysSupplies (leaves : catalog.LeavesOut request variant field value)
    (argument : field ∈ variant.route.arguments) :
    ¬ variant.AlwaysSupplies field := by
  intro always
  obtain ⟨_, _, _, matched, untaken, _⟩ := leaves
  obtain ⟨text, taken⟩ := always.exists_text argument matched
  exact untaken text taken

end

/-- What the errors of an audit are right about. They are the fields that no text converts to. What
a table resolves a request to is an instance of the class that is selected, and the match has left
out all such fields of that class, each of which has had its fallback. So a class is never selected
that has such a field which needs a text, or for which every match has one. -/
theorem leavesOut_of_switch (searches : catalog.Searches table) :
    (∀ issue,
      issue ∈ (catalog.audit table).issues ∧ issue.category = "field" ↔
        ∃ variant ∈ table.variants, ∃ field ∈ variant.unfillable catalog.nested,
          issue = variant.fieldIssue field) ∧
      ∀ request value, (catalog.switch table request).result = .ok (some value) →
        ∃ place variant,
          catalog.selected table request = some (place, value) ∧
            table.variants[place]? = some variant ∧
              ∀ field ∈ variant.unfillable catalog.nested,
                catalog.LeavesOut request variant field value ∧
                  field.isRequired = false ∧ ¬ variant.AlwaysSupplies field := by
  refine ⟨fun issue => mem_audit_field_iff, fun request value resolved => ?_⟩
  obtain ⟨place, selected⟩ := searches.result_switch_eq_ok_iff.1 resolved
  obtain ⟨variant, found, leaves⟩ := leavesOut_of_selected selected
  refine ⟨place, variant, selected, found, fun field lacking => ?_⟩
  have out := leaves field lacking
  exact ⟨out, out.isRequired_eq_false, out.not_alwaysSupplies (List.mem_of_mem_filter lacking)⟩

end Catalog

end TypedRoutes.Table

namespace TypedRoutes.Declaration

open TypedRoutes.Table

/-- A module with a table of one class. Its only field takes lists, so no text converts to it; a
match need not have one. -/
def listedTags : List Statement :=
  [.table "App".toList none .none
    [.route
      { name := "Tags".toList
        pattern := some "/tags(/{tags})".toList
        settings := .none
        shape := .record
        fields :=
          [{ name := "tags".toList
             type := .known (.optional .list)
             default := some (.scalar .none) }] }]]

/-- The class is selected for a route without tags. -/
theorem exists_selected_listedTags :
    let catalog := (({} : Module).declareAll listedTags).1.catalog
    ∃ table : RouteTable, Declared.table table ∈ catalog.declarations ∧
      catalog.Searches table ∧
        ∃ variant field value,
          table.variants[0]? = some variant ∧ field ∈ variant.unfillable catalog.nested ∧
            catalog.selected table ⟨"/tags".toList, .absent⟩ = some (0, value) := by
  intro catalog
  obtain ⟨table, known, searches, conditions⟩ :=
    Catalog.exists_searched_of_any catalog ⟨1, "App".toList, []⟩
      (fun table =>
        (table.variants[0]?.any fun variant => !(variant.unfillable catalog.nested).isEmpty) &&
          (catalog.selected table ⟨"/tags".toList, .absent⟩).any (·.1 = 0))
      (by decide +kernel)
  obtain ⟨lacks, selects⟩ := (Bool.and_eq_true _ _).mp conditions
  obtain ⟨variant, found, lacking⟩ := (Option.any_eq_true _ _).1 lacks
  obtain ⟨⟨place, value⟩, selected, first⟩ := (Option.any_eq_true _ _).1 selects
  obtain rfl : place = 0 := of_decide_eq_true first
  obtain ⟨field, inside⟩ : ∃ field, field ∈ variant.unfillable catalog.nested := by
    apply List.exists_mem_of_ne_nil
    simpa using lacking
  exact ⟨table, known, searches, variant, field, value, found, inside, selected⟩

/-- The law at a class that is selected with its only field left out. -/
theorem leavesOut_of_switch_listedTags :
    let catalog := (({} : Module).declareAll listedTags).1.catalog
    let request : Request := ⟨"/tags".toList, .absent⟩
    ∃ table : RouteTable, Declared.table table ∈ catalog.declarations ∧
      catalog.Searches table ∧
        ∃ variant field value,
          (catalog.switch table request).result = .ok (some value) ∧
            table.variants[0]? = some variant ∧ field ∈ variant.unfillable catalog.nested ∧
              variant.fieldIssue field ∈ (catalog.audit table).issues ∧
                catalog.LeavesOut request variant field value ∧
                  field.isRequired = false ∧ ¬ variant.AlwaysSupplies field := by
  intro catalog request
  obtain ⟨table, known, searches, variant, field, value, found, lacking, selected⟩ :=
    exists_selected_listedTags
  have resolved : (catalog.switch table request).result = .ok (some value) :=
    searches.result_switch_eq_ok_iff.2 ⟨0, selected⟩
  obtain ⟨reported_iff, law⟩ := Catalog.leavesOut_of_switch searches
  obtain ⟨place, other, selectedAgain, foundAgain, leaves⟩ := law request value resolved
  obtain rfl : place = 0 := congrArg (·.1) (Option.some.inj (selectedAgain.symm.trans selected))
  obtain rfl : other = variant := Option.some.inj (foundAgain.symm.trans found)
  have reported := (reported_iff (other.fieldIssue field)).2
    ⟨other, List.mem_of_getElem? found, field, lacking, rfl⟩
  exact ⟨table, known, searches, other, field, value, resolved, found, lacking, reported.1,
    leaves field lacking⟩

/-- Whether in a module no class of a table is ever selected with an error reported about one of its
fields. -/
def NeverSelectsUnfillable (statements : List Statement) : Prop :=
  let catalog := (({} : Module).declareAll statements).1.catalog
  ∀ (table : RouteTable) (place : Nat) (variant : Variant) (field : Field),
    Declared.table table ∈ catalog.declarations →
      catalog.Searches table →
        table.variants[place]? = some variant →
          field ∈ variant.unfillable catalog.nested →
            variant.fieldIssue field ∈ (catalog.audit table).issues →
              ∀ request value, catalog.selected table request ≠ some (place, value)

/-- A class is selected with an error reported about its only field. -/
theorem not_neverSelectsUnfillable : ¬ NeverSelectsUnfillable listedTags := by
  intro never
  let catalog := (({} : Module).declareAll listedTags).1.catalog
  obtain ⟨table, known, searches, variant, field, value, found, lacking, selected⟩ :=
    exists_selected_listedTags
  have reported : variant.fieldIssue field ∈ (catalog.audit table).issues ∧
      (variant.fieldIssue field).category = "field" :=
    Catalog.mem_audit_field_iff.2 ⟨variant, List.mem_of_getElem? found, field, lacking, rfl⟩
  exact never table 0 variant field known searches found lacking reported.1 _ value selected

end TypedRoutes.Declaration
