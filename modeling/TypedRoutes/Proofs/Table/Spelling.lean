import TypedRoutes.Proofs.Table.Mirroring
import TypedRoutes.Proofs.Table.Supply
import TypedRoutes.Proofs.Value.Conversion

/-!
Contract: the texts of an instance, one for each capture.

The values of an instance are known by the names of their fields. So are the texts that they are
written as, which the fields contribute when a route is written and are filled from when it is read.
An instance is made again of its own values.

Owns: classes that cover their patterns, the texts of an instance, and what they are for its fields.
-/

set_option autoImplicit false

namespace TypedRoutes.Table

open TypedRoutes.Pattern TypedRoutes.Program TypedRoutes.Matching TypedRoutes.Declaration

/-- A class all of whose fields come from the captures of a pattern, by name or in order. -/
structure RouteClass.Covers (route : RouteClass) (pattern : Pattern) : Prop where
  arguments : ∀ field ∈ route.fields, field.isArgument = true ∧ field.isState = false
  layout :
    (route.layout = .named ∧ (∀ block ∈ pattern.captures, block.name.isSome = true) ∧
        route.IsNamedAfter pattern) ∨
      route.layout = .positional ∧ route.fields.length = pattern.captures.length

instance (route : RouteClass) (pattern : Pattern) : Decidable (route.Covers pattern) :=
  decidable_of_iff (_ ∧ _)
    ⟨fun ⟨arguments, layout⟩ => ⟨arguments, layout⟩, fun ⟨arguments, layout⟩ => ⟨arguments, layout⟩⟩

/-- The texts that the values of an instance are written as, one for each capture. -/
def RouteClass.textsFor (route : RouteClass) (pattern : Pattern) (values : List (Text × Value)) :
    Option (List Text) :=
  match route.layout with
  | .named =>
    pattern.captures.mapM fun block =>
      block.name.bind fun name =>
        (Mapping.get? values name).bind fun value => value.routeText.toOption
  | _ => values.mapM fun entry => entry.2.routeText.toOption

/-! ## Values by name -/

def valueUnder (values : List (Text × Value)) (name : Text) : Value :=
  (Mapping.get? values name).getD .absent

def textUnder (values : List (Text × Value)) (name : Text) : Text :=
  (valueUnder values name).routeText.toOption.getD []

theorem eq_map_valueUnder {fields : List Field} {values : List (Text × Value)}
    (distinct : (fields.map (·.name)).Nodup) (names : values.map (·.1) = fields.map (·.name)) :
    values = fields.map fun field => (field.name, valueUnder values field.name) := by
  have each : ∀ entry ∈ values, entry = (entry.1, valueUnder values entry.1) := by
    rintro ⟨name, value⟩ member
    rw [valueUnder, Mapping.get?_eq_some_of_mem (names ▸ distinct) member, Option.getD_some]
  have listed : values.map (fun entry => (entry.1, valueUnder values entry.1)) =
      (fields.map (·.name)).map fun name => (name, valueUnder values name) := by
    rw [← names, List.map_map]
    rfl
  rw [List.map_map] at listed
  calc
    values = values.map id := (List.map_id values).symm
    _ = values.map fun entry => (entry.1, valueUnder values entry.1) := List.map_congr_left each
    _ = fields.map fun field => (field.name, valueUnder values field.name) := listed

/-- Where a result can only be one thing, a list of results is known from its list. -/
theorem eq_map_of_mapM {α β : Type} {f : α → Option β} {list : List α} {results : List β}
    (valueOf : α → β) (found : list.mapM f = some results)
    (only : ∀ item ∈ list, ∀ result, f item = some result → result = valueOf item) :
    results = list.map valueOf ∧ ∀ item ∈ list, f item = some (valueOf item) := by
  induction list generalizing results with
  | nil =>
    cases found
    exact ⟨rfl, by simp⟩
  | cons first rest inductionHypothesis =>
    obtain ⟨own, others⟩ := List.forall_mem_cons.1 only
    rw [List.mapM_cons] at found
    obtain ⟨result, this, further⟩ := Option.bind_eq_some_iff.1 found
    obtain ⟨more, later, same⟩ := Option.bind_eq_some_iff.1 further
    cases same
    obtain ⟨rfl, each⟩ := inductionHypothesis later others
    obtain rfl := own result this
    exact ⟨rfl, List.forall_mem_cons.2 ⟨this, each⟩⟩

theorem eq_textUnder {values : List (Text × Value)} {name : Text} {value : Value} {text : Text}
    (found : Mapping.get? values name = some value)
    (written : value.routeText.toOption = some text) :
    (valueUnder values name).routeText = .ok text ∧ textUnder values name = text := by
  have under : valueUnder values name = value := by
    rw [valueUnder, found, Option.getD_some]
  constructor
  · rw [under]
    cases shown : value.routeText with
    | error obstacle =>
      rw [shown] at written
      cases written
    | ok shownText =>
      rw [shown] at written
      cases written
      rfl
  · rw [textUnder, under, written, Option.getD_some]

namespace RouteClass

variable
  {route : RouteClass}
  {pattern : Pattern}
  {values : List (Text × Value)}
  {texts : List Text}

theorem textsFor_named (named : route.layout = .named)
    (spelled : route.textsFor pattern values = some texts) :
    texts = pattern.captures.map (fun block => textUnder values (block.name.getD [])) ∧
      ∀ block ∈ pattern.captures, ∀ name, block.name = some name →
        (valueUnder values name).routeText = .ok (textUnder values name) := by
  unfold textsFor at spelled
  rw [named] at spelled
  let textOf (block : Capture) := textUnder values (block.name.getD [])
  obtain ⟨listed, each⟩ := eq_map_of_mapM textOf spelled fun block _ text found => by
    obtain ⟨name, known, found⟩ := Option.bind_eq_some_iff.1 found
    obtain ⟨value, under, written⟩ := Option.bind_eq_some_iff.1 found
    dsimp only [textOf]
    rw [known, Option.getD_some]
    exact (eq_textUnder under written).2.symm
  refine ⟨listed, fun block member name known => ?_⟩
  have found := each block member
  dsimp only [textOf] at found
  rw [known, Option.getD_some, Option.bind_some] at found
  obtain ⟨value, under, written⟩ := Option.bind_eq_some_iff.1 found
  exact (eq_textUnder under written).1

theorem textsFor_positional (positional : route.layout = .positional)
    (distinct : (route.fields.map (·.name)).Nodup)
    (names : values.map (·.1) = route.fields.map (·.name))
    (spelled : route.textsFor pattern values = some texts) :
    texts = route.fields.map (fun field => textUnder values field.name) ∧
      ∀ field ∈ route.fields,
        (valueUnder values field.name).routeText = .ok (textUnder values field.name) := by
  unfold textsFor at spelled
  rw [positional] at spelled
  have under (entry : Text × Value) (member : entry ∈ values) :
      Mapping.get? values entry.1 = some entry.2 :=
    Mapping.get?_eq_some_of_mem (names ▸ distinct) member
  obtain ⟨listed, each⟩ := eq_map_of_mapM (fun entry => textUnder values entry.1) spelled
    fun entry member text written => (eq_textUnder (under entry member) written).2.symm
  have ofNames : texts = (values.map (·.1)).map (textUnder values) := by
    rw [listed, List.map_map]
    rfl
  refine ⟨?_, fun field member => ?_⟩
  · rw [ofNames, names, List.map_map]
    rfl
  · have known : field.name ∈ values.map (·.1) := names ▸ List.mem_map.2 ⟨field, member, rfl⟩
    obtain ⟨entry, inside, same⟩ := List.mem_map.1 known
    rw [← same]
    exact (eq_textUnder (under entry inside) (each entry inside)).1

theorem Covers.routeText_eq (covers : route.Covers pattern)
    (distinct : (route.fields.map (·.name)).Nodup)
    (names : values.map (·.1) = route.fields.map (·.name))
    (spelled : route.textsFor pattern values = some texts) :
    ∀ field ∈ route.fields,
      (valueUnder values field.name).routeText = .ok (textUnder values field.name) := by
  rcases covers.layout with ⟨named, _, same⟩ | ⟨positional, _⟩
  · intro field member
    have known := (same field.name).1 (List.mem_map.2 ⟨field, member, rfl⟩)
    obtain ⟨block, own, known⟩ := List.mem_map.1 known
    exact (textsFor_named named spelled).2 block own field.name known
  · exact (textsFor_positional positional distinct names spelled).2

/-- The fields contribute the texts of an instance to the captures. -/
theorem Covers.feeds {filling : Filling} (covers : route.Covers pattern)
    (distinct : (route.fields.map (·.name)).Nodup)
    (names : values.map (·.1) = route.fields.map (·.name))
    (spelled : route.textsFor pattern values = some texts) (layout : filling.layout = route.layout)
    (fields :
      filling.fields =
        route.fields.map fun field => (field.name, .text (textUnder values field.name))) :
    filling.Feeds pattern.captures texts 0 := by
  rcases covers.layout with ⟨named, each, same⟩ | ⟨positional, count⟩
  · rw [(textsFor_named named spelled).1]
    refine Filling.feeds_of_named (layout.trans named) (fun block member => ?_) 0
    obtain ⟨name, known⟩ := Option.isSome_iff_exists.1 (each block member)
    refine ⟨name, known, ?_⟩
    have field := (same name).2 (List.mem_map.2 ⟨block, member, known⟩)
    rw [fields, known, Option.getD_some]
    exact Mapping.get?_map_of_mem Field.name
      (fun name => Written.text (textUnder values name)) field
  · have listed := (textsFor_positional positional distinct names spelled).1
    refine Filling.feeds_of_positional (layout.trans positional) ?_ ?_
    · rw [listed, List.length_map, count]
    · rw [listed, fields, List.drop_zero, List.map_map, List.map_map]
      rfl

theorem entriesOf_zip {blocks : List Capture} (count : blocks.length = texts.length) :
    (entriesOf (blocks.zip (texts.map some))).map (·.text) = texts := by
  induction blocks generalizing texts with
  | nil =>
    obtain rfl : texts = [] := List.eq_nil_of_length_eq_zero count.symm
    rfl
  | cons block rest inductionHypothesis =>
    cases texts with
    | nil => cases count
    | cons text others =>
      have later := inductionHypothesis (Nat.succ.inj count)
      rw [List.map_cons, List.zip_cons_cons]
      exact congrArg (List.cons text) later

theorem pairInOrder_map (fields : List Field) (textOf : Text → Text) :
    pairInOrder fields (fields.map fun field => textOf field.name) =
      fields.map fun field => (field, some (textOf field.name)) := by
  induction fields with
  | nil => rfl
  | cons field rest inductionHypothesis =>
    rw [List.map_cons, List.map_cons, pairInOrder, inductionHypothesis]

/-- A match with the texts of an instance has a text for each field. -/
theorem Covers.captured_eq (covers : route.Covers pattern)
    (distinct : (route.fields.map (·.name)).Nodup)
    (names : values.map (·.1) = route.fields.map (·.name))
    (spelled : route.textsFor pattern values = some texts) :
    route.captured ⟨entriesOf (pattern.captures.zip (texts.map some))⟩ =
      route.fields.map fun field => (field, some (textUnder values field.name)) := by
  have filled : route.layout ≠ .unit := by
    rcases covers.layout with ⟨named, _⟩ | ⟨positional, _⟩
    · rw [named]
      decide
    · rw [positional]
      decide
  have arguments := arguments_eq_fields filled fun field member => (covers.arguments field member).1
  unfold RouteClass.captured
  rw [arguments]
  rcases covers.layout with ⟨named, _, same⟩ | ⟨positional, count⟩
  · rw [named]
    dsimp only
    refine List.map_congr_left fun field member => ?_
    let textOf (name : Option Text) := some (textUnder values (name.getD []))
    have pairs :
        pattern.captures.zip (texts.map some) =
          pattern.captures.map fun block => (block, textOf block.name) := by
      rw [(textsFor_named named spelled).1, List.map_map]
      exact List.map_prod_left_eq_zip.symm
    obtain ⟨block, own, known⟩ :=
      List.mem_map.1 ((same field.name).1 (List.mem_map.2 ⟨field, member, rfl⟩))
    have inside : (block, some (textUnder values field.name)) ∈
        pattern.captures.map fun block => (block, textOf block.name) :=
      List.mem_map.2 ⟨block, own, by rw [known]; rfl⟩
    rw [pairs, get?_of_isConsistent (isConsistent_map _ textOf) inside known]
  · have listed := (textsFor_positional positional distinct names spelled).1
    have length : pattern.captures.length = texts.length := by
      rw [listed, List.length_map, count]
    rw [positional]
    dsimp only [Captures.positional]
    rw [entriesOf_zip length, listed, pairInOrder_map]

end RouteClass

theorem contributionOf_of_holds (catalog : Catalog) {type : FieldType} {value : Value} {text : Text}
    (holds : type.Holds value) (written : value.routeText = .ok text) :
    contributionOf catalog value = .text text := by
  have scalar
      {plain : Scalar}
      (present : plain ≠ .none)
      (own : (Value.scalar plain).routeText = .ok text) :
      contributionOf catalog (.scalar plain) = .text text := by
    rw [contributionOf, if_neg present, own, Written.ofText]
  unfold FieldType.Holds at holds
  split at holds
  · exact scalar (by simp) written
  · exact scalar (by simp) written
  · exact scalar (by simp) written
  · exact scalar (by simp) written
  · obtain ⟨_, member, _, rfl⟩ := holds
    have same : contributionOf catalog member.value = .ofText member.value.routeText := rfl
    rw [same, written]
    rfl
  · cases holds

theorem ne_factoryMark_of_holds {type : FieldType} {value : Value} (holds : type.Holds value) :
    value ≠ factoryMark := by
  rintro rfl
  unfold FieldType.Holds factoryMark at holds
  split at holds
  all_goals first
    | contradiction
    | (obtain ⟨_, member, _, same⟩ := holds
       cases same)

namespace RouteClass

variable
  {route : RouteClass}
  {produce : Producer}
  {given : Mapping Value}
  {values : List (Text × Value)}

/-- Without a field in the place of what instances are created with, it does not matter whether
values are given for them. -/
theorem unmade?_eq_none {isGivenAny : Bool}
    (created : ∀ field ∈ route.fields, field.name ≠ "__new__".toList)
    (accepted : route.unmade? isGivenAny = none) (other : Bool) :
    route.unmade? other = none := by
  have free : (route.fields.any fun field => field.name = "__new__".toList) = false := by
    rw [List.any_eq_false]
    exact fun field member => by rw [decide_eq_true_iff]; exact created field member
  unfold unmade? at accepted ⊢
  simp only [free, Bool.false_and] at accepted ⊢
  exact accepted

/-- An instance is made again of its values. -/
theorem make_again {pattern : Pattern} (covers : route.Covers pattern)
    (distinct : (route.fields.map (·.name)).Nodup)
    (created : ∀ field ∈ route.fields, field.name ≠ "__new__".toList)
    (typed :
      ∀ field ∈ route.fields, ∀ entry ∈ values, entry.1 = field.name → field.type.Holds entry.2)
    (made : route.make produce given = .ok (.record route.cls route.shape values [])) :
    values.map (·.1) = route.fields.map (·.name) ∧
      route.make produce values = .ok (.record route.cls route.shape values []) := by
  obtain ⟨accepted, builtins, finished, settled, unset, done, same⟩ := make_eq_ok_iff.1 made
  obtain ⟨rfl, rfl⟩ : values = settled ∧ [] = unset := by simpa using same
  have names := names_settleAll done
  have listed := eq_map_valueUnder distinct names
  have again : settleAll produce route.arguments values route.fields =
      .ok (route.fields.map fun field => (field.name, valueUnder values field.name), []) := by
    refine settleAll_eq_ok (valueUnder values) fun field member => ?_
    obtain ⟨value, settling, inside⟩ := exists_settle_of_settleAll done field member
    have found := Mapping.get?_eq_some_of_mem (names ▸ distinct) inside
    rw [valueUnder, found, Option.getD_some]
    exact Field.settle_again (covers.arguments field member).1 settling found
      (ne_factoryMark_of_holds (typed field member _ inside rfl))
  rw [← listed] at again
  exact ⟨names, make_eq_ok_iff.2
    ⟨unmade?_eq_none created accepted _, builtins, finished, values, [], again, rfl⟩⟩

end RouteClass

end TypedRoutes.Table
