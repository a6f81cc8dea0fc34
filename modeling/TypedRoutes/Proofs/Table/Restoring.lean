import TypedRoutes.Proofs.Table.Spelling

/-!
Contract: instances are read back from the routes that they are written as.

If each capture of a pattern is closed by a mark, and the texts of an instance are legal for the
captures, the engine finds each text where it has been written. The converters make the values of
the texts, and the class makes the same instance of the values.

Owns: readable classes, and that resolving undoes building for them.
-/

set_option autoImplicit false

namespace TypedRoutes.Table

open TypedRoutes.Pattern TypedRoutes.Program TypedRoutes.Matching TypedRoutes.Declaration

/-- A class whose instances can be read back: its fields come from the captures of a pattern without
groups, each of which ends where its text does, and no field is in the way of how instances are
created and asked. -/
structure RouteClass.IsReadable (route : RouteClass) (form : Form) : Prop where
  sensitive : form.matcher.settings.caseInsensitive = false
  delimited : IsDelimited form.matcher.pattern
  covers : route.Covers form.matcher.pattern
  askable : route.IsAskable
  created : ∀ field ∈ route.fields, field.name ≠ "__new__".toList

instance (route : RouteClass) (form : Form) : Decidable (route.IsReadable form) :=
  decidable_of_iff (_ ∧ _ ∧ _ ∧ _ ∧ _)
    ⟨fun ⟨sensitive, delimited, covers, askable, created⟩ =>
        ⟨sensitive, delimited, covers, askable, created⟩,
      fun ⟨sensitive, delimited, covers, askable, created⟩ =>
        ⟨sensitive, delimited, covers, askable, created⟩⟩

/-- Values of the types of the fields of a class, written as texts that are legal for the captures
of a pattern. -/
structure RouteClass.Spells (route : RouteClass) (pattern : Pattern) (values : List (Text × Value))
    (texts : List Text) :
    Prop where
  typed :
    ∀ field ∈ route.fields, ∀ entry ∈ values, entry.1 = field.name → field.type.Holds entry.2
  spelled : route.textsFor pattern values = some texts
  legal : Admits pattern texts

namespace RouteClass

variable
  {route : RouteClass}
  {pattern : Pattern}
  {values : List (Text × Value)}
  {texts : List Text}

theorem Spells.holds (spells : route.Spells pattern values texts)
    (distinct : (route.fields.map (·.name)).Nodup)
    (names : values.map (·.1) = route.fields.map (·.name)) :
    ∀ field ∈ route.fields, field.type.Holds (valueUnder values field.name) := by
  intro field member
  have known : field.name ∈ values.map (·.1) := names ▸ List.mem_map.2 ⟨field, member, rfl⟩
  obtain ⟨entry, inside, same⟩ := List.mem_map.1 known
  have found : Mapping.get? values entry.1 = some entry.2 :=
    Mapping.get?_eq_some_of_mem (names ▸ distinct) inside
  rw [valueUnder, ← same, found, Option.getD_some]
  exact spells.typed field member entry inside same

/-- A match with the texts of an instance fills the fields with its values. -/
theorem Spells.fill_captured (spells : route.Spells pattern values texts)
    (covers : route.Covers pattern) (distinct : (route.fields.map (·.name)).Nodup)
    (names : values.map (·.1) = route.fields.map (·.name)) (nested : ClassRef → Option Resolver)
    (produce : Producer) (slot : Slot Value) :
    fill nested produce (route.captured ⟨entriesOf (pattern.captures.zip (texts.map some))⟩) slot =
      ⟨.ok values, slot, []⟩ := by
  have each : ∀ field ∈ route.fields, ∀ slot,
      fillField nested produce field (some (textUnder values field.name)) slot =
        ⟨.ok (some (valueUnder values field.name)), slot, []⟩ := by
    intro field member
    have holds := spells.holds distinct names field member
    have written := covers.routeText_eq distinct names spells.spelled field member
    obtain ⟨converter, converted, read⟩ := FieldType.exists_converter holds written
    have kind : field.kind = field.type := by
      rw [Field.kind, FieldType.splitOptional_of_holds holds]
    exact fillField_of_read (covers.arguments field member).2 (by rw [kind]; exact converted) read
  rw [covers.captured_eq distinct names spells.spelled,
    fill_eq_ok (fun name => some (textUnder values name)) (valueUnder values) each slot,
    ← eq_map_valueUnder distinct names]

end RouteClass

namespace Catalog

/-- What an instance is written as is resolved to the instance. It is written unless a capture
admits other texts only. -/
theorem IsSound.resolve_eq_of_build {catalog : Catalog} {cls : ClassRef} {route : RouteClass}
    {form : Form} {given : Mapping Value} {values : List (Text × Value)} {texts : List Text}
    (sound : catalog.IsSound) (found : catalog.form? cls = some (route, form))
    (readable : route.IsReadable form)
    (made : route.make catalog.evaluate given = .ok (.record route.cls route.shape values []))
    (spells : route.Spells form.matcher.pattern values texts) :
    (∀ text payload,
        catalog.build (.record route.cls route.shape values []) = .ok text →
          (catalog.resolve (.route route (some form)) ⟨text, payload⟩).map (·.result) =
            .ok (.ok (some (.record route.cls route.shape values [])))) ∧
      ((∀ pair ∈ form.matcher.pattern.captures.zip texts,
          isAllowed false pair.1.allowed pair.2 = true) →
        ∃ text, catalog.build (.record route.cls route.shape values []) = .ok text) := by
  obtain ⟨declared, compiled⟩ := sound.of_form? found
  have covers := readable.covers
  obtain ⟨names, again⟩ :=
    RouteClass.make_again covers declared.distinct readable.created spells.typed made
  have holds := spells.holds declared.distinct names
  have written := covers.routeText_eq declared.distinct names spells.spelled
  have contributed : contributionsOf catalog values =
      route.fields.map fun field => (field.name, .text (textUnder values field.name)) := by
    have listed := contributionsOf_map (valueUnder values)
      (fun name => .text (textUnder values name)) fun field member =>
        contributionOf_of_holds catalog (holds field member) (written field member)
    rwa [← eq_map_valueUnder declared.distinct names] at listed
  have needed :=
    declared.need_eq_ok readable.askable fun field member => (covers.arguments field member).2
  obtain ⟨besides, builds⟩ :=
    exists_build_eq_ok_iff (sound.form?_cls found) needed contributed route.shape []
  have tokens := Pattern.tokens_isSound_of_read compiled.read_eq
  have fed : Filling.Feeds
      ⟨route.layout,
        route.fields.map fun field => (field.name, .text (textUnder values field.name)),
        besides, form.matcher.text⟩ form.matcher.pattern.captures texts 0 :=
    covers.feeds declared.distinct names spells.spelled rfl rfl
  refine ⟨fun text payload built => ?_, fun allowed => ?_⟩
  · obtain ⟨last, wrote⟩ := (builds text).1 built
    have trace := Filling.trace_of_write tokens
      (Pattern.hasOrderedMarks_of_read compiled.read_eq).ordered spells.legal fed wrote
    have matched := verdict_of_trace compiled readable.sensitive readable.delimited trace
    have fills := spells.fill_captured covers declared.distinct names catalog.nested
      catalog.evaluate (Request.slot ⟨text, payload⟩)
    rw [resolve, Except.map, Variant.resolve_of_matched matched fills]
    dsimp only
    rw [again]
    rfl
  · obtain ⟨text, last, wrote⟩ := Filling.exists_write tokens spells.legal fed allowed
    exact ⟨text, (builds text).2 ⟨last, wrote⟩⟩

/-- Whether reading undoes writing for an instance of a class that covers its pattern. -/
def Restores (catalog : Catalog) (route : RouteClass) (form : Form) (given : Mapping Value)
    (values : List (Text × Value)) (texts : List Text) :
    Prop :=
  let value := Value.record route.cls route.shape values []
  form.matcher.settings.caseInsensitive = false →
    IsDelimited form.matcher.pattern →
      route.Covers form.matcher.pattern →
        route.make catalog.evaluate given = .ok value →
          (∀ field ∈ route.fields, ∀ entry ∈ values,
              entry.1 = field.name → field.type.Holds entry.2) →
            route.textsFor form.matcher.pattern values = some texts →
              (∀ pair ∈ form.matcher.pattern.captures.zip texts,
                  isAllowed false pair.1.allowed pair.2 = true) →
                ((catalog.build value).toOption.bind fun text =>
                    catalog.resolvedTo? route form ⟨text, .absent⟩) = some value

instance (catalog : Catalog) (route : RouteClass) (form : Form) (given : Mapping Value)
    (values : List (Text × Value)) (texts : List Text) :
    Decidable (catalog.Restores route form given values texts) :=
  inferInstanceAs (Decidable (_ → _))

/-- Whether reading undoes writing wherever the texts are legal one by one. -/
def ReadsBack (statements : List Statement) : Prop :=
  let catalog := (({} : Module).declareAll statements).1.catalog
  ∀ cls route form given values texts,
    catalog.form? cls = some (route, form) →
      List.Forall₂ IsLegal form.matcher.pattern.captures texts →
        catalog.Restores route form given values texts

end Catalog

end TypedRoutes.Table
