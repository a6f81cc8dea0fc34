import TypedRoutes.Proofs.Declaration.Soundness
import TypedRoutes.Proofs.Matching.Delivery
import TypedRoutes.Proofs.Matching.Progress
import TypedRoutes.Proofs.Pattern.Soundness
import TypedRoutes.Proofs.Table.Binding
import TypedRoutes.Proofs.Table.Writing

/-!
Contract: routes are written back as they were read.

A class mirrors its pattern if its fields are the captures of the pattern, texts all of them, and
absent where a group has been left out. What an instance of it was resolved from can be told from
the instance alone: the writer finds the groups that the match has taken.

Owns: mirroring classes, and that building undoes resolving for them.
-/

set_option autoImplicit false

namespace TypedRoutes.Table

open TypedRoutes.Pattern TypedRoutes.Program TypedRoutes.Matching TypedRoutes.Declaration

/-- The fields of a class go by the names of the captures of a pattern. -/
def RouteClass.IsNamedAfter (route : RouteClass) (pattern : Pattern) : Prop :=
  ∀ name, name ∈ route.fields.map (·.name) ↔ some name ∈ pattern.captures.map (·.name)

theorem RouteClass.isNamedAfter_iff {route : RouteClass} {pattern : Pattern} :
    route.IsNamedAfter pattern ↔
      (∀ field ∈ route.fields, some field.name ∈ pattern.captures.map (·.name)) ∧
        ∀ name ∈ pattern.captures.filterMap (·.name), name ∈ route.fields.map (·.name) := by
  constructor
  · intro same
    refine ⟨fun field member => (same field.name).1 (List.mem_map.2 ⟨field, member, rfl⟩), ?_⟩
    intro name member
    obtain ⟨block, own, named⟩ := List.mem_filterMap.1 member
    exact (same name).2 (List.mem_map.2 ⟨block, own, named⟩)
  · rintro ⟨all, only⟩ name
    constructor
    · intro member
      obtain ⟨field, inside, rfl⟩ := List.mem_map.1 member
      exact all field inside
    · intro member
      obtain ⟨block, own, named⟩ := List.mem_map.1 member
      exact only name (List.mem_filterMap.2 ⟨block, own, named⟩)

instance (route : RouteClass) (pattern : Pattern) : Decidable (route.IsNamedAfter pattern) :=
  decidable_of_iff _ RouteClass.isNamedAfter_iff.symm

/-- A class with a field of the same name for each capture of a pattern: a text for one outside of
groups, a text or nothing for one inside. -/
structure RouteClass.Mirrors (route : RouteClass) (pattern : Pattern) : Prop where
  layout : route.layout = .named
  named : ∀ block ∈ pattern.captures, block.name.isSome = true
  distinct : (pattern.captures.filterMap (·.name)).Nodup
  grouped : HasOwnCaptures pattern
  fields : route.IsNamedAfter pattern
  arguments : ∀ field ∈ route.fields, field.isArgument = true ∧ field.isState = false
  required :
    ∀ block ∈ pattern.topItems.filterMap Token.capture?, ∀ field ∈ route.fields,
      block.name = some field.name → field.type = .text
  optional :
    ∀ block ∈ (groupItems pattern).filterMap Token.capture?, ∀ field ∈ route.fields,
      block.name = some field.name →
        field.type = .optional .text ∧ field.declaredDefault = some .absent

theorem RouteClass.mirrors_iff {route : RouteClass} {pattern : Pattern} :
    route.Mirrors pattern ↔
      route.layout = .named ∧
        (∀ block ∈ pattern.captures, block.name.isSome = true) ∧
          (pattern.captures.filterMap (·.name)).Nodup ∧
            HasOwnCaptures pattern ∧
              route.IsNamedAfter pattern ∧
                (∀ field ∈ route.fields, field.isArgument = true ∧ field.isState = false) ∧
                  (∀ block ∈ pattern.topItems.filterMap Token.capture?, ∀ field ∈ route.fields,
                    block.name = some field.name → field.type = .text) ∧
                    ∀ block ∈ (groupItems pattern).filterMap Token.capture?, ∀ field ∈ route.fields,
                      block.name = some field.name →
                        field.type = .optional .text ∧ field.declaredDefault = some .absent := by
  constructor
  · rintro ⟨layout, named, distinct, grouped, fields, arguments, required, optional⟩
    exact ⟨layout, named, distinct, grouped, fields, arguments, required, optional⟩
  · rintro ⟨layout, named, distinct, grouped, fields, arguments, required, optional⟩
    exact ⟨layout, named, distinct, grouped, fields, arguments, required, optional⟩

instance (route : RouteClass) (pattern : Pattern) : Decidable (route.Mirrors pattern) :=
  decidable_of_iff _ RouteClass.mirrors_iff.symm

/-- No field with a factory goes by the name of what tells that a field is to come from one. -/
def RouteClass.SparesMark (route : RouteClass) : Prop :=
  ∀ field ∈ route.fields, field.name = "_HAS_DEFAULT_FACTORY".toList → field.factory.isNone = true

instance (route : RouteClass) : Decidable route.SparesMark :=
  inferInstanceAs (Decidable (∀ field ∈ route.fields, _))

/-- The value of a field that a capture has been filled for, or left unfilled. -/
def textValue : Option Text → Value
  | none => .absent
  | some text => .scalar (.text text)

theorem textValue_ne_factoryMark (text : Option Text) : textValue text ≠ factoryMark := by
  cases text <;> exact fun same => Value.noConfusion same

theorem contributionOf_textValue (catalog : Catalog) (text : Option Text) :
    contributionOf catalog (textValue text) = writtenText text := by
  cases text <;> rfl

namespace RouteClass

variable {route : RouteClass} {pattern : Pattern} {filled : List (Capture × Option Text)}

theorem Mirrors.arguments_eq (mirrors : route.Mirrors pattern) : route.arguments = route.fields :=
  arguments_eq_fields (by rw [mirrors.layout]; decide) fun field member =>
    (mirrors.arguments field member).1

theorem Mirrors.kind_eq {block : Capture} {field : Field} (mirrors : route.Mirrors pattern)
    (captured : block ∈ pattern.captures) (member : field ∈ route.fields)
    (named : block.name = some field.name) :
    field.kind = .text := by
  obtain ⟨token, inside, own⟩ := List.mem_filterMap.1 captured
  rcases mem_flatten_iff.1 inside with top | grouped
  · have type := mirrors.required block (List.mem_filterMap.2 ⟨token, top, own⟩) field member named
    rw [Field.kind, type]
    rfl
  · have type :=
      (mirrors.optional block (List.mem_filterMap.2 ⟨token, grouped, own⟩) field member named).1
    rw [Field.kind, type]
    rfl

theorem captures_of_trace {text left : Text} (trace : Trace tokenPiece pattern filled text left) :
    filled.map (·.1) = pattern.captures := by
  rw [trace.captures_eq]
  simp only [capture?_tokenPiece]
  rfl

theorem Mirrors.isConsistent {text left : Text} (mirrors : route.Mirrors pattern)
    (trace : Trace tokenPiece pattern filled text left) :
    IsConsistent filled := by
  apply isConsistent_of_nodup
  rw [captures_of_trace trace]
  exact mirrors.distinct

/-- A field of a class that mirrors a pattern has its capture in each trace of the pattern. -/
theorem Mirrors.exists_mem {text left : Text} {field : Field} (mirrors : route.Mirrors pattern)
    (trace : Trace tokenPiece pattern filled text left) (member : field ∈ route.fields) :
    ∃ block captured, (block, captured) ∈ filled ∧ block.name = some field.name := by
  have known := (mirrors.fields field.name).1 (List.mem_map.2 ⟨field, member, rfl⟩)
  obtain ⟨block, own, named⟩ := List.mem_map.1 known
  rw [← captures_of_trace trace] at own
  obtain ⟨⟨_, captured⟩, found, rfl⟩ := List.mem_map.1 own
  exact ⟨_, captured, found, named⟩

/-- A field of a class that mirrors a pattern is filled with the text of its capture, or with the
absent value if the match has left it unfilled. -/
theorem Mirrors.fillField_eq {nested : ClassRef → Option Resolver} {produce : Producer}
    {text left : Text} {field : Field} (mirrors : route.Mirrors pattern)
    (trace : Trace tokenPiece pattern filled text left) (consistent : IsConsistent filled)
    (member : field ∈ route.fields) (slot : Slot Value) :
    fillField nested produce field (Captures.get? ⟨entriesOf filled⟩ field.name) slot =
      ⟨.ok (some (textValue (Captures.get? ⟨entriesOf filled⟩ field.name))), slot, []⟩ := by
  obtain ⟨_, payload⟩ := mirrors.arguments field member
  obtain ⟨block, captured, found, named⟩ := mirrors.exists_mem trace member
  rw [get?_of_isConsistent consistent found named]
  cases captured with
  | none =>
    have inside := trace.mem_groupItems_of_mem found
    simp only [capture?_tokenPiece] at inside
    have declared := (mirrors.optional block inside field member named).2
    exact fillField_of_default payload declared slot
  | some captured =>
    have own : block ∈ pattern.captures := by
      rw [← captures_of_trace trace]
      exact List.mem_map.2 ⟨_, found, rfl⟩
    have kind := mirrors.kind_eq own member named
    exact fillField_of_read payload (by rw [kind]; rfl) rfl slot

theorem Mirrors.fill_captured {text left : Text} (mirrors : route.Mirrors pattern)
    (trace : Trace tokenPiece pattern filled text left) (consistent : IsConsistent filled)
    (nested : ClassRef → Option Resolver) (produce : Producer) (slot : Slot Value) :
    fill nested produce (route.captured ⟨entriesOf filled⟩) slot =
      ⟨.ok (route.fields.map fun field =>
        (field.name, textValue (Captures.get? ⟨entriesOf filled⟩ field.name))), slot, []⟩ := by
  unfold RouteClass.captured
  rw [mirrors.layout, mirrors.arguments_eq]
  exact fill_eq_ok (Captures.get? ⟨entriesOf filled⟩)
    (fun name => textValue (Captures.get? ⟨entriesOf filled⟩ name))
    (fun field member => mirrors.fillField_eq trace consistent member) slot

/-- An instance of a class that mirrors a pattern holds what the match has captured. -/
theorem Mirrors.eq_of_make {produce : Producer} {textOf : Text → Option Text} {value : Value}
    (mirrors : route.Mirrors pattern) (spares : route.SparesMark)
    (made :
      route.make produce
          (route.fields.map fun field => (field.name, textValue (textOf field.name))) =
        .ok value) :
    value =
      .record route.cls route.shape
        (route.fields.map fun field => (field.name, textValue (textOf field.name))) [] := by
  obtain ⟨_, _, _, settled, unset, done, rfl⟩ := make_eq_ok_iff.1 made
  rw [settleAll_eq_ok (fun name => textValue (textOf name))] at done
  · cases done
    rfl
  · intro field member
    have found := Mapping.get?_map_of_mem Field.name (fun name => textValue (textOf name))
      (List.mem_map.2 ⟨field, member, rfl⟩)
    exact Field.settle_of_given (mirrors.arguments field member).1 found
      (textValue_ne_factoryMark _)
      fun same => Option.isNone_iff_eq_none.1 (spares field member same)

end RouteClass

/-- A filling with what a trace was filled with supplies the trace. -/
theorem supplies_of_isConsistent {pattern : Pattern} {route : RouteClass}
    {filled : List (Capture × Option Text)} {text left : Text} {filling : Filling}
    (mirrors : route.Mirrors pattern) (trace : Trace tokenPiece pattern filled text left)
    (consistent : IsConsistent filled) (layout : filling.layout = .named)
    (fields :
      filling.fields =
        route.fields.map fun field =>
          (field.name, writtenText (Captures.get? ⟨entriesOf filled⟩ field.name))) :
    filling.Supplies filled := by
  refine ⟨layout, fun block captured member => ?_⟩
  have own : block ∈ pattern.captures := by
    rw [← RouteClass.captures_of_trace trace]
    exact List.mem_map.2 ⟨_, member, rfl⟩
  obtain ⟨name, named⟩ := Option.isSome_iff_exists.1 (mirrors.named block own)
  have known : name ∈ route.fields.map (·.name) :=
    (mirrors.fields name).2 (List.mem_map.2 ⟨block, own, named⟩)
  refine ⟨name, named, ?_⟩
  have supplied := Mapping.get?_map_of_mem Field.name
    (fun name => writtenText (Captures.get? ⟨entriesOf filled⟩ name)) known
  rw [get?_of_isConsistent consistent member named] at supplied
  rw [fields]
  exact supplied

namespace Catalog

/-- What a match has been resolved to is written as the text of a trace with the same captures. -/
theorem IsSound.build_eq_of_trace {catalog : Catalog} {cls : ClassRef} {route : RouteClass}
    {form : Form} {request : Request} {value : Value} {filled : List (Capture × Option Text)}
    {text : Text} (sound : catalog.IsSound) (found : catalog.form? cls = some (route, form))
    (mirrors : route.Mirrors form.matcher.pattern) (askable : route.IsAskable)
    (spares : route.SparesMark) (trace : Trace tokenPiece form.matcher.pattern filled text [])
    (matched : form.matcher.verdict request.route = .matched ⟨entriesOf filled⟩)
    (resolved :
      (catalog.resolve (.route route (some form)) request).map (·.result) =
        .ok (.ok (some value))) :
    catalog.build value = .ok text := by
  obtain ⟨declared, compiled⟩ := sound.of_form? found
  have made := Except.ok.inj resolved
  have consistent := mirrors.isConsistent trace
  have fills := mirrors.fill_captured trace consistent catalog.nested catalog.evaluate request.slot
  rw [Variant.resolve_of_matched matched fills] at made
  obtain ⟨_, making, whole⟩ := map_eq_ok_iff.1 made
  cases whole
  have needed :=
    declared.need_eq_ok askable fun field member => (mirrors.arguments field member).2
  rw [mirrors.eq_of_make spares making]
  let textOf := Captures.get? ⟨entriesOf filled⟩
  have contributed := contributionsOf_map (fun name => textValue (textOf name))
    (fun name => writtenText (textOf name))
    fun field (_ : field ∈ route.fields) => contributionOf_textValue catalog (textOf field.name)
  obtain ⟨besides, builds⟩ :=
    exists_build_eq_ok_iff (sound.form?_cls found) needed contributed route.shape []
  have tokens := Pattern.tokens_isSound_of_read compiled.read_eq
  refine (builds text).2 ⟨0, ?_⟩
  exact Filling.write_of_trace (fun token member => (tokens token member).ne_fixed)
    mirrors.grouped trace (supplies_of_isConsistent mirrors trace consistent mirrors.layout rfl) 0

/-- What a route has been resolved to is written as the route. -/
theorem IsSound.build_eq_of_resolve {catalog : Catalog} {cls : ClassRef} {route : RouteClass}
    {form : Form} {request : Request} {value : Value} (sound : catalog.IsSound)
    (found : catalog.form? cls = some (route, form))
    (settings : form.matcher.settings = ⟨true, true, false⟩)
    (mirrors : route.Mirrors form.matcher.pattern) (askable : route.IsAskable)
    (spares : route.SparesMark)
    (resolved :
      (catalog.resolve (.route route (some form)) request).map (·.result) =
        .ok (.ok (some value))) :
    catalog.build value = .ok request.route := by
  obtain ⟨_, compiled⟩ := sound.of_form? found
  obtain ⟨captures, matched⟩ := Variant.exists_verdict_of_resolve (Except.ok.inj resolved)
  obtain ⟨filled, trace, rfl⟩ := exists_trace_of_verdict compiled settings matched
  exact sound.build_eq_of_trace found mirrors askable spares trace matched resolved

def resolvedTo? (catalog : Catalog) (route : RouteClass) (form : Form) (request : Request) :
    Option Value :=
  match catalog.resolve (.route route (some form)) request with
  | .error _ => none
  | .ok outcome => outcome.result.toOption.join

/-- What is computed of a class and of what it resolves a request to is so. -/
theorem exists_of_any (catalog : Catalog) (cls : ClassRef) (request : Request)
    (holds : RouteClass → Form → Value → Bool)
    (computed :
      ((catalog.form? cls).any fun found =>
        (catalog.resolvedTo? found.1 found.2 request).any (holds found.1 found.2)) = true) :
    ∃ route form value,
      catalog.form? cls = some (route, form) ∧
        (catalog.resolve (.route route (some form)) request).map (·.result) =
            .ok (.ok (some value)) ∧
          holds route form value = true := by
  obtain ⟨⟨route, form⟩, found, computed⟩ := (Option.any_eq_true _ _).1 computed
  obtain ⟨value, resolved, fine⟩ := (Option.any_eq_true _ _).1 computed
  refine ⟨route, form, value, found, ?_, fine⟩
  unfold resolvedTo? at resolved
  cases ended : catalog.resolve (.route route (some form)) request with
  | error refusal =>
    rw [ended] at resolved
    cases resolved
  | ok outcome =>
    rw [ended] at resolved
    cases result : outcome.result with
    | error failure => simp [result, Except.toOption] at resolved
    | ok found =>
      have instance' : found = some value := by simpa [result, Except.toOption] using resolved
      simp [Except.map, result, instance']

/-- A module with one class, a record that matches routes strictly. -/
def strictPage (pattern : String) (fields : List FieldDeclaration) : List Statement :=
  [.route
    { name := "Page".toList
      pattern := some pattern.toList
      settings := .settings ⟨true, true, false⟩
      shape := .record
      fields }]

/-- A field for a text that can be absent, and is without a capture. -/
def optionalText (name : String) : FieldDeclaration :=
  { name := name.toList
    type := .optional (.known .text)
    default := some (.scalar .none) }

/-- Whether building undoes resolving for all classes of a module that mirror their patterns. -/
def BuildsBack (statements : List Statement) : Prop :=
  let catalog := (({} : Module).declareAll statements).1.catalog
  ∀ cls route form request value,
    catalog.form? cls = some (route, form) →
      form.matcher.settings = ⟨true, true, false⟩ →
        route.Mirrors form.matcher.pattern →
          (catalog.resolve (.route route (some form)) request).map (·.result) =
              .ok (.ok (some value)) →
            catalog.build value = .ok request.route

end Catalog

end TypedRoutes.Table
