import TypedRoutes.Proofs.Matching.Retelling
import TypedRoutes.Proofs.Table.Mirroring

/-!
Contract: what a route is resolved to can be written and resolved again, whatever the settings are.

The route that is written need not be the one that was read: it has the fixed text of the pattern as
the pattern has it, no tolerated slash and nothing that was left over. It is resolved to the same
instance. Where case counts, nothing more is needed. Where it does not, a captured text is written
if the list of its capture has it as it is spelled, and what is written is read in the same way if
the fixed text behind a capture is lowered character by character.

Owns: texts that are listed as they are spelled, and the law for classes that mirror patterns
without groups.
-/

set_option autoImplicit false

namespace TypedRoutes.Table

open TypedRoutes.Pattern TypedRoutes.Program TypedRoutes.Matching TypedRoutes.Declaration

/-- Captured texts that are allowed as they are spelled. -/
def AreListed (pattern : Pattern) (captures : Captures) : Prop :=
  ∀ pair ∈ pattern.captures.zip captures.positional, isAllowed false pair.1.allowed pair.2 = true

instance (pattern : Pattern) (captures : Captures) : Decidable (AreListed pattern captures) :=
  inferInstanceAs (Decidable (∀ pair ∈ pattern.captures.zip captures.positional, _))

theorem zip_positional_entriesFor (blocks : List Capture) (values : List Text) :
    blocks.zip (Captures.positional ⟨entriesFor blocks values⟩) = blocks.zip values := by
  unfold Captures.positional entriesFor
  induction blocks generalizing values with
  | nil => rfl
  | cons block rest inductionHypothesis =>
    cases values with
    | nil => rfl
    | cons value more => exact congrArg (List.cons (block, value)) (inductionHypothesis more)

namespace Catalog

/-- Routes with the same captures are resolved to the same instance. -/
theorem resolve_eq_of_verdict {catalog : Catalog} {route : RouteClass} {form : Form}
    {request other : Request} {value : Value} {filled : List (Capture × Option Text)}
    {text left : Text} (mirrors : route.Mirrors form.matcher.pattern)
    (trace : Trace tokenPiece form.matcher.pattern filled text left)
    (matched : form.matcher.verdict request.route = .matched ⟨entriesOf filled⟩)
    (matchedToo : form.matcher.verdict other.route = .matched ⟨entriesOf filled⟩)
    (resolved :
      (catalog.resolve (.route route (some form)) request).map (·.result) =
        .ok (.ok (some value))) :
    (catalog.resolve (.route route (some form)) other).map (·.result) = .ok (.ok (some value)) := by
  have fills := mirrors.fill_captured trace (mirrors.isConsistent trace) catalog.nested
    catalog.evaluate
  rw [resolve, Except.map, Variant.resolve_of_matched matched (fills request.slot)] at resolved
  rw [resolve, Except.map, Variant.resolve_of_matched matchedToo (fills other.slot)]
  exact resolved

/-- What a route has been resolved to is written, and what is written is resolved to it. -/
theorem IsSound.exists_build_of_resolve {catalog : Catalog} {cls : ClassRef} {route : RouteClass}
    {form : Form} {request : Request} {value : Value} (sound : catalog.IsSound)
    (found : catalog.form? cls = some (route, form)) (flat : isFlat form.matcher.pattern = true)
    (mirrors : route.Mirrors form.matcher.pattern) (askable : route.IsAskable)
    (spares : route.SparesMark)
    (resolved :
      (catalog.resolve (.route route (some form)) request).map (·.result) = .ok (.ok (some value)))
    (listed :
      form.matcher.settings.caseInsensitive = false ∨
        ∀ captures, form.matcher.match? request.route = some captures →
          AreListed form.matcher.pattern captures) :
    ∃ text, catalog.build value = .ok text ∧
      (form.matcher.settings.caseInsensitive = false ∨ hasSteadyStops form.matcher.program = true →
        ∀ payload, (catalog.resolve (.route route (some form)) ⟨text, payload⟩).map (·.result) =
          .ok (.ok (some value))) := by
  obtain ⟨_, compiled⟩ := sound.of_form? found
  obtain ⟨captures, matched⟩ := Variant.exists_verdict_of_resolve (Except.ok.inj resolved)
  obtain ⟨values, admits, rfl, allowed, again⟩ :=
    Matcher.exists_values_of_verdict compiled flat matched
  have spelledAs : ∀ pair ∈ form.matcher.pattern.captures.zip values,
      isAllowed false pair.1.allowed pair.2 = true := by
    rcases listed with sensitive | listed
    · exact allowed sensitive
    · have own := listed _ (Matcher.match?_eq_some_iff.2 matched)
      unfold AreListed at own
      rwa [zip_positional_entriesFor] at own
  have tokens := Pattern.tokens_isSound_of_read compiled.read_eq
  have ordered := (Pattern.hasOrderedMarks_of_read compiled.read_eq).ordered
  have trace := trace_of_admits tokens ordered admits spelledAs
  rw [← entriesOf_zip_some] at matched again
  refine ⟨_, sound.build_eq_of_trace found mirrors askable spares trace matched resolved, ?_⟩
  intro steady payload
  exact resolve_eq_of_verdict mirrors trace matched (again steady) resolved

/-- A module with one class, a record with settings of its own. -/
def page (settings : Settings) (pattern : String) (fields : List FieldDeclaration) :
    List Statement :=
  [.route
    { name := "Page".toList
      pattern := some pattern.toList
      settings := .settings settings
      shape := .record
      fields }]

def plainText (name : String) : FieldDeclaration :=
  { name := name.toList, type := .known .text }

/-- Whether all classes of a module that mirror patterns without groups resolve what their instances
are written as to the same instances, for all instances that routes are resolved to. -/
def Rebuilds (statements : List Statement) : Prop :=
  let catalog := (({} : Module).declareAll statements).1.catalog
  ∀ cls route form request value,
    catalog.form? cls = some (route, form) →
      isFlat form.matcher.pattern = true →
        route.Mirrors form.matcher.pattern →
          (catalog.resolve (.route route (some form)) request).map (·.result) =
              .ok (.ok (some value)) →
            ((catalog.build value).toOption.bind fun text =>
                catalog.resolvedTo? route form ⟨text, .absent⟩) = some value

end Catalog

end TypedRoutes.Table
