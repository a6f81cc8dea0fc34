import TypedRoutes.Proofs.Declaration.Soundness
import TypedRoutes.Proofs.Table.Mirroring
import TypedRoutes.Proofs.Table.Supply

/-!
Contract: what an instance whose fields go by name is written as, and when it is not.

The writer stops at a capture without a value, and the group around it is dropped with all that was
written of it. What comes of it is a text that can be read off the pattern: each capture stands for
the text of the field of its name, and a group is there or not as a whole. Outside of groups nothing
drops what stops the writer, so the instance is refused.

Owns: the text of a pattern by the texts of its captures, and that it is what is written.
-/

set_option autoImplicit false

namespace TypedRoutes.Table

open TypedRoutes.Pattern TypedRoutes.Matching TypedRoutes.Declaration

/-! ## The text of a pattern -/

section

variable (textOf : Capture → Option Text)

/-- Whether a token is written: it is no capture, or one with a text. -/
def isSupplied (token : Token) : Bool :=
  token.capture?.all fun block => (textOf block).isSome

/-- The text of a token, with the text of its capture in the place of the capture. -/
def tokenText : Token → Text
  | .slash => ['/']
  | .literal text => text
  | .capture block => (textOf block).getD []
  | .question => ['?']
  | .ampersand => ['&']
  | .pair key (.literal value) => key ++ '=' :: value
  | .pair key (.capture block) => key ++ '=' :: (textOf block).getD []
  | .hash => ['#']
  | .stop => []
  | .fixed text => text

/-- Whether a group is part of what is written: it has a capture at some depth, and its captures
outside of the groups in it have texts. -/
def isIncluded (inner : Pattern) : Bool :=
  inner.any (·.capture?.isSome) && inner.topItems.all (isSupplied textOf)

/-- The text of a pattern. A group is part of it with its whole text or not at all. -/
def rendered : Pattern → Text
  | .nil => []
  | .item token rest => tokenText textOf token ++ rendered rest
  | .group inner rest =>
    if isIncluded textOf inner then rendered inner ++ rendered rest else rendered rest

end

namespace Filling

variable {filling : Filling} {textOf : Capture → Option Text} {used : Nat}

/-- At a number of fields used up, a capture is written as the text it has, if it has one, and with
that it uses up no more. -/
def WritesAs (filling : Filling) (textOf : Capture → Option Text) (used : Nat) (block : Capture) :
    Prop :=
  filling.writeCapture block used =
    match textOf block with
    | some text => .ok (text, used)
    | none => .error .absent

theorem writeToken_eq_tokenText {token : Token}
    (writes : ∀ block ∈ token.capture?, filling.WritesAs textOf used block) :
    filling.writeToken token used =
      if isSupplied textOf token then .ok (tokenText textOf token, used) else .error .absent := by
  cases token with
  | capture block =>
    rw [writeToken, writes block rfl]
    cases known : textOf block <;> simp [isSupplied, tokenText, Token.capture?, known]
  | pair key value =>
    cases value with
    | literal text => rfl
    | capture block =>
      rw [writeToken, writes block rfl]
      cases known : textOf block <;> simp [isSupplied, tokenText, Token.capture?, known, Except.map]
  | _ => rfl

/-- A pattern is written as its text, unless a capture outside of its groups has no text. -/
theorem write_eq_rendered {pattern : Pattern}
    (writes : ∀ block ∈ pattern.captures, filling.WritesAs textOf used block) :
    filling.write pattern used =
      if pattern.topItems.all (isSupplied textOf) then .ok (rendered textOf pattern, used)
      else .error .absent := by
  induction pattern with
  | nil => rfl
  | item token rest inductionHypothesis =>
    rw [captures_item] at writes
    have here := writeToken_eq_tokenText fun block own =>
      writes block (List.mem_append_left _ (Option.mem_toList.2 own))
    have later := inductionHypothesis fun block member =>
      writes block (List.mem_append_right _ member)
    rw [write, here, Grouped.topItems, List.all_cons]
    by_cases supplied : isSupplied textOf token = true
    · rw [if_pos supplied, supplied, Bool.true_and]
      dsimp only
      rw [later]
      split <;> rfl
    · rw [if_neg supplied, if_neg (by simp [supplied])]
  | group inner rest innerHypothesis inductionHypothesis =>
    rw [captures_group] at writes
    have within := innerHypothesis fun block member =>
      writes block (List.mem_append_left _ member)
    have later := inductionHypothesis fun block member =>
      writes block (List.mem_append_right _ member)
    rw [write, within, Grouped.topItems, rendered, isIncluded]
    -- A group without captures is left out as one is that stops the writer.
    by_cases captured : (inner.any fun token => token.capture?.isSome) = true
    · rw [if_pos captured, captured, Bool.true_and]
      by_cases supplied : inner.topItems.all (isSupplied textOf) = true
      · rw [if_pos supplied, if_pos supplied]
        dsimp only
        rw [later]
        split <;> rfl
      · rw [if_neg supplied, if_neg supplied]
        exact later
    · rw [if_neg captured, Bool.eq_false_iff.2 captured, Bool.false_and,
        if_neg Bool.false_ne_true]
      exact later

end Filling

/-! ## The text of an instance -/

namespace Catalog

def isRoute (catalog : Catalog) : Value → Bool
  | .record cls _ _ _ => (catalog.form? cls).isSome
  | _ => false

/-- The text that a value has in a route, if it is there. An instance of a route class is written
as a route of its own. -/
def textOf? (catalog : Catalog) (value : Value) : Option Text :=
  if value.isAbsent then none
  else if catalog.isRoute value then (catalog.build value).toOption
  else value.routeText.toOption

/-- Whether a value can stand in the place of a capture: it is absent, or it has a text, which the
capture admits if the value is no route. -/
def Fits (catalog : Catalog) (block : Capture) (value : Value) : Prop :=
  value.isAbsent = true ∨
    (catalog.textOf? value).any fun text =>
      catalog.isRoute value || isAllowed false block.allowed text

instance (catalog : Catalog) (block : Capture) (value : Value) :
    Decidable (catalog.Fits block value) :=
  inferInstanceAs (Decidable (_ ∨ _))

theorem contributionOf_of_isAbsent {value : Value} (catalog : Catalog)
    (absent : value.isAbsent = true) :
    contributionOf catalog value = .absent := by
  unfold Value.isAbsent at absent
  split at absent
  · rfl
  · cases absent

theorem contributionOf_of_isRoute {catalog : Catalog} {value : Value} {text : Text}
    (isRoute : catalog.isRoute value = true) (built : catalog.build value = .ok text) :
    contributionOf catalog value = .route text := by
  cases value with
  | record cls shape fields unset =>
    obtain ⟨⟨route, form⟩, found⟩ := Option.isSome_iff_exists.1 isRoute
    unfold build at built
    dsimp only at built
    rw [found] at built
    dsimp only at built
    rw [contributionOf, found]
    dsimp only
    rw [built]
  | _ => cases isRoute

theorem contributionOf_of_routeText {catalog : Catalog} {value : Value} {text : Text}
    (present : value.isAbsent = false) (plain : catalog.isRoute value = false)
    (written : value.routeText = .ok text) :
    contributionOf catalog value = .text text := by
  cases value with
  | scalar scalar =>
    have other : scalar ≠ .none := by
      rintro rfl
      cases present
    rw [contributionOf, if_neg other, written, Written.ofText]
  | member enumeration kind name content => rw [contributionOf, written, Written.ofText]
  | foreign kind shown =>
    cases written
    rw [contributionOf]
  | record cls shape fields unset =>
    have unknown : catalog.form? cls = none :=
      Option.isNone_iff_eq_none.1 (Option.isSome_eq_false_iff.1 plain)
    rw [contributionOf, unknown]
    dsimp only
    rw [written, Written.ofText]

/-- A capture that a fitting value stands for is written as the text of the value, if it is
there. -/
theorem Fits.writeCapture_eq {catalog : Catalog} {filling : Filling} {block : Capture}
    {value : Value} {used next : Nat} (fits : catalog.Fits block value)
    (contributed : filling.contribution block used = .ok (contributionOf catalog value, next)) :
    filling.writeCapture block used =
      match catalog.textOf? value with
      | some text => .ok (text, next)
      | none => .error .absent := by
  unfold Fits textOf? at *
  by_cases absent : value.isAbsent = true
  · rw [if_pos absent]
    rw [contributionOf_of_isAbsent catalog absent] at contributed
    simp [Filling.writeCapture, contributed]
  · have present : value.isAbsent = false := Bool.eq_false_iff.2 absent
    have fine := fits.resolve_left absent
    rw [if_neg absent] at fine ⊢
    by_cases isRoute : catalog.isRoute value = true
    · rw [if_pos isRoute] at fine ⊢
      cases built : catalog.build value with
      | error error =>
        rw [built] at fine
        cases fine
      | ok text =>
        rw [contributionOf_of_isRoute isRoute built] at contributed
        simp [Filling.writeCapture, contributed, Except.toOption]
    · rw [if_neg isRoute] at fine ⊢
      have plain : catalog.isRoute value = false := Bool.eq_false_iff.2 isRoute
      cases written : value.routeText with
      | error error =>
        rw [written] at fine
        cases fine
      | ok text =>
        rw [written, plain] at fine
        rw [contributionOf_of_routeText present plain written] at contributed
        rw [Filling.writeCapture_of_contribution contributed,
          if_pos (by simpa [Except.toOption] using fine)]
        rfl

/-- The text of the value under the name of a capture, if there is one. -/
def textFor? (catalog : Catalog) (values : List (Text × Value)) (block : Capture) : Option Text :=
  (block.name.bind (Mapping.get? values)).bind catalog.textOf?

end Catalog

theorem get?_contributionsOf (catalog : Catalog) (values : List (Text × Value)) (name : Text) :
    Mapping.get? (contributionsOf catalog values) name =
      (Mapping.get? values name).map (contributionOf catalog) := by
  induction values with
  | nil => rfl
  | cons entry rest inductionHypothesis =>
    obtain ⟨other, value⟩ := entry
    rw [contributionsOf, Mapping.get?, Mapping.get?, inductionHypothesis]
    split <;> rfl

/-- By name a capture is written as the text of the value under its name. -/
theorem Filling.writesAs_textFor? {filling : Filling} {catalog : Catalog}
    {values : List (Text × Value)} {block : Capture} {value : Value}
    (layout : filling.layout = .named) (fields : filling.fields = contributionsOf catalog values)
    (found : block.name.bind (Mapping.get? values) = some value) (fits : catalog.Fits block value)
    (used : Nat) :
    filling.WritesAs (catalog.textFor? values) used block := by
  obtain ⟨name, named, under⟩ := Option.bind_eq_some_iff.1 found
  have contributed :
      filling.contribution block used = .ok (contributionOf catalog value, used) := by
    simp [contribution, layout, named, fields, get?_contributionsOf, under]
  unfold WritesAs Catalog.textFor?
  rw [found, Option.bind_some]
  exact fits.writeCapture_eq contributed

/-- No default takes the place of what instances are asked for their fields with, be it declared or
the one of a field for the payload. -/
def RouteClass.AnswersForFields (route : RouteClass) : Prop :=
  ∀ field ∈ route.fields, field.name = "__getattribute__".toList → field.default? = none

instance (route : RouteClass) : Decidable route.AnswersForFields :=
  inferInstanceAs (Decidable (∀ field ∈ route.fields, _))

/-- A missing value is what is complained about, if the instance that lacks it can be shown. -/
theorem BuildError.blame_ofMissing_iff {pattern : Text} {shown : Except Obstacle Text} :
    (BuildError.ofMissing pattern shown).blame = .writing ↔ ∃ text, shown = .ok text := by
  cases shown with
  | ok text => exact ⟨fun _ => ⟨text, rfl⟩, fun _ => rfl⟩
  | error obstacle =>
    constructor
    · intro blame
      cases obstacle <;> cases blame
    · rintro ⟨_, same⟩
      cases same

namespace Catalog

/-- An instance whose fields go by name, with a value that fits in the place of each capture, is
written as the text of its pattern. It is refused just if a capture outside of all groups has no
value; the complaint is about the missing value, if the instance can be shown. -/
theorem build_eq_rendered (statements : List Statement) {cls : ClassRef} {route : RouteClass}
    {form : Form} {shape : Shape} {values : List (Text × Value)} {unset : List Text}
    {catalog : Catalog} (reached : (({} : Module).declareAll statements).1.catalog = catalog)
    (found : catalog.form? cls = some (route, form)) (named : route.layout = .named)
    (answers : route.AnswersForFields)
    (fits :
      ∀ block ∈ form.matcher.pattern.captures,
        ∃ value ∈ block.name.bind (Mapping.get? values), catalog.Fits block value) :
    let value := Value.record cls shape values unset
    let textOf := catalog.textFor? values
    ((∃ error, catalog.build value = .error error ∧ error.blame = .writing) ↔
        (∃ token ∈ form.matcher.pattern.topItems, isSupplied textOf token = false) ∧
          ∃ shown, value.shown = .ok shown) ∧
      catalog.build value =
        if form.matcher.pattern.topItems.all (isSupplied textOf) then
          .ok (rendered textOf form.matcher.pattern)
        else .error (.ofMissing form.matcher.text value.shown) := by
  intro value textOf
  have sound := Module.isSound_of_declareAll reached
  have needed := (sound.of_form? found).1.need_eq_ok_of_default answers
  obtain ⟨besides, builds⟩ := build_eq_write found needed shape values unset
  have writes : ∀ block ∈ form.matcher.pattern.captures,
      Filling.WritesAs ⟨route.layout, contributionsOf catalog values, besides, form.matcher.text⟩
        textOf 0 block := by
    intro block member
    obtain ⟨value, found, fit⟩ := fits block member
    exact Filling.writesAs_textFor? named rfl found fit 0
  have wrote := Filling.write_eq_rendered writes
  have law : catalog.build value =
      if form.matcher.pattern.topItems.all (isSupplied textOf) then
        .ok (rendered textOf form.matcher.pattern)
      else .error (.ofMissing form.matcher.text value.shown) := by
    rw [builds, wrote]
    by_cases supplied : form.matcher.pattern.topItems.all (isSupplied textOf) = true
    · rw [if_pos supplied, if_pos supplied]
    · rw [if_neg supplied, if_neg supplied]
  have lacking : (∃ token ∈ form.matcher.pattern.topItems, isSupplied textOf token = false) ↔
      ¬form.matcher.pattern.topItems.all (isSupplied textOf) = true := by
    simp
  refine ⟨?_, law⟩
  rw [law, lacking]
  by_cases supplied : form.matcher.pattern.topItems.all (isSupplied textOf) = true
  · rw [if_pos supplied]
    simp [supplied]
  · rw [if_neg supplied]
    constructor
    · rintro ⟨error, same, blame⟩
      cases same
      exact ⟨supplied, BuildError.blame_ofMissing_iff.1 blame⟩
    · rintro ⟨_, shown⟩
      exact ⟨_, rfl, BuildError.blame_ofMissing_iff.2 shown⟩

/-- The law at an instance without a value for the group in a group, and at one without a value for
the first capture. -/
theorem build_eq_rendered_nested :
    let fields := [optionalText "a", optionalText "b", optionalText "c"]
    let catalog := (({} : Module).declareAll (strictPage "/{a}(-{b}(.{c}))" fields)).1.catalog
    ∃ written lacking,
      catalog.build written = .ok "/x-y".toList ∧
        ∃ error, catalog.build lacking = .error error ∧ error.blame = .writing := by
  intro fields catalog
  let page : ClassRef := ⟨0, "Page".toList, []⟩
  let values (texts : List Value) := ["a".toList, "b".toList, "c".toList].zip texts
  let x : Value := .scalar (.text "x".toList)
  let y : Value := .scalar (.text "y".toList)
  let textOf (texts : List Value) := catalog.textFor? (values texts)
  obtain ⟨⟨route, form⟩, found, conditions⟩ := (Option.any_eq_true
    (fun (route, form) => decide (route.layout = .named ∧ route.AnswersForFields ∧
      (∀ texts ∈ [[x, y, .absent], [.absent, y, x]],
        ∀ block ∈ form.matcher.pattern.captures,
          ∃ value ∈ block.name.bind (Mapping.get? (values texts)), catalog.Fits block value) ∧
      form.matcher.pattern.topItems.all (isSupplied (textOf [x, y, .absent])) = true ∧
        rendered (textOf [x, y, .absent]) form.matcher.pattern = "/x-y".toList ∧
          (∃ token ∈ form.matcher.pattern.topItems,
            isSupplied (textOf [.absent, y, x]) token = false) ∧
            (Value.record page .record (values [.absent, y, x]) []).shown.toOption.isSome = true))
    (catalog.form? page)).1 (by decide +kernel)
  obtain ⟨named, answers, fits, supplied, text, lacking, shown⟩ := of_decide_eq_true conditions
  have whole := @build_eq_rendered _ _ route form .record _ [] catalog rfl found named answers
    (fits _ List.mem_cons_self)
  have refused := @build_eq_rendered _ _ route form .record _ [] catalog rfl found named answers
    (fits _ (List.mem_cons_of_mem _ List.mem_cons_self))
  refine ⟨_, _, whole.2.trans ?_, refused.1.2 ⟨lacking, ?_⟩⟩
  · rw [if_pos supplied, text]
  · cases known : (Value.record page .record (values [.absent, y, x]) []).shown with
    | error obstacle =>
      rw [known] at shown
      cases shown
    | ok text => exact ⟨text, rfl⟩

/-- Whether an instance is refused with a complaint about writing if it has no value for a capture
outside of groups, and written as the text of its pattern if it has them all. -/
def Renders (catalog : Catalog) (form : Form) (value : Value) (values : List (Text × Value)) :
    Prop :=
  let textOf := catalog.textFor? values
  let complete := form.matcher.pattern.topItems.all (isSupplied textOf)
  match catalog.build value with
  | .ok text => complete = true ∧ text = rendered textOf form.matcher.pattern
  | .error error => complete = false ∧ error.blame = .writing

/-- Whether that is so of all instances of the classes of a module whose values fit the captures. -/
def RendersAll (statements : List Statement) : Prop :=
  let catalog := (({} : Module).declareAll statements).1.catalog
  ∀ cls route form values,
    catalog.form? cls = some (route, form) →
      route.layout = .named →
        (∀ block ∈ form.matcher.pattern.captures,
            ∃ value ∈ block.name.bind (Mapping.get? values), catalog.Fits block value) →
          catalog.Renders form (.record route.cls route.shape values []) values

/-- Writing does not end so if a field with a default takes the place of asking instances for their
fields, or if one takes the place of showing the instance that lacks a value. -/
theorem not_rendersAll :
    let y : ValueExpression := .scalar (.text "y".toList)
    ¬ RendersAll
        (strictPage "/{__getattribute__}"
          [{ name := "__getattribute__".toList, type := .known .text, default := some y }]) ∧
      ¬ RendersAll
        (strictPage "/{a}"
          [optionalText "a",
            { name := "__repr__".toList, type := .known .text, default := some y }]) := by
  have refuted
      (statements : List Statement)
      (values : List (Text × Value))
      (blame : Blame)
      (other : blame ≠ .writing)
      (computed :
        let catalog := (({} : Module).declareAll statements).1.catalog
        ((catalog.form? ⟨0, "Page".toList, []⟩).any fun (route, form) =>
          decide (route.layout = .named ∧
            (∀ block ∈ form.matcher.pattern.captures,
              ∃ value ∈ block.name.bind (Mapping.get? values), catalog.Fits block value) ∧
            (match catalog.build (.record route.cls route.shape values []) with
            | .ok _ => none
            | .error error => some error.blame) = some blame)) = true) :
      ¬ RendersAll statements := by
    intro renders
    obtain ⟨⟨route, form⟩, found, conditions⟩ := (Option.any_eq_true _ _).1 computed
    obtain ⟨named, fits, blamed⟩ := of_decide_eq_true conditions
    have claimed := renders _ route form values found named fits
    unfold Renders at claimed
    split at blamed
    · cases blamed
    · rename_i refused
      rw [refused] at claimed
      exact other ((Option.some.inj blamed).symm.trans claimed.2)
  let x : Value := .scalar (.text "x".toList)
  refine ⟨?_, ?_⟩
  · exact refuted _ [("__getattribute__".toList, x)] .kind (by decide) (by decide +kernel)
  · exact refuted _ [("a".toList, .absent), ("__repr__".toList, x)] .kind (by decide)
      (by decide +kernel)

end Catalog

end TypedRoutes.Table
