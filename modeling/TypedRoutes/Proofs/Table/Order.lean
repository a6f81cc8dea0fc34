import TypedRoutes.Proofs.Table.Rendering

/-!
Contract: what an instance whose fields go by position is written as.

The writer counts the fields that it has used up, and takes the next one for each capture. A group
that is left out gives back the field it has asked for, so the capture behind the group asks for the
same absent field again. Fields are written in their places up to the first absent one; behind it
the writer finds nothing, whatever stands there.

Owns: the text of a pattern by texts in order, and that texts behind an absent one are lost.
-/

set_option autoImplicit false

namespace TypedRoutes.Table

open TypedRoutes.Pattern TypedRoutes.Matching TypedRoutes.Declaration

/-! ## Texts in order -/

/-- Every group has one capture and no group in it. -/
def HasSingleCaptures : Pattern → Prop
  | .nil => True
  | .item _ rest => HasSingleCaptures rest
  | .group inner rest =>
    isFlat inner = true ∧ (Pattern.captures inner).length = 1 ∧ HasSingleCaptures rest

instance hasSingleCapturesDecidable : DecidablePred HasSingleCaptures
  | .nil => .isTrue trivial
  | .item _ rest => hasSingleCapturesDecidable rest
  | .group inner rest =>
    have := hasSingleCapturesDecidable rest
    inferInstanceAs
      (Decidable
        (isFlat inner = true ∧ (Pattern.captures inner).length = 1 ∧ HasSingleCaptures rest))

/-- The text of a pattern by texts for its captures in order: a group is part of it just if the text
for its capture is there, and the text for a capture outside of groups has to be. -/
def spelledInOrder : Pattern → List (Option Text) → Option Text
  | .nil, _ => some []
  | .item token rest, texts =>
    if token.capture?.isSome then
      texts.head?.join.bind fun text =>
        (spelledInOrder rest texts.tail).map (tokenText (fun _ => some text) token ++ ·)
    else (spelledInOrder rest texts).map (tokenText (fun _ => none) token ++ ·)
  | .group inner rest, texts =>
    let own := texts.head?.join.elim [] fun text => rendered (fun _ => some text) inner
    (spelledInOrder rest texts.tail).map (own ++ ·)

/-- The texts before the first that is not there, and none behind them. -/
def upToAbsent : List (Option Text) → List (Option Text)
  | [] => []
  | some text :: rest => some text :: upToAbsent rest
  | none :: rest => none :: rest.map fun _ => none

/-- Nothing is lost where no text stands behind one that is not there. -/
theorem upToAbsent_eq_self {texts : List (Option Text)}
    (gapless : texts.Pairwise fun before after => after.isSome = true → before.isSome = true) :
    upToAbsent texts = texts := by
  induction texts with
  | nil => rfl
  | cons first rest inductionHypothesis =>
    obtain ⟨before, later⟩ := List.pairwise_cons.1 gapless
    cases first with
    | some text => rw [upToAbsent, inductionHypothesis later]
    | none =>
      have absent : rest.map (fun _ => none) = rest := by
        refine (List.map_congr_left fun text member => ?_).trans (List.map_id rest)
        cases text with
        | none => rfl
        | some text => cases before _ member rfl
      rw [upToAbsent, absent]

theorem eq_none_of_mem_upToAbsent {rest : List (Option Text)} :
    ∀ text ∈ upToAbsent (none :: rest), text = none := by
  intro text member
  rcases List.mem_cons.1 member with rfl | inside
  · rfl
  · obtain ⟨_, _, rfl⟩ := List.mem_map.1 inside
    rfl

theorem captures_eq_nil_iff {pattern : Pattern} :
    Pattern.captures pattern = [] ↔ ∀ token ∈ pattern.flatten, token.capture? = none := by
  rw [Pattern.captures, List.filterMap_eq_nil_iff]

theorem any_capture_of_mem {pattern : Pattern} {block : Capture}
    (member : block ∈ Pattern.captures pattern) :
    (pattern.any fun token => token.capture?.isSome) = true := by
  obtain ⟨token, inside, own⟩ := List.mem_filterMap.1 member
  exact List.any_eq_true.2 ⟨token, inside, by rw [own]; rfl⟩

/-- A group with a capture and no group in it is left out where no text is there. -/
theorem isIncluded_absent {inner : Pattern} (flat : isFlat inner = true)
    (single : (Pattern.captures inner).length = 1) :
    inner.topItems.all (isSupplied fun _ => none) = false := by
  rw [topItems_eq_flatten flat, Bool.eq_false_iff]
  intro supplied
  have uncaptured : Pattern.captures inner = [] := by
    rw [captures_eq_nil_iff]
    intro token member
    have fine := List.all_eq_true.1 supplied token member
    cases known : token.capture? with
    | none => rfl
    | some block => simp [isSupplied, known] at fine
  rw [uncaptured] at single
  cases single

theorem head?_join_eq_none {texts : List (Option Text)} (absent : ∀ text ∈ texts, text = none) :
    texts.head?.join = none := by
  cases texts with
  | nil => rfl
  | cons text rest => exact absent text List.mem_cons_self

/-- Without a text, what is there of a pattern is what stands outside of groups, if it has no
capture. -/
theorem spelledInOrder_absent {pattern : Pattern} {texts : List (Option Text)}
    (single : HasSingleCaptures pattern) (absent : ∀ text ∈ texts, text = none) :
    spelledInOrder pattern texts =
      if pattern.topItems.all (isSupplied fun _ => none) then
        some (rendered (fun _ => none) pattern)
      else none := by
  have next := head?_join_eq_none absent
  induction pattern generalizing texts with
  | nil => rfl
  | item token rest inductionHypothesis =>
    rw [spelledInOrder, Grouped.topItems, List.all_cons, rendered, next]
    by_cases captured : token.capture?.isSome = true
    · have unsupplied : isSupplied (fun _ => none) token = false := by
        obtain ⟨block, own⟩ := Option.isSome_iff_exists.1 captured
        simp [isSupplied, own]
      rw [if_pos captured, unsupplied, Bool.false_and, if_neg Bool.false_ne_true]
      rfl
    · have supplied : isSupplied (fun _ => none) token = true := by
        rw [isSupplied, Option.not_isSome_iff_eq_none.1 captured]
        rfl
      rw [if_neg captured, supplied, Bool.true_and, inductionHypothesis single absent next]
      split <;> rfl
  | group inner rest _ inductionHypothesis =>
    obtain ⟨flat, one, later⟩ := single
    have left : isIncluded (fun _ => none) inner = false := by
      rw [isIncluded, isIncluded_absent flat one, Bool.and_false]
    have others : ∀ text ∈ texts.tail, text = none := fun text member =>
      absent text (List.mem_of_mem_tail member)
    rw [Grouped.topItems, rendered, left, if_neg Bool.false_ne_true, spelledInOrder, next,
      inductionHypothesis later others (head?_join_eq_none others)]
    split <;> rfl

/-! ## Writing in order -/

namespace Filling

variable {filling : Filling} {used next : Nat}

/-- A token is written with the text of its capture, whatever that uses up. -/
theorem writeToken_of_writeCapture {token : Token} {block : Capture} {text : Text}
    (own : token.capture? = some block)
    (wrote : filling.writeCapture block used = .ok (text, next)) :
    filling.writeToken token used = .ok (tokenText (fun _ => some text) token, next) := by
  cases token with
  | capture other =>
    cases own
    exact wrote
  | pair key value =>
    cases value with
    | literal content => cases own
    | capture other =>
      cases own
      rw [writeToken, wrote]
      rfl
  | _ => cases own

theorem writeToken_of_uncaptured {token : Token} (textOf : Capture → Option Text)
    (own : token.capture? = none) (used : Nat) :
    filling.writeToken token used = .ok (tokenText textOf token, used) := by
  have writes : ∀ block ∈ token.capture?, filling.WritesAs textOf used block := by
    rw [own]
    nofun
  rw [writeToken_eq_tokenText writes, isSupplied, own]
  rfl

theorem write_of_uncaptured {pattern : Pattern} (textOf : Capture → Option Text)
    (flat : isFlat pattern = true) (uncaptured : Pattern.captures pattern = []) (used : Nat) :
    filling.write pattern used = .ok (rendered textOf pattern, used) := by
  have supplied : pattern.topItems.all (isSupplied textOf) = true := by
    rw [topItems_eq_flatten flat, List.all_eq_true]
    intro token member
    rw [isSupplied, captures_eq_nil_iff.1 uncaptured token member]
    rfl
  have writes : ∀ block ∈ Pattern.captures pattern, filling.WritesAs textOf used block := by
    rw [uncaptured]
    exact List.forall_mem_nil _
  rw [write_eq_rendered writes, if_pos supplied]

theorem write_of_single {inner : Pattern} {block : Capture} {text : Text}
    (flat : isFlat inner = true) (single : Pattern.captures inner = [block])
    (wrote : filling.writeCapture block used = .ok (text, next)) :
    filling.write inner used = .ok (rendered (fun _ => some text) inner, next) := by
  induction inner with
  | nil => cases single
  | group within rest => cases flat
  | item token rest inductionHypothesis =>
    rw [captures_item] at single
    cases own : token.capture? with
    | none =>
      rw [own] at single
      rw [write, writeToken_of_uncaptured (fun _ => some text) own]
      dsimp only
      rw [inductionHypothesis flat single]
      rfl
    | some other =>
      rw [own] at single
      obtain ⟨rfl, uncaptured⟩ := List.cons.inj single
      rw [write, writeToken_of_writeCapture own wrote]
      dsimp only
      have flat : isFlat rest = true := flat
      rw [write_of_uncaptured (fun _ => some text) flat uncaptured]
      rfl

/-- What is written, or that a value is absent. -/
def orAbsent : Option Text → Except Halt Text
  | some text => .ok text
  | none => .error .absent

theorem orAbsent_map (front : Text) (written : Option Text) :
    orAbsent (written.map (front ++ ·)) = (orAbsent written).map (front ++ ·) := by
  cases written <;> rfl

/-- What is written of a token stands in front of what is written behind it. -/
theorem map_write_item {token : Token} {text : Text}
    (wrote : filling.writeToken token used = .ok (text, next)) (rest : Pattern) :
    (filling.write (.item token rest) used).map (·.1) =
      ((filling.write rest next).map (·.1)).map (text ++ ·) := by
  rw [write, wrote]
  dsimp only
  cases filling.write rest next <;> rfl

theorem map_write_group {inner : Pattern} {text : Text}
    (captured : (inner.any fun token => token.capture?.isSome) = true)
    (wrote : filling.write inner used = .ok (text, next)) (rest : Pattern) :
    (filling.write (.group inner rest) used).map (·.1) =
      ((filling.write rest next).map (·.1)).map (text ++ ·) := by
  rw [write, if_pos captured, wrote]
  dsimp only
  cases filling.write rest next <;> rfl

/-- Where the field to be used up next is absent, nothing more comes of any field. -/
theorem map_write_of_absent {pattern : Pattern} {texts : List (Option Text)}
    (single : HasSingleCaptures pattern)
    (stuck : ∀ block, filling.writeCapture block used = .error .absent)
    (absent : ∀ text ∈ texts, text = none) :
    (filling.write pattern used).map (·.1) = orAbsent (spelledInOrder pattern texts) := by
  have writes : ∀ block ∈ Pattern.captures pattern,
      filling.WritesAs (fun _ => none) used block := fun block _ => stuck block
  rw [spelledInOrder_absent single absent, write_eq_rendered writes]
  split <;> rfl

/-- The next field is the one that any capture is written with, and those behind it are left. -/
theorem contribution_of_drop {catalog : Catalog} {name : Text} {value : Value}
    {left : List (Text × Value)} (positional : filling.layout = .positional)
    (unused : filling.fields.drop used = contributionsOf catalog ((name, value) :: left)) :
    (∀ block, filling.contribution block used = .ok (contributionOf catalog value, used + 1)) ∧
      filling.fields.drop (used + 1) = contributionsOf catalog left := by
  rw [contributionsOf] at unused
  have found : filling.fields[used]? = some (name, contributionOf catalog value) := by
    rw [← List.head?_drop, unused]
    rfl
  refine ⟨fun block => by simp [contribution, positional, found], ?_⟩
  rw [← List.drop_drop, unused]
  rfl

/-- The next field is absent, and stops the writer at whatever capture, or it is written for a
capture that it fits. -/
theorem writeCapture_of_drop {catalog : Catalog} {block : Capture} {name : Text} {value : Value}
    {left : List (Text × Value)} (positional : filling.layout = .positional)
    (unused : filling.fields.drop used = contributionsOf catalog ((name, value) :: left))
    (fits : catalog.Fits block value) :
    (catalog.textOf? value = none ∧ ∀ other, filling.writeCapture other used = .error .absent) ∨
      ∃ text, catalog.textOf? value = some text ∧
        filling.writeCapture block used = .ok (text, used + 1) := by
  obtain ⟨contributed, _⟩ := contribution_of_drop positional unused
  have wrote := fits.writeCapture_eq (contributed block)
  cases known : catalog.textOf? value with
  | some text =>
    rw [known] at wrote
    exact .inr ⟨text, rfl, wrote⟩
  | none =>
    refine .inl ⟨rfl, fun other => ?_⟩
    have absent : value.isAbsent = true := by
      refine fits.resolve_right ?_
      rw [known]
      exact Bool.false_ne_true
    have nothing := contributed other
    rw [Catalog.contributionOf_of_isAbsent catalog absent] at nothing
    rw [writeCapture, nothing]

/-- Fields go by position: they are written in their places up to the first that is absent, and
those behind it are lost. -/
theorem map_write_eq_spelledInOrder {catalog : Catalog} {pattern : Pattern}
    {left : List (Text × Value)} (positional : filling.layout = .positional)
    (single : HasSingleCaptures pattern)
    (unused : filling.fields.drop used = contributionsOf catalog left)
    (fits : List.Forall₂ (fun block entry => catalog.Fits block entry.2)
      (Pattern.captures pattern) left) :
    (filling.write pattern used).map (·.1) =
      orAbsent (spelledInOrder pattern
        (upToAbsent (left.map fun entry => catalog.textOf? entry.2))) := by
  induction pattern generalizing used left with
  | nil => rfl
  | item token rest inductionHypothesis =>
    rw [captures_item] at fits
    cases own : token.capture? with
    | none =>
      rw [own] at fits
      rw [map_write_item (writeToken_of_uncaptured (fun _ => none) own used),
        inductionHypothesis single unused fits, spelledInOrder, own, if_neg (by simp), orAbsent_map]
    | some block =>
      rw [own] at fits
      obtain _ | ⟨fit, later⟩ := fits
      rename_i entry more
      rcases writeCapture_of_drop positional unused fit with ⟨absent, stuck⟩ | ⟨text, known, wrote⟩
      · rw [List.map_cons, absent]
        exact map_write_of_absent single stuck eq_none_of_mem_upToAbsent
      · have further := (contribution_of_drop positional unused).2
        rw [map_write_item (writeToken_of_writeCapture own wrote),
          inductionHypothesis single further later, List.map_cons, known, upToAbsent,
          spelledInOrder, own, if_pos Option.isSome_some, ← orAbsent_map]
        rfl
  | group inner rest _ inductionHypothesis =>
    obtain ⟨flat, one, others⟩ := single
    obtain ⟨block, only⟩ := List.length_eq_one_iff.1 one
    rw [captures_group, only] at fits
    obtain _ | ⟨fit, later⟩ := fits
    rename_i entry more
    rcases writeCapture_of_drop positional unused fit with ⟨absent, stuck⟩ | ⟨text, known, wrote⟩
    · rw [List.map_cons, absent]
      exact map_write_of_absent ⟨flat, one, others⟩ stuck eq_none_of_mem_upToAbsent
    · have member : block ∈ Pattern.captures inner := by
        rw [only]
        exact List.mem_singleton_self block
      have captured := any_capture_of_mem member
      have further := (contribution_of_drop positional unused).2
      rw [map_write_group captured (write_of_single flat only wrote),
        inductionHypothesis others further later, List.map_cons, known, upToAbsent,
        spelledInOrder, ← orAbsent_map]
      rfl

end Filling

/-! ## Instances -/

theorem RouteClass.IsDeclaredAs.need_eq_ok_of_positional {route : RouteClass} {number : Nat}
    (declared : route.IsDeclaredAs number) (positional : route.layout = .positional)
    (operations : List String) :
    route.cls.need operations = .ok () := by
  have tuple : route.shape ≠ .record := by
    intro record
    unfold layout at positional
    rw [record] at positional
    split at positional <;> cases positional
  have kept (operation : String) : route.cls.replacement? operation = none := by
    rw [ClassRef.replacement?, declared.replaced, if_neg tuple]
    rfl
  have none : operations.findSome? route.cls.replacement? = none :=
    List.findSome?_eq_none_iff.2 fun operation _ => kept operation
  rw [ClassRef.need, none]

namespace Catalog

/-- An instance whose fields go by position, one for each capture of a pattern whose groups have one
capture each, is written as the text of its pattern by the fields up to the first absent one. If no
field behind an absent one is there, that is the text by all of its fields. -/
theorem build_eq_spelledInOrder (statements : List Statement) {cls : ClassRef} {route : RouteClass}
    {form : Form} {shape : Shape} {values : List (Text × Value)} {unset : List Text}
    {catalog : Catalog} (reached : (({} : Module).declareAll statements).1.catalog = catalog)
    (found : catalog.form? cls = some (route, form)) (positional : route.layout = .positional)
    (single : HasSingleCaptures form.matcher.pattern)
    (fits : List.Forall₂ (fun block entry => catalog.Fits block entry.2)
      (Pattern.captures form.matcher.pattern) values) :
    let value := Value.record cls shape values unset
    let texts := values.map fun entry => catalog.textOf? entry.2
    (catalog.build value =
        match spelledInOrder form.matcher.pattern (upToAbsent texts) with
        | some text => .ok text
        | none => .error (.ofMissing form.matcher.text value.shown)) ∧
      ((texts.Pairwise fun before after => after.isSome = true → before.isSome = true) →
        ∀ text, spelledInOrder form.matcher.pattern texts = some text →
          catalog.build value = .ok text) := by
  intro value texts
  have sound := Module.isSound_of_declareAll reached
  have needed := (sound.of_form? found).1.need_eq_ok_of_positional positional ["__getattribute__"]
  obtain ⟨besides, builds⟩ := build_eq_write found needed shape values unset
  have unused :
      (Filling.fields
          ⟨route.layout, contributionsOf catalog values, besides, form.matcher.text⟩).drop 0 =
        contributionsOf catalog values := List.drop_zero
  have wrote := Filling.map_write_eq_spelledInOrder (by exact positional) single unused fits
  have law : catalog.build value =
      match spelledInOrder form.matcher.pattern (upToAbsent texts) with
      | some text => .ok text
      | none => .error (.ofMissing form.matcher.text value.shown) := by
    rw [builds]
    generalize Filling.write _ form.matcher.pattern 0 = result at wrote ⊢
    generalize spelledInOrder form.matcher.pattern _ = spelled at wrote ⊢
    cases result <;> cases spelled <;> cases wrote <;> rfl
  refine ⟨law, fun gapless text spelled => ?_⟩
  rw [law, upToAbsent_eq_self gapless, spelled]

/-- A module with one class, a tuple of texts that can be absent. -/
def tuplePage (pattern : String) (names : List String) : List Statement :=
  [.route
    { name := "Page".toList
      pattern := some pattern.toList
      settings := .settings ⟨true, true, false⟩
      shape := .tuple
      fields := names.map optionalText }]

/-- The law at two groups: the second value is written behind the first, and lost without it. -/
theorem build_eq_spelledInOrder_twice :
    let catalog := (({} : Module).declareAll (tuplePage "(/{a})(/{b})" ["a", "b"])).1.catalog
    let x : Value := .scalar (.text "x".toList)
    let instance' (a b : Value) : Value :=
      .record ⟨0, "Page".toList, []⟩ .tuple [("a".toList, a), ("b".toList, b)] []
    catalog.build (instance' x .absent) = .ok "/x".toList ∧
      catalog.build (instance' .absent x) = .ok [] := by
  intro catalog x instance'
  let values (a b : Value) := [("a".toList, a), ("b".toList, b)]
  let texts (a b : Value) := (values a b).map fun entry => catalog.textOf? entry.2
  obtain ⟨⟨route, form⟩, found, conditions⟩ := (Option.any_eq_true
    (fun (route, form) => decide (route.layout = .positional ∧
      HasSingleCaptures form.matcher.pattern ∧
        List.Forall₂ (fun block entry => catalog.Fits block entry.2)
          (Pattern.captures form.matcher.pattern) (values x .absent) ∧
        List.Forall₂ (fun block entry => catalog.Fits block entry.2)
          (Pattern.captures form.matcher.pattern) (values .absent x) ∧
        spelledInOrder form.matcher.pattern (texts x .absent) = some "/x".toList ∧
          spelledInOrder form.matcher.pattern (upToAbsent (texts .absent x)) = some []))
    (catalog.form? ⟨0, "Page".toList, []⟩)).1 (by decide +kernel)
  obtain ⟨positional, single, first, second, written, lost⟩ := of_decide_eq_true conditions
  have behind := @build_eq_spelledInOrder _ _ route form .tuple _ [] catalog rfl found positional
    single first
  have alone := @build_eq_spelledInOrder _ _ route form .tuple _ [] catalog rfl found positional
    single second
  refine ⟨behind.2 (by decide +kernel) _ written, alone.1.trans ?_⟩
  rw [lost]

/-- Whether the instances of the tuples of a module are written with all their values, if these fit
the captures and none is missing outside of groups. -/
def SpellsAll (statements : List Statement) : Prop :=
  let catalog := (({} : Module).declareAll statements).1.catalog
  ∀ cls route form values text,
    catalog.form? cls = some (route, form) →
      route.layout = .positional →
        HasSingleCaptures form.matcher.pattern →
          List.Forall₂ (fun block entry => catalog.Fits block entry.2)
              (Pattern.captures form.matcher.pattern) values →
            spelledInOrder form.matcher.pattern
                (values.map fun entry => catalog.textOf? entry.2) = some text →
              catalog.build (.record route.cls route.shape values []) = .ok text

/-- A value behind an absent one is dropped in a group, and missed outside of groups. -/
theorem not_spellsAll :
    ¬ SpellsAll (tuplePage "(/{a})(/{b})" ["a", "b"]) ∧
      ¬ SpellsAll (tuplePage "/a(/{a})?k={b}" ["a", "b"]) := by
  have refuted
      (statements : List Statement)
      (text : Text)
      (computed :
        let catalog := (({} : Module).declareAll statements).1.catalog
        let values := [("a".toList, .absent), ("b".toList, .scalar (.text "x".toList))]
        ((catalog.form? ⟨0, "Page".toList, []⟩).any fun (route, form) =>
          decide (route.layout = .positional ∧ HasSingleCaptures form.matcher.pattern ∧
            List.Forall₂ (fun block entry => catalog.Fits block entry.2)
              (Pattern.captures form.matcher.pattern) values ∧
            spelledInOrder form.matcher.pattern
                (values.map fun entry => catalog.textOf? entry.2) = some text ∧
              (catalog.build (.record route.cls route.shape values [])).toOption ≠
                some text)) = true) :
      ¬ SpellsAll statements := by
    intro spells
    obtain ⟨⟨route, form⟩, found, conditions⟩ := (Option.any_eq_true _ _).1 computed
    obtain ⟨positional, single, fits, spelled, different⟩ := of_decide_eq_true conditions
    have claimed := spells _ route form _ text found positional single fits spelled
    rw [claimed] at different
    exact different rfl
  exact ⟨refuted _ "/x".toList (by decide +kernel), refuted _ "/a?k=x".toList (by decide +kernel)⟩

end Catalog

end TypedRoutes.Table
