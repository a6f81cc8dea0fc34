import TypedRoutes.Proofs.Declaration.Variants
import TypedRoutes.Proofs.Matching.Attribution
import TypedRoutes.Proofs.Program.Assembly
import TypedRoutes.Proofs.Table.Binding

/-!
Contract: whether a match has a text for each field of a tuple that needs one.

A tuple is filled by place: the first field takes the first text, whether it needs one or not. What
is compared when the class is declared are two counts, of fields that need a text and of texts that
every match has. These counts are all that matters, unless a field that needs no text stands before
one that does. Such a field may be absent and has no value of its own; it takes a text away.

Owns: how many texts a tuple needs, and that the tuples of a module have the counts they should.
Does not own: which texts a field takes.
-/

set_option autoImplicit false

namespace TypedRoutes.Table

open TypedRoutes.Matching

variable
  {nested : ClassRef → Option Resolver}
  {produce : Producer}
  {fields : List Field}
  {pairs : List (Field × Option Text)}

/-! ## Texts by place -/

def ValuesComeLast (fields : List Field) : Prop :=
  fields.Pairwise fun earlier later => earlier.hasOwnValue = true → later.hasOwnValue = true

def AreSupplied (pairs : List (Field × Option Text)) : Prop :=
  ∀ pair ∈ pairs, pair.1.isRequired = true → pair.2.isSome = true

/-- The number of texts up to the last field that needs one. -/
def demandOf : List Field → Nat
  | [] => 0
  | field :: rest => if (field :: rest).any (·.isRequired) then demandOf rest + 1 else 0

/-- The fields that need no text and stand before one that does. -/
def passedOver : List Field → List Field
  | [] => []
  | field :: rest =>
    if !field.isRequired && rest.any (·.isRequired) then field :: passedOver rest
    else passedOver rest

theorem demandOf_of_any {field : Field} {rest : List Field}
    (needed : (field :: rest).any (·.isRequired) = true) :
    demandOf (field :: rest) = demandOf rest + 1 :=
  if_pos needed

theorem demandOf_eq_zero (unneeded : fields.any (·.isRequired) = false) : demandOf fields = 0 := by
  cases fields with
  | nil => rfl
  | cons field rest => rw [demandOf, unneeded, if_neg Bool.false_ne_true]

theorem passedOver_eq_nil (unneeded : fields.any (·.isRequired) = false) :
    passedOver fields = [] := by
  induction fields with
  | nil => rfl
  | cons field rest inductionHypothesis =>
    have others : rest.any (·.isRequired) = false := (Bool.or_eq_false_iff.1 unneeded).2
    rw [passedOver, others, Bool.and_false, if_neg Bool.false_ne_true, inductionHypothesis others]

theorem areSupplied_pairInOrder_nil_iff :
    AreSupplied (pairInOrder fields []) ↔ fields.any (·.isRequired) = false := by
  induction fields with
  | nil => simp [pairInOrder, AreSupplied]
  | cons field rest inductionHypothesis =>
    rw [List.any_cons, Bool.or_eq_false_iff, ← inductionHypothesis]
    simp [pairInOrder, AreSupplied]

/-- Fields in order are supplied if there are texts up to the last one that needs a text. -/
theorem areSupplied_pairInOrder_iff {texts : List Text} :
    AreSupplied (pairInOrder fields texts) ↔ demandOf fields ≤ texts.length := by
  induction fields generalizing texts with
  | nil => simp [pairInOrder, AreSupplied, demandOf]
  | cons field rest inductionHypothesis =>
    cases needed : (field :: rest).any (·.isRequired) with
    | false =>
      rw [demandOf_eq_zero needed]
      refine ⟨fun _ => Nat.zero_le _, fun _ pair member required => ?_⟩
      have inside : pair.1 ∈ field :: rest :=
        map_fst_pairInOrder (field :: rest) texts ▸ List.mem_map_of_mem member
      exact absurd required (List.any_eq_false.1 needed pair.1 inside)
    | true =>
      rw [demandOf_of_any needed]
      cases texts with
      | nil => simp [areSupplied_pairInOrder_nil_iff, needed]
      | cons text texts =>
        have later : AreSupplied (pairInOrder (field :: rest) (text :: texts)) ↔
            AreSupplied (pairInOrder rest texts) := by
          simp [pairInOrder, AreSupplied]
        rw [later, inductionHypothesis, List.length_cons, Nat.add_le_add_iff_right]

/-- A demand is for the fields that need a text, and for those that they stand behind. -/
theorem demandOf_eq (fields : List Field) :
    demandOf fields = (fields.filter (·.isRequired)).length + (passedOver fields).length := by
  induction fields with
  | nil => rfl
  | cons field rest inductionHypothesis =>
    cases needed : (field :: rest).any (·.isRequired) with
    | false =>
      have unneeded : (field :: rest).filter (·.isRequired) = [] := by
        rw [List.filter_eq_nil_iff]
        exact List.any_eq_false.1 needed
      rw [demandOf_eq_zero needed, passedOver_eq_nil needed, unneeded]
      rfl
    | true =>
      rw [demandOf_of_any needed, inductionHypothesis, passedOver]
      cases required : field.isRequired with
      | true =>
        rw [List.filter_cons, required, if_pos rfl, List.length_cons, Bool.not_true,
          Bool.false_and, if_neg Bool.false_ne_true]
        omega
      | false =>
        have later : rest.any (·.isRequired) = true := by
          rwa [List.any_cons, required, Bool.false_or] at needed
        rw [List.filter_cons, required, if_neg Bool.false_ne_true, later, Bool.not_false,
          Bool.true_and, if_pos rfl, List.length_cons]
        omega

/-- Where fields with values of their own come last, what is passed over may be absent and has no
such value. -/
theorem of_mem_passedOver (ordered : ValuesComeLast fields) :
    ∀ field ∈ passedOver fields, field.isOptional = true ∧ field.hasOwnValue = false := by
  induction fields with
  | nil => nofun
  | cons field rest inductionHypothesis =>
    obtain ⟨before, others⟩ := List.pairwise_cons.1 ordered
    rw [passedOver]
    split
    · rename_i passed
      rw [Bool.and_eq_true, Bool.not_eq_true'] at passed
      obtain ⟨unneeded, behind⟩ := passed
      obtain ⟨later, inside, needed⟩ := List.any_eq_true.1 behind
      refine List.forall_mem_cons.2 ⟨?_, inductionHypothesis others⟩
      have valueless : later.hasOwnValue = false := by
        cases own : later.hasOwnValue with
        | false => rfl
        | true => simp [Field.isRequired, own] at needed
      have plain : field.hasOwnValue = false := by
        rw [Bool.eq_false_iff]
        intro own
        rw [before later inside own] at valueless
        cases valueless
      have payload : field.isState = false := by
        cases state : field.isState with
        | false => rfl
        | true => simp [Field.hasOwnValue, Field.default?, state] at plain
      refine ⟨?_, plain⟩
      simpa [Field.isRequired, plain, payload] using unneeded
    · exact inductionHypothesis others

/-! ## Attempts -/

/-- A field comes to nothing only if it has a text or needs one. -/
theorem isSome_or_isRequired_of_fillField {field : Field} {captured : Option Text}
    {slot : Slot Value}
    (nothing : (fillField nested produce field captured slot).result = .ok none) :
    captured.isSome = true ∨ field.isRequired = true := by
  unfold fillField at nothing
  split at nothing
  · cases nothing
  · cases captured with
    | some text => exact .inl rfl
    | none =>
      right
      by_contra optional
      rw [Bool.not_eq_true, Field.isRequired_eq_false_iff produce] at optional
      obtain ⟨fallback, has⟩ := Option.isSome_iff_exists.1 optional
      rw [Field.withoutText, has] at nothing
      cases fallback <;> cases nothing

theorem result_fillField_of_required {field : Field} (required : field.isRequired = true)
    (slot : Slot Value) :
    (fillField nested produce field none slot).result = .ok none := by
  have lacking : field.fallback? produce = none := by
    by_contra has
    rw [← Ne, Option.ne_none_iff_isSome, ← Field.isRequired_eq_false_iff] at has
    rw [has] at required
    cases required
  have payload : field.isState = false := by
    cases state : field.isState with
    | false => rfl
    | true => simp [Field.isRequired, state] at required
  unfold fillField
  rw [payload, if_neg Bool.false_ne_true]
  dsimp only
  rw [Field.withoutText, lacking]

/-- An attempt that ends at a field has a text for it, or needs one. -/
theorem exists_pair_of_fill {slot : Slot Value} {name : Text}
    (ended : (fill nested produce pairs slot).result = .error (.field name)) :
    ∃ pair ∈ pairs, pair.1.name = name ∧ (pair.2.isSome = true ∨ pair.1.isRequired = true) := by
  induction pairs generalizing slot with
  | nil => cases ended
  | cons pair rest inductionHypothesis =>
    unfold fill at ended
    dsimp only at ended
    split at ended
    · cases ended
    · rename_i nothing
      cases ended
      exact ⟨pair, List.mem_cons_self, rfl, isSome_or_isRequired_of_fillField nothing⟩
    · rw [map_eq_error_iff] at ended
      obtain ⟨other, inside, found⟩ := inductionHypothesis ended
      exact ⟨other, List.mem_cons_of_mem _ inside, found⟩

theorem areSupplied_of_fill {slot : Slot Value} {values : List (Text × Value)}
    (filled : (fill nested produce pairs slot).result = .ok values) :
    AreSupplied pairs := by
  induction pairs generalizing slot values with
  | nil => nofun
  | cons pair rest inductionHypothesis =>
    unfold fill at filled
    dsimp only at filled
    split at filled
    · cases filled
    · cases filled
    · rename_i first
      obtain ⟨others, further, _⟩ := map_eq_ok_iff.1 filled
      refine List.forall_mem_cons.2 ⟨fun required => ?_, inductionHypothesis further⟩
      obtain ⟨field, captured⟩ := pair
      cases captured with
      | some text => rfl
      | none =>
        rw [result_fillField_of_required required] at first
        cases first

/-! ## Tuples -/

def RouteClass.needed (route : RouteClass) : List Field :=
  route.arguments.filter (·.isRequired)

/-- A class whose counts fit. The fields with values of their own come last, and every match has as
many texts as there are fields that need one. -/
structure Variant.IsCounted (variant : Variant) : Prop where
  sound : variant.IsSound
  ordered : variant.route.layout = .positional → ValuesComeLast variant.route.arguments
  counted : variant.route.layout = .positional →
    variant.route.needed.length ≤ variant.matcher.captureCount

/-- How far the texts of a match go for the fields of a tuple. -/
structure Variant.FillsInOrder (variant : Variant) (captures : Captures) : Prop where
  /-- What stands before a field that needs a text without needing one itself may be absent, and
  has no value of its own. -/
  passed : ∀ field ∈ passedOver variant.route.arguments,
    field.isOptional = true ∧ field.hasOwnValue = false
  counted : variant.route.needed.length ≤ variant.matcher.captureCount
  delivered : variant.matcher.captureCount ≤ captures.positional.length
  /-- Each field that needs a text has one if the texts are enough for these fields and for those
  that are passed over. -/
  supplied_iff :
    AreSupplied (variant.route.captured captures) ↔
      variant.route.needed.length + (passedOver variant.route.arguments).length ≤
        captures.positional.length
  /-- Then an attempt that ends at a field has had a text for it. -/
  ends : AreSupplied (variant.route.captured captures) →
    ∀ nested produce slot name,
      (fill nested produce (variant.route.captured captures) slot).result = .error (.field name) →
        ∃ field text, (field, some text) ∈ variant.route.captured captures ∧ field.name = name
  /-- Else no attempt fills all fields. -/
  unfilled : ¬ AreSupplied (variant.route.captured captures) →
    ∀ nested produce slot values,
      (fill nested produce (variant.route.captured captures) slot).result ≠ .ok values

theorem RouteClass.shape_of_positional {route : RouteClass}
    (positional : route.layout = .positional) :
    route.shape = .tuple := by
  unfold layout at positional
  split at positional
  · cases positional
  · split at positional
    · cases positional
    · assumption
    · cases positional

/-- The texts of a match go as far as the counts of its class say. -/
theorem Variant.IsCounted.fillsInOrder {variant : Variant} {text : Text} {captures : Captures}
    (fits : variant.IsCounted) (positional : variant.route.layout = .positional)
    (matched : variant.matcher.match? text = some captures) :
    variant.FillsInOrder captures := by
  have byPlace : variant.route.captured captures =
      pairInOrder variant.route.arguments captures.positional := by
    rw [RouteClass.captured, positional]
  refine
    { passed := of_mem_passedOver (fits.ordered positional)
      counted := fits.counted positional
      delivered := Matcher.captureCount_le_length (.inl matched)
      supplied_iff := ?_
      ends := ?_
      unfilled := fun unsupplied nested produce slot values filled =>
        unsupplied (areSupplied_of_fill filled) }
  · rw [byPlace, areSupplied_pairInOrder_iff, demandOf_eq]
    rfl
  · intro supplied nested produce slot name ended
    obtain ⟨⟨field, captured⟩, member, named, reason⟩ := exists_pair_of_fill ended
    have has : captured.isSome = true := reason.elim id (supplied _ member)
    obtain ⟨text, rfl⟩ := Option.isSome_iff_exists.1 has
    exact ⟨field, text, member, named⟩

end TypedRoutes.Table

namespace TypedRoutes.Matching

open TypedRoutes.Pattern TypedRoutes.Program

/-- The captures that every match fills are those of the pattern outside of groups. -/
theorem Matcher.captureCount_of_compile {matcher : Matcher}
    (compiled : Matcher.compile matcher.text matcher.settings = .ok matcher) :
    matcher.captureCount = (matcher.pattern.topItems.filterMap Token.capture?).length := by
  obtain ⟨pattern, _, same⟩ := map_eq_ok_iff.1 compiled
  rw [← same]
  exact congrArg List.length (topCaptures_assemble _ _ _ pattern)

end TypedRoutes.Matching

namespace TypedRoutes.Declaration

open TypedRoutes.Table TypedRoutes.Matching

theorem pairwise_of_outOfOrder? {counts : Field → Bool} {fields : List Field}
    (fine : outOfOrder? counts fields = none) :
    fields.Pairwise fun earlier later => counts earlier = true → counts later = true := by
  have counting : ∀ field ∈ fields.dropWhile (!counts ·), counts field = true := by
    simpa [outOfOrder?] using fine
  have others : ∀ field ∈ fields.takeWhile (!counts ·), counts field = false := by
    intro field member
    simpa using List.all_eq_true.1 List.all_takeWhile field member
  rw [← List.takeWhile_append_dropWhile (p := (!counts ·)) (l := fields), List.pairwise_append]
  refine ⟨?_, ?_, fun earlier before later _ counted => ?_⟩
  · refine List.pairwise_of_forall_mem_list fun earlier before later _ counted => ?_
    rw [others earlier before] at counted
    cases counted
  · exact List.pairwise_of_forall_mem_list fun _ _ later behind _ => counting later behind
  · rw [others earlier before] at counted
    cases counted

/-- Names of fields of a tuple are none of the two that its class has values under. -/
theorem countsAsOwn_eq_hasOwnValue {field : Field} (visible : field.name.head? ≠ some '_') :
    countsAsOwn field = field.hasOwnValue := by
  have other : ["__module__", "__annotations__"].contains (String.ofList field.name) = false := by
    rw [List.contains_eq_mem, decide_eq_false_iff_not]
    intro member
    obtain ⟨own, listed, same⟩ : ∃ own ∈ ["__module__", "__annotations__"],
        field.name = own.toList :=
      ⟨_, member, String.toList_ofList.symm⟩
    refine visible (same ▸ ?_)
    rcases List.mem_pair.1 listed with rfl | rfl <;> rfl
  rw [countsAsOwn, other, Bool.or_false]

theorem valuesComeLast_of_declareTuple {catalog : Catalog} {cls : Text}
    {declarations : List FieldDeclaration} {fields : List Field}
    (declared : declareTuple catalog cls declarations = .ok fields) :
    ValuesComeLast fields := by
  have accepted := tupleError?_of_declareTuple declared
  unfold tupleError? at accepted
  simp only [Option.orElse_eq_orElse, Option.orElse_eq_or, Option.or_eq_none_iff,
    Option.map_eq_none_iff] at accepted
  obtain ⟨fine, _, unhidden, _⟩ := accepted
  have visible {field : Field} (member : field ∈ fields) : field.name.head? ≠ some '_' := by
    simpa using List.find?_eq_none.1 unhidden field.name (List.mem_map_of_mem member)
  refine (pairwise_of_outOfOrder? fine).imp_of_mem fun before behind counted => ?_
  rwa [countsAsOwn_eq_hasOwnValue (visible before),
    countsAsOwn_eq_hasOwnValue (visible behind)] at counted

theorem needed_le_of_verify {route : RouteClass} {matcher : Matcher}
    (positional : route.layout = .positional) (verified : verify route matcher = .ok ()) :
    route.needed.length ≤ matcher.captureCount := by
  unfold verify at verified
  dsimp only at verified
  rw [positional] at verified
  split at verified
  · cases verified
  · dsimp only at verified
    split at verified
    · cases verified
    · rename_i enough
      exact Nat.not_lt.1 enough

/-- The counts of a class fit when it is declared, and other settings do not change them. -/
theorem isLasting_isCounted : IsLasting Variant.IsCounted where
  declared {catalog name declaration route form} made := by
    have sound := isLasting_isSound.declared made
    obtain ⟨_, _, same, _, _, listed, formed⟩ := exists_route_of_declareClass made
    cases same
    obtain ⟨pattern, formed⟩ := formed form rfl
    obtain ⟨_, _, verified⟩ := exists_matcher_of_declareForm formed
    refine ⟨sound, fun positional => ?_, fun positional => needed_le_of_verify positional verified⟩
    have tuple := RouteClass.shape_of_positional positional
    rw [tuple] at listed
    have ordered := valuesComeLast_of_declareTuple listed
    unfold RouteClass.arguments
    rw [tuple]
    exact ordered.filter _
  withSettings {variant} settings fits := by
    have again := isLasting_isSound.withSettings settings fits.sound
    refine ⟨again, fits.ordered, fun positional => ?_⟩
    have same : (variant.withSettings settings).matcher.captureCount =
        variant.matcher.captureCount := by
      rw [Matcher.captureCount_of_compile again.compiled,
        Matcher.captureCount_of_compile fits.sound.compiled]
      rfl
    rw [same]
    exact fits.counted positional

/-- What the counts of a tuple are worth. Whatever is declared in a module, a match of a tuple that
it knows has as many texts as there are fields that need one. Each of these has a text if there are
as many more as there are fields on the way that need none, which are fields that may be absent and
have no value of their own. Then no attempt fails for want of a text. Else every attempt fails. -/
theorem Module.fillsInOrder_of_match? {statements : List Statement} {variant : Variant}
    {text : Text} {captures : Captures}
    (known : (({} : Module).declareAll statements).1.catalog.Knows variant)
    (positional : variant.route.layout = .positional)
    (matched : variant.matcher.match? text = some captures) :
    variant.FillsInOrder captures :=
  (Module.holds_of_knows isLasting_isCounted known).fillsInOrder positional matched

/-- A module with a tuple whose first field needs no text and whose second one does. -/
def optionalFirst (pattern : String) : List Statement :=
  [.route
    { name := "Pair".toList
      pattern := some pattern.toList
      settings := .none
      shape := .tuple
      fields :=
        [{ name := "left".toList, type := .optional (.known .text) },
          { name := "right".toList, type := .known .text }] }]

/-- A group that is taken gives the second field the text that the first one has taken away. -/
theorem Module.fillsInOrder_of_match?_grouped :
    let catalog := (({} : Module).declareAll (optionalFirst "/pair/{}(/{})")).1.catalog
    ∃ variant captures,
      catalog.Knows variant ∧
        variant.route.layout = .positional ∧
          variant.matcher.match? "/pair/x/y".toList = some captures ∧
            (passedOver variant.route.arguments).map (·.name) = ["left".toList] ∧
              captures.positional = ["x".toList, "y".toList] ∧
                variant.FillsInOrder captures := by
  intro catalog
  let captures : Captures := ⟨[⟨none, "x".toList⟩, ⟨none, "y".toList⟩]⟩
  obtain ⟨⟨route, form⟩, found, conditions⟩ := (Option.any_eq_true
    (fun (route, form) => decide (route.layout = .positional ∧
      form.matcher.match? "/pair/x/y".toList = some captures ∧
        (passedOver route.arguments).map (·.name) = ["left".toList]))
    (catalog.form? ⟨0, "Pair".toList, []⟩)).1 (by decide +kernel)
  obtain ⟨positional, matched, passed⟩ := of_decide_eq_true conditions
  have known := Catalog.knows_of_form? found
  exact ⟨⟨route, form.matcher⟩, captures, known, positional, matched, passed, rfl,
    Module.fillsInOrder_of_match? known positional matched⟩

/-- Whether in a module every match of a tuple has a text for each field that needs one. -/
def SuppliesTuples (statements : List Statement) : Prop :=
  ∀ variant text captures,
    (({} : Module).declareAll statements).1.catalog.Knows variant →
      variant.route.layout = .positional →
        variant.matcher.match? text = some captures →
          AreSupplied (variant.route.captured captures)

/-- The only text of a match goes to a field that needs none. -/
theorem not_suppliesTuples : ¬ SuppliesTuples (optionalFirst "/pair/{}") := by
  intro supplies
  let catalog := (({} : Module).declareAll (optionalFirst "/pair/{}")).1.catalog
  let captures : Captures := ⟨[⟨none, "x".toList⟩]⟩
  obtain ⟨⟨route, form⟩, found, conditions⟩ := (Option.any_eq_true
    (fun (route, form) => decide (route.layout = .positional ∧
      form.matcher.match? "/pair/x".toList = some captures ∧
        ∃ pair ∈ route.captured captures, pair.1.isRequired = true ∧ pair.2.isSome = false))
    (catalog.form? ⟨0, "Pair".toList, []⟩)).1 (by decide +kernel)
  obtain ⟨positional, matched, pair, member, required, lacking⟩ := of_decide_eq_true conditions
  have supplied :=
    supplies ⟨route, form.matcher⟩ _ _ (Catalog.knows_of_form? found) positional matched
  rw [supplied pair member required] at lacking
  cases lacking

end TypedRoutes.Declaration
