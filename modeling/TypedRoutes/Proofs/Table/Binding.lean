import TypedRoutes.Proofs.Mapping
import TypedRoutes.Success
import TypedRoutes.Table.Resolution

/-!
Contract: instances made of values for all fields.

If each field can be filled, they are filled in order and the slot stays as it is. If a value is
given for each field, the instance has just these values, a field apart that goes by the name of
what stands for factories.

Owns: filling, settling and making, each in the case that nothing is in the way.
-/

set_option autoImplicit false

namespace TypedRoutes.Table

open TypedRoutes.Matching

variable
  {nested : ClassRef → Option Resolver}
  {produce : Producer}
  {arguments fields : List Field}
  {given : Mapping Value}
  {field : Field}
  {value : Value}

/-! ## Filling -/

theorem fillField_of_read {converter : Converter} {text : Text} (payload : field.isState = false)
    (converted : field.kind.converter? = some converter) (read : converter.read text = .ok value)
    (slot : Slot Value) :
    fillField nested produce field (some text) slot = ⟨.ok (some value), slot, []⟩ := by
  have own : nestedResolver? nested field.kind = none := by
    cases type : field.kind with
    | declared cls =>
      rw [type] at converted
      cases converted
    | _ => rfl
  unfold fillField
  rw [if_neg (by simp [payload])]
  dsimp only
  unfold readField
  rw [own, converted]
  simp [Field.convert, read]

theorem fillField_of_default (payload : field.isState = false)
    (declared : field.declaredDefault = some value) (slot : Slot Value) :
    fillField nested produce field none slot = ⟨.ok (some value), slot, []⟩ := by
  unfold fillField
  rw [if_neg (by simp [payload])]
  simp [Field.withoutText, Field.fallback?, Field.ownValue?, Field.default?, payload, declared]

theorem fill_eq_ok (captured : Text → Option Text) (valueOf : Text → Value)
    (each : ∀ field ∈ fields, ∀ slot,
      fillField nested produce field (captured field.name) slot =
        ⟨.ok (some (valueOf field.name)), slot, []⟩)
    (slot : Slot Value) :
    fill nested produce (fields.map fun field => (field, captured field.name)) slot =
      ⟨.ok (fields.map fun field => (field.name, valueOf field.name)), slot, []⟩ := by
  induction fields with
  | nil => rfl
  | cons field rest inductionHypothesis =>
    obtain ⟨first, later⟩ := List.forall_mem_cons.1 each
    rw [List.map_cons, fill, first slot]
    dsimp only
    rw [inductionHypothesis later]
    rfl

theorem map_fst_pairInOrder (fields : List Field) (texts : List Text) :
    (pairInOrder fields texts).map (·.1) = fields := by
  induction fields generalizing texts with
  | nil => rfl
  | cons field rest inductionHypothesis =>
    cases texts with
    | nil => exact congrArg (field :: ·) (inductionHypothesis [])
    | cons text others => exact congrArg (field :: ·) (inductionHypothesis others)

/-- Where there is an instance, there is a match. -/
theorem Variant.exists_verdict_of_resolve {variant : Variant} {text : Text} {slot : Slot Value}
    (resolved : (variant.resolve nested produce text slot).result = .ok (some value)) :
    ∃ captures, variant.matcher.verdict text = .matched captures := by
  unfold Variant.resolve at resolved
  cases matched : variant.matcher.verdict text with
  | failed =>
    rw [matched] at resolved
    cases resolved
  | leftOver rest =>
    rw [matched] at resolved
    cases resolved
  | matched captures => exact ⟨captures, rfl⟩

/-- An instance is made of what the fields have been filled with. -/
theorem Variant.exists_values_of_resolve {variant : Variant} {text : Text} {slot : Slot Value}
    (resolved : (variant.resolve nested produce text slot).result = .ok (some value)) :
    ∃ captures values, variant.matcher.verdict text = .matched captures ∧
      (fill nested produce (variant.route.captured captures) slot).result = .ok values ∧
        variant.route.make produce values = .ok value := by
  obtain ⟨captures, matched⟩ := exists_verdict_of_resolve resolved
  unfold Variant.resolve at resolved
  rw [matched] at resolved
  dsimp only at resolved
  cases filled : (fill nested produce (variant.route.captured captures) slot).result with
  | error unfilled =>
    rw [filled] at resolved
    cases unfilled <;> cases resolved
  | ok values =>
    rw [filled] at resolved
    obtain ⟨made, making, same⟩ := map_eq_ok_iff.1 resolved
    cases same
    exact ⟨captures, values, matched, filled, making⟩

/-- Where a match comes to nothing, the attempt has ended at a field. -/
theorem Variant.exists_field_of_unresolved {variant : Variant} {text : Text} {captures : Captures}
    {slot : Slot Value} (matched : variant.matcher.verdict text = .matched captures)
    (unresolved : (variant.resolve nested produce text slot).result = .ok none) :
    ∃ name,
      (fill nested produce (variant.route.captured captures) slot).result =
        .error (.field name) := by
  unfold Variant.resolve at unresolved
  rw [matched] at unresolved
  dsimp only at unresolved
  cases filled : (fill nested produce (variant.route.captured captures) slot).result with
  | ok values =>
    rw [filled] at unresolved
    obtain ⟨_, _, absurdity⟩ := map_eq_ok_iff.1 unresolved
    cases absurdity
  | error reason =>
    rw [filled] at unresolved
    cases reason with
    | failed error => cases unresolved
    | field name => exact ⟨name, rfl⟩

/-- A class whose fields can be filled from a match makes an instance of them. -/
theorem Variant.resolve_of_matched {variant : Variant} {text : Text} {captures : Captures}
    {slot : Slot Value} {values : List (Text × Value)}
    (matched : variant.matcher.verdict text = .matched captures)
    (filled : fill nested produce (variant.route.captured captures) slot = ⟨.ok values, slot, []⟩) :
    variant.resolve nested produce text slot =
      ⟨(variant.route.make produce values).map some, slot, []⟩ := by
  unfold Variant.resolve
  rw [matched]
  dsimp only
  rw [filled]

/-! ## Making -/

/-- A field that a plain value is given for stands for its factory only by its name. -/
theorem isFactoryMark_of_given (found : Mapping.get? given field.name = some value)
    (plain : value ≠ factoryMark) :
    isFactoryMark arguments given field =
      (arguments.find? fun other => other.name = "_HAS_DEFAULT_FACTORY".toList).any
        fun mark => mark.name = field.name := by
  have passed : field.passed given = value := by
    rw [Field.passed, found, Option.getD_some]
  unfold isFactoryMark
  rw [passed, decide_eq_false plain]
  cases arguments.find? fun other => other.name = "_HAS_DEFAULT_FACTORY".toList with
  | none => rfl
  | some mark =>
    dsimp only
    rw [Bool.false_and, Bool.or_false, Option.any_some]

theorem isFactoryMark_eq_false (found : Mapping.get? given field.name = some value)
    (plain : value ≠ factoryMark) (other : field.name ≠ "_HAS_DEFAULT_FACTORY".toList) :
    isFactoryMark arguments given field = false := by
  rw [isFactoryMark_of_given found plain, Bool.eq_false_iff]
  intro marked
  obtain ⟨mark, inside, same⟩ := (Option.any_eq_true _ _).1 marked
  have named : mark.name = "_HAS_DEFAULT_FACTORY".toList := by
    simpa only [decide_eq_true_eq] using List.find?_some inside
  exact other ((of_decide_eq_true same).symm.trans named)

theorem isFactoryMark_of_any
    (named :
      ((arguments.find? fun other => other.name = "_HAS_DEFAULT_FACTORY".toList).any
        fun mark => mark.name = field.name) = true) :
    isFactoryMark arguments given field = true := by
  unfold isFactoryMark
  cases known : arguments.find? fun other => other.name = "_HAS_DEFAULT_FACTORY".toList with
  | none =>
    rw [known] at named
    cases named
  | some mark =>
    rw [known, Option.any_some] at named
    dsimp only
    rw [named, Bool.true_or]

theorem Field.settle_of_given (argument : field.isArgument = true)
    (found : Mapping.get? given field.name = some value) (plain : value ≠ factoryMark)
    (own : field.name = "_HAS_DEFAULT_FACTORY".toList → field.factory = none) :
    field.settle produce arguments given = .ok (some value) := by
  unfold Field.settle
  split
  · rename_i recipe _ manufactured
    have other : field.name ≠ "_HAS_DEFAULT_FACTORY".toList := by
      intro same
      rw [own same] at manufactured
      cases manufactured
    rw [isFactoryMark_eq_false found plain other, argument, Field.passed, found]
    rfl
  · rw [if_pos argument, found]
    rfl

/-- What stands for a factory stands for it again when the value that came of it is given. -/
theorem Field.settle_again {again : Mapping Value} (argument : field.isArgument = true)
    (settled : field.settle produce arguments given = .ok (some value))
    (found : Mapping.get? again field.name = some value) (plain : value ≠ factoryMark) :
    field.settle produce arguments again = .ok (some value) := by
  unfold Field.settle at *
  split
  · rename_i recipe none manufactured
    rw [none, manufactured] at settled
    dsimp only at settled
    have passed : field.passed again = value := by
      rw [Field.passed, found, Option.getD_some]
    rw [argument, Bool.true_and] at settled ⊢
    by_cases marked : isFactoryMark arguments again field = true
    · have named := marked
      rw [isFactoryMark_of_given found plain] at named
      rw [isFactoryMark_of_any named, if_neg (by simp)] at settled
      obtain ⟨_, made, same⟩ := map_eq_ok_iff.1 settled
      cases same
      rw [marked, if_neg (by simp)]
      unfold Field.manufacture at made ⊢
      split at made
      · cases made
      · rw [made]
        rfl
    · rw [Bool.not_eq_true] at marked
      rw [marked, passed]
      rfl
  · rw [if_pos argument, found]
    rfl

theorem names_settleAll {settled : List (Text × Value)}
    (done : settleAll produce arguments given fields = .ok (settled, [])) :
    settled.map (·.1) = fields.map (·.name) := by
  induction fields generalizing settled with
  | nil =>
    cases done
    rfl
  | cons field rest inductionHypothesis =>
    unfold settleAll at done
    split at done
    · cases done
    · rename_i found settling
      obtain ⟨⟨others, unset⟩, further, same⟩ := map_eq_ok_iff.1 done
      cases found with
      | none => cases same
      | some value =>
        cases same
        rw [List.map_cons, List.map_cons, inductionHypothesis further]

theorem exists_settle_of_settleAll {settled : List (Text × Value)}
    (done : settleAll produce arguments given fields = .ok (settled, [])) :
    ∀ field ∈ fields, ∃ value,
      field.settle produce arguments given = .ok (some value) ∧ (field.name, value) ∈ settled := by
  induction fields generalizing settled with
  | nil => simp
  | cons field rest inductionHypothesis =>
    unfold settleAll at done
    split at done
    · cases done
    · rename_i found settling
      obtain ⟨⟨others, unset⟩, further, same⟩ := map_eq_ok_iff.1 done
      cases found with
      | none => cases same
      | some value =>
        cases same
        refine List.forall_mem_cons.2
          ⟨⟨value, settling, List.mem_cons_self⟩, fun other inside => ?_⟩
        obtain ⟨own, its, member⟩ := inductionHypothesis further other inside
        exact ⟨own, its, List.mem_cons_of_mem _ member⟩

theorem settleAll_eq_ok (valueOf : Text → Value)
    (each : ∀ field ∈ fields,
      field.settle produce arguments given = .ok (some (valueOf field.name))) :
    settleAll produce arguments given fields =
      .ok (fields.map fun field => (field.name, valueOf field.name), []) := by
  induction fields with
  | nil => rfl
  | cons field rest inductionHypothesis =>
    obtain ⟨first, later⟩ := List.forall_mem_cons.1 each
    rw [settleAll, first]
    dsimp only
    rw [inductionHypothesis later]
    rfl

namespace RouteClass

variable {route : RouteClass}

theorem arguments_eq_fields (filled : route.layout ≠ .unit)
    (each : ∀ field ∈ route.fields, field.isArgument = true) :
    route.arguments = route.fields := by
  cases shape : route.shape with
  | bare =>
    refine absurd ?_ filled
    simp [layout, arguments, shape]
  | record =>
    unfold arguments
    rw [shape]
    exact List.filter_eq_self.2 each
  | tuple =>
    unfold arguments
    rw [shape]
    exact List.filter_eq_self.2 each

/-- An instance is made of the values that all fields settle on, if nothing stands in the place of
what makes it. -/
theorem make_eq_ok_iff :
    route.make produce given = .ok value ↔
      route.unmade? (!given.isEmpty) = none ∧
        route.hasArgument "__dataclass_builtins_object__" = false ∧
          route.cls.replacement? "__post_init__" = none ∧
            ∃ settled unset,
              settleAll produce route.arguments given route.fields = .ok (settled, unset) ∧
                value = .record route.cls route.shape settled unset := by
  unfold make
  split
  · rename_i error refused
    simp [refused]
  · rename_i accepted
    split
    · rename_i builtins
      simp [builtins]
    · rename_i builtins
      rw [Bool.not_eq_true] at builtins
      split
      · rename_i error failed
        simp [failed]
      · rename_i settled unset done
        unfold unfinished?
        cases finished : route.cls.replacement? "__post_init__" with
        | some kind => simp
        | none =>
          simp only [accepted, builtins, done, Option.map_none, Except.ok.injEq, true_and,
            Prod.mk.injEq]
          constructor
          · rintro rfl
            exact ⟨settled, unset, ⟨rfl, rfl⟩, rfl⟩
          · rintro ⟨_, _, ⟨rfl, rfl⟩, rfl⟩
            rfl

end RouteClass

end TypedRoutes.Table
