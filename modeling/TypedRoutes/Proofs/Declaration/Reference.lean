import TypedRoutes.Proofs.Declaration.Variants

/-!
Contract: the types of fields refer to what has been declared before.

A type that is written down names the classes in it, and names stand for declarations. So the
number of a class in the type of a field is below the size of the catalog that the field was
declared in, and everything that a field can be resolved with stays where it is.

Owns: types that name their classes, declarations that refer below a bound, and that classes are
declared so.
-/

set_option autoImplicit false

namespace TypedRoutes

namespace FieldType

/-- A type by itself, as one of the alternatives of a type, is no union. -/
theorem alternatives_of_mem_alternatives {type alternative : FieldType}
    (member : alternative ∈ type.alternatives) :
    alternative.alternatives = [alternative] := by
  induction type with
  | either first rest inFirst inRest =>
    rw [alternatives, List.mem_append] at member
    exact member.elim inFirst inRest
  | _ =>
    rw [alternatives, List.mem_singleton] at member
    · subst member
      rfl
    all_goals nofun

theorem mem_of_mem_alternatives_ofAlternatives {types : List FieldType} {alternative : FieldType}
    (plain : ∀ type ∈ types, type.alternatives = [type])
    (member : alternative ∈ (ofAlternatives types).alternatives) (different : alternative ≠ .none) :
    alternative ∈ types := by
  induction types with
  | nil => exact absurd (List.mem_singleton.1 member) different
  | cons type rest inductionHypothesis =>
    obtain ⟨first, others⟩ := List.forall_mem_cons.1 plain
    cases rest with
    | nil => exact first ▸ member
    | cons second rest =>
      rw [ofAlternatives, alternatives, first, List.singleton_append, List.mem_cons] at member
      · rcases member with rfl | later
        · exact List.mem_cons_self
        · exact List.mem_cons_of_mem _ (inductionHypothesis others later)
      · nofun

/-- The alternatives of a union are alternatives of the types in it, but for the absent value. -/
theorem exists_of_mem_alternatives_union {types : List FieldType} {alternative : FieldType}
    (member : alternative ∈ (union types).alternatives) (different : alternative ≠ .none) :
    ∃ type ∈ types, alternative ∈ type.alternatives := by
  have listed : alternative ∈ (types.flatMap alternatives).eraseDups := by
    refine mem_of_mem_alternatives_ofAlternatives (fun type inside => ?_) member different
    obtain ⟨_, _, among⟩ := List.mem_flatMap.1 (List.mem_eraseDups.1 inside)
    exact alternatives_of_mem_alternatives among
  exact List.mem_flatMap.1 (List.mem_eraseDups.1 listed)

/-- What a type makes optional is one of its alternatives, if not the type itself. -/
theorem splitOptional_mem (type : FieldType) :
    type.splitOptional.1 = type ∨ type.splitOptional.1 ∈ type.alternatives := by
  unfold splitOptional
  split
  · rename_i first second listed
    rw [listed]
    split
    · exact .inr List.mem_cons_self
    · split
      · exact .inr (List.mem_cons_of_mem _ List.mem_cons_self)
      · exact .inl rfl
  · exact .inl rfl

/-- A class is only what a field is read as if it is an alternative of the field's type. -/
theorem declared_mem_alternatives {type : FieldType} {cls : ClassRef}
    (split : type.splitOptional.1 = .declared cls) :
    .declared cls ∈ type.alternatives := by
  rcases type.splitOptional_mem with same | member
  · rw [← same, split]
    exact List.mem_singleton_self _
  · exact split ▸ member

def isDeclared : FieldType → Bool
  | .declared _ => true
  | _ => false

/-- The classes in a type have numbers below a bound. -/
def RefersBelow (bound : Nat) (type : FieldType) : Prop :=
  ∀ cls, .declared cls ∈ type.alternatives → cls.number < bound

theorem refersBelow_of_alternatives {type : FieldType} (bound : Nat)
    (none : ∀ alternative ∈ type.alternatives, alternative.isDeclared = false) :
    type.RefersBelow bound := by
  intro cls member
  cases none _ member

theorem RefersBelow.mono {type : FieldType} {bound other : Nat} (below : type.RefersBelow bound)
    (larger : bound ≤ other) :
    type.RefersBelow other :=
  fun cls member => Nat.lt_of_lt_of_le (below cls member) larger

theorem refersBelow_union {types : List FieldType} {bound : Nat}
    (each : ∀ type ∈ types, type.RefersBelow bound) :
    (union types).RefersBelow bound := by
  intro cls member
  obtain ⟨type, inside, among⟩ := exists_of_mem_alternatives_union member nofun
  exact each type inside cls among

end FieldType

end TypedRoutes

namespace TypedRoutes.Table

def ReferBelow (bound : Nat) (fields : List Field) : Prop :=
  ∀ field ∈ fields, field.type.RefersBelow bound

/-- The types of the fields of a class refer below a bound. -/
def RouteClass.RefersBelow (bound : Nat) (route : RouteClass) : Prop :=
  ReferBelow bound route.fields

/-- A declaration has a number below a bound, and so has all that it refers to. -/
def Declared.RefersBelow (bound : Nat) (declared : Declared) : Prop :=
  declared.cls.number < bound ∧
    match declared with
    | .enumeration _ => True
    | .route chosen _ => chosen.RefersBelow bound
    | .table chosen =>
      (∀ variant ∈ chosen.variants, variant.route.RefersBelow bound) ∧
        ∀ entry ∈ chosen.parts, entry.2.number < bound

theorem RouteClass.RefersBelow.mono {route : RouteClass} {bound other : Nat}
    (below : route.RefersBelow bound) (larger : bound ≤ other) :
    route.RefersBelow other :=
  fun field member => (below field member).mono larger

theorem Declared.RefersBelow.mono {declared : Declared} {bound other : Nat}
    (below : declared.RefersBelow bound) (larger : bound ≤ other) :
    declared.RefersBelow other := by
  obtain ⟨numbered, inside⟩ := below
  refine ⟨Nat.lt_of_lt_of_le numbered larger, ?_⟩
  cases declared with
  | enumeration choices => trivial
  | route chosen form => exact inside.mono larger
  | table table =>
    exact ⟨fun variant tried => (inside.1 variant tried).mono larger,
      fun entry listed => Nat.lt_of_lt_of_le (inside.2 entry listed) larger⟩

/-- What a field is read as has a number below the bound of the field's type. -/
theorem RouteClass.RefersBelow.number_lt {route : RouteClass} {bound : Nat} {field : Field}
    {cls : ClassRef} (below : route.RefersBelow bound) (argument : field ∈ route.arguments)
    (typed : field.kind = .declared cls) :
    cls.number < bound := by
  refine below field ?_ cls (FieldType.declared_mem_alternatives typed)
  unfold arguments at argument
  split at argument
  · cases argument
  · exact List.mem_of_mem_filter argument

/-- Nothing in a catalog refers to what is not there. -/
structure Catalog.IsClosed (catalog : Catalog) : Prop where
  declarations : ∀ declared ∈ catalog.declarations, declared.RefersBelow catalog.size
  names : ∀ entry ∈ catalog.names, entry.2.number < catalog.size

theorem Catalog.isClosed_empty : ({} : Catalog).IsClosed where
  declarations _ member := absurd member (List.not_mem_nil)
  names _ member := absurd member (List.not_mem_nil)

theorem Catalog.IsClosed.of_find? {catalog : Catalog} {name : Text} {declared : Declared}
    (closed : catalog.IsClosed) (found : catalog.find? name = some declared) :
    declared.RefersBelow catalog.size := by
  unfold find? at found
  split at found
  · cases found
  · exact closed.declarations declared (mem_of_numberedIn? found)

end TypedRoutes.Table

namespace TypedRoutes.Declaration

open TypedRoutes.Table

mutual

/-- Whether the classes in a type are all named. -/
def TypeExpression.isByName : TypeExpression → Bool
  | .known type => type.alternatives.all fun alternative => !alternative.isDeclared
  | .optional inner => inner.isByName
  | .union alternatives => areByName alternatives
  | .listOf element => element.isByName
  | .named _ => true

def areByName : List TypeExpression → Bool
  | [] => true
  | first :: rest => first.isByName && areByName rest

end

/-- Whether the types of the fields of a class name their classes. -/
def RouteDeclaration.isByName (declaration : RouteDeclaration) : Bool :=
  declaration.fields.all (·.type.isByName)

def Clause.isByName : Clause → Bool
  | .route declaration => declaration.isByName
  | .use _ _ => true

def Statement.isByName : Statement → Bool
  | .route declaration => declaration.isByName
  | .table _ _ _ body => body.all (·.isByName)
  | _ => true

variable {catalog : Catalog}

mutual

theorem TypeExpression.refersBelow_of_evaluate (closed : catalog.IsClosed) {type : FieldType} :
    ∀ expression : TypeExpression, expression.isByName = true →
      expression.evaluate catalog = .ok type → type.RefersBelow catalog.size
  | .known known, named, evaluated => by
    cases evaluated
    refine FieldType.refersBelow_of_alternatives _ fun alternative member => ?_
    simpa using List.all_eq_true.1 named alternative member
  | .optional inner, named, evaluated => by
    obtain ⟨found, inside, rfl⟩ := map_eq_ok_iff.1 evaluated
    have below := TypeExpression.refersBelow_of_evaluate closed inner named inside
    refine FieldType.refersBelow_union (List.forall_mem_cons.2 ⟨below, ?_⟩)
    rintro type member cls among
    rw [List.mem_singleton.1 member, FieldType.alternatives, List.mem_singleton] at among
    · cases among
    · nofun
  | .union alternatives, named, evaluated => by
    obtain ⟨types, inside, rfl⟩ := map_eq_ok_iff.1 evaluated
    exact FieldType.refersBelow_union
      (refersBelow_of_evaluateTypes closed alternatives named inside)
  | .listOf element, _, evaluated => by
    obtain ⟨found, _, rfl⟩ := map_eq_ok_iff.1 evaluated
    exact FieldType.refersBelow_of_alternatives _ (by simp [FieldType.alternatives,
      FieldType.isDeclared])
  | .named name, _, evaluated => by
    unfold TypeExpression.evaluate at evaluated
    split at evaluated
    · cases evaluated
    · rename_i declared found
      cases evaluated
      have numbered := (closed.of_find? found).1
      intro cls member
      cases declared with
      | enumeration choices => simp [Declared.type, FieldType.alternatives] at member
      | _ =>
        simp only [Declared.type, FieldType.alternatives, List.mem_singleton,
          FieldType.declared.injEq] at member
        exact member ▸ numbered

theorem refersBelow_of_evaluateTypes (closed : catalog.IsClosed) {types : List FieldType} :
    ∀ expressions : List TypeExpression, areByName expressions = true →
      evaluateTypes catalog expressions = .ok types →
        ∀ type ∈ types, type.RefersBelow catalog.size
  | [], _, evaluated => by
    cases evaluated
    nofun
  | first :: rest, named, evaluated => by
    obtain ⟨namedFirst, namedRest⟩ := Bool.and_eq_true_iff.1 named
    unfold evaluateTypes at evaluated
    split at evaluated
    · cases evaluated
    · rename_i type typed
      obtain ⟨others, inside, rfl⟩ := map_eq_ok_iff.1 evaluated
      exact List.forall_mem_cons.2
        ⟨TypeExpression.refersBelow_of_evaluate closed first namedFirst typed,
          refersBelow_of_evaluateTypes closed rest namedRest inside⟩

end

/-! ## Fields -/

theorem exists_of_mem_mapM {ε α β : Type} {make : α → Except ε β} {list : List α} {results : List β}
    (made : list.mapM make = .ok results) :
    ∀ result ∈ results, ∃ item ∈ list, make item = .ok result := by
  induction list generalizing results with
  | nil =>
    cases made
    nofun
  | cons item rest inductionHypothesis =>
    rw [List.mapM_cons] at made
    obtain ⟨first, here, made⟩ := bind_eq_ok_iff.1 made
    obtain ⟨others, there, made⟩ := bind_eq_ok_iff.1 made
    cases made
    refine List.forall_mem_cons.2 ⟨⟨item, List.mem_cons_self, here⟩, ?_⟩
    intro result member
    obtain ⟨origin, inside, found⟩ := inductionHypothesis there result member
    exact ⟨origin, List.mem_cons_of_mem _ inside, found⟩

theorem FieldDeclaration.refersBelow_of_typeIn {declaration : FieldDeclaration} {type : FieldType}
    (closed : catalog.IsClosed) (named : declaration.type.isByName = true)
    (typed : declaration.typeIn catalog = .ok type) :
    type.RefersBelow catalog.size :=
  declaration.type.refersBelow_of_evaluate closed named (mapError_eq_ok_iff.1 typed)

theorem FieldDeclaration.refersBelow_of_inRecord {declaration : FieldDeclaration} {field : Field}
    (closed : catalog.IsClosed) (named : declaration.type.isByName = true)
    (declared : declaration.inRecord catalog = .ok field) :
    field.type.RefersBelow catalog.size := by
  unfold inRecord at declared
  split at declared
  · cases declared
  · split at declared
    · cases declared
    · split at declared
      · cases declared
      · obtain ⟨type, typed, rfl⟩ := map_eq_ok_iff.1 declared
        exact refersBelow_of_typeIn closed named typed

/-- What a class has for a field is in the place of its default, and not of its type. -/
theorem referBelow_inherit {bound : Nat} {fields : List Field} (below : ReferBelow bound fields)
    (cls : ClassRef) (isAsked : Bool) :
    ReferBelow bound (inherit cls isAsked fields) := by
  induction fields generalizing isAsked with
  | nil => exact below
  | cons field rest inductionHypothesis =>
    obtain ⟨first, others⟩ := List.forall_mem_cons.1 below
    unfold inherit
    dsimp only
    split <;> exact List.forall_mem_cons.2 ⟨first, inductionHypothesis others _⟩

theorem referBelow_putField {bound : Nat} {field : Field} {fields : List Field}
    (first : field.type.RefersBelow bound) (below : ReferBelow bound fields) :
    ReferBelow bound (putField field fields) := by
  induction fields with
  | nil => exact List.forall_mem_singleton.2 first
  | cons other rest inductionHypothesis =>
    obtain ⟨old, others⟩ := List.forall_mem_cons.1 below
    unfold putField
    split
    · exact List.forall_mem_cons.2 ⟨first, others⟩
    · exact List.forall_mem_cons.2 ⟨old, inductionHypothesis others⟩

theorem referBelow_foldl_putField {bound : Nat} {declared fields : List Field}
    (new : ReferBelow bound declared) (below : ReferBelow bound fields) :
    ReferBelow bound (declared.foldl (fun fields field => putField field fields) fields) := by
  induction declared generalizing fields with
  | nil => exact below
  | cons field rest inductionHypothesis =>
    obtain ⟨first, others⟩ := List.forall_mem_cons.1 new
    exact inductionHypothesis others (referBelow_putField first below)

theorem referBelow_of_declareRecord {cls : ClassRef} {declarations : List FieldDeclaration}
    {fields : List Field} (closed : catalog.IsClosed)
    (named : ∀ declaration ∈ declarations, declaration.type.isByName = true)
    (declared : declareRecord catalog cls declarations = .ok fields) :
    ReferBelow catalog.size fields := by
  obtain ⟨written, made, checked⟩ := bind_eq_ok_iff.1 declared
  dsimp only at checked
  split at checked
  · cases checked
  · cases checked
    refine referBelow_inherit (fun field member => ?_) cls false
    obtain ⟨declaration, inside, found⟩ := exists_of_mem_mapM made field member
    exact declaration.refersBelow_of_inRecord closed (named declaration inside) found

theorem referBelow_of_declareTuple {cls : Text} {declarations : List FieldDeclaration}
    {fields : List Field} (closed : catalog.IsClosed)
    (named : ∀ declaration ∈ declarations, declaration.type.isByName = true)
    (declared : declareTuple catalog cls declarations = .ok fields) :
    ReferBelow catalog.size fields := by
  obtain ⟨types, typed, rest⟩ := bind_eq_ok_iff.1 declared
  obtain ⟨written, made, checked⟩ := bind_eq_ok_iff.1 rest
  dsimp only at checked
  split at checked
  · cases checked
  · cases checked
    refine referBelow_foldl_putField (fun field member => ?_) nofun
    obtain ⟨⟨_, type⟩, inside, found⟩ := exists_of_mem_mapM made field member
    obtain ⟨default, _, rfl⟩ := map_eq_ok_iff.1 found
    obtain ⟨declaration, origin, evaluated⟩ :=
      exists_of_mem_mapM typed type (List.of_mem_zip inside).2
    exact declaration.refersBelow_of_typeIn closed (named declaration origin) evaluated

theorem referBelow_of_declareFields {cls : ClassRef} {shape : Shape}
    {declarations : List FieldDeclaration} {fields : List Field} (closed : catalog.IsClosed)
    (named : ∀ declaration ∈ declarations, declaration.type.isByName = true)
    (declared : declareFields catalog cls shape declarations = .ok fields) :
    ReferBelow catalog.size fields := by
  cases shape with
  | record => exact referBelow_of_declareRecord closed named declared
  | tuple => exact referBelow_of_declareTuple closed named declared
  | bare =>
    unfold declareFields at declared
    dsimp only at declared
    split at declared
    · cases declared
    · cases declared
      nofun

/-! ## Classes -/

/-- A class that is declared has the number of its place and refers to what is there before it. -/
theorem exists_refersBelow_of_declareClass {name : Text} {declaration : RouteDeclaration}
    {declared : Declared} (closed : catalog.IsClosed) (named : declaration.isByName = true)
    (made : declareClass catalog name declaration = .ok declared) :
    ∃ route form, declared = .route route form ∧ route.cls.number = catalog.size ∧
      route.RefersBelow catalog.size := by
  obtain ⟨route, form, rfl, number, _, listed, _⟩ := exists_route_of_declareClass made
  have below := referBelow_of_declareFields closed (List.all_eq_true.1 named) listed
  exact ⟨route, form, rfl, number, below⟩

end TypedRoutes.Declaration
