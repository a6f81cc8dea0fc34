import TypedRoutes.Proofs.Declaration.Growth
import TypedRoutes.Proofs.Table.Sharing

/-!
Contract: resolving looks at what can be reached, and at nothing else.

A table tries its classes. What the fields of a class are read as is reached from it, and what that
tries in turn. Factories of the classes that instances are made of look up names when they run. Two
catalogs that agree on all of this resolve alike, whatever else there is in them.

Owns: what can be reached from a table, the names that are looked up on the way, and that resolving
is the same in a catalog that has grown beside them.
-/

set_option autoImplicit false

namespace TypedRoutes.Table

open TypedRoutes.Matching

section

variable
  {nested other : ClassRef → Option Resolver}
  {produce anew : Producer}

/-! ## Instances -/

def RouteClass.recipes (route : RouteClass) : List ValueExpression :=
  route.fields.filterMap (·.factory)

/-- Two producers make the same for the factories of a class. -/
def RouteClass.MakesSame (produce anew : Producer) (route : RouteClass) : Prop :=
  ∀ recipe ∈ route.recipes, anew recipe = produce recipe

theorem RouteClass.MakesSame.of_field {route : RouteClass} {field : Field}
    {recipe : ValueExpression} (same : route.MakesSame produce anew) (member : field ∈ route.fields)
    (made : field.factory = some recipe) :
    anew recipe = produce recipe :=
  same recipe (List.mem_filterMap.2 ⟨field, member, made⟩)

theorem Field.settle_congr {field : Field}
    (same : ∀ recipe, field.factory = some recipe → anew recipe = produce recipe)
    (arguments : List Field) (given : Mapping Value) :
    field.settle anew arguments given = field.settle produce arguments given := by
  unfold settle
  split
  · rename_i recipe _ made
    have manufactured :
        field.manufacture anew arguments given recipe =
          field.manufacture produce arguments given recipe := by
      unfold manufacture
      split
      · rfl
      · exact same recipe made
    rw [manufactured]
  · rfl

theorem settleAll_congr {fields : List Field}
    (same : ∀ field ∈ fields, ∀ recipe, field.factory = some recipe → anew recipe = produce recipe)
    (arguments : List Field) (given : Mapping Value) :
    settleAll anew arguments given fields = settleAll produce arguments given fields := by
  induction fields with
  | nil => rfl
  | cons field rest inductionHypothesis =>
    obtain ⟨first, others⟩ := List.forall_mem_cons.1 same
    rw [settleAll, settleAll, Field.settle_congr first, inductionHypothesis others]

namespace RouteClass

variable {route : RouteClass}

theorem make_congr (same : route.MakesSame produce anew) (given : Mapping Value) :
    route.make anew given = route.make produce given := by
  unfold make
  rw [settleAll_congr fun _ member _ made => same.of_field member made]

theorem construct_congr (same : route.MakesSame produce anew) (given : List (Text × Value)) :
    route.construct anew given = route.construct produce given := by
  unfold construct
  dsimp only
  rw [make_congr same]

theorem constructInOrder_congr (same : route.MakesSame produce anew) (given : List Value) :
    route.constructInOrder anew given = route.constructInOrder produce given := by
  unfold constructInOrder
  dsimp only
  rw [construct_congr same]

end RouteClass

/-! ## Resolving -/

/-- A field is filled alike: it is read with the same resolver, and its factory makes the same. -/
structure Field.IsFilledAlike (nested other : ClassRef → Option Resolver) (produce anew : Producer)
    (field : Field) :
    Prop where
  read : field.isState = false → ∀ cls, field.kind = .declared cls → other cls = nested cls
  made : ∀ recipe, field.factory = some recipe → anew recipe = produce recipe

theorem Field.withoutText_congr {field : Field}
    (same : ∀ recipe, field.factory = some recipe → anew recipe = produce recipe) :
    field.withoutText anew = field.withoutText produce := by
  have own : field.ownValue? anew = field.ownValue? produce := by
    unfold ownValue?
    split
    · rfl
    · rename_i recipe _ made
      rw [same recipe made]
    · rfl
  unfold withoutText fallback?
  rw [own]

theorem readField_congr {field : Field}
    (same : ∀ cls, field.kind = .declared cls → other cls = nested cls) (text : Text)
    (slot : Slot Value) :
    readField other field text slot = readField nested field text slot := by
  have resolver : nestedResolver? other field.kind = nestedResolver? nested field.kind := by
    unfold nestedResolver?
    split
    · rename_i cls typed
      exact same cls typed
    · rfl
  unfold readField
  rw [resolver]

theorem fillField_congr {field : Field} (alike : field.IsFilledAlike nested other produce anew)
    (captured : Option Text) (slot : Slot Value) :
    fillField other anew field captured slot = fillField nested produce field captured slot := by
  unfold fillField
  split
  · rfl
  · rename_i plain
    rw [Field.withoutText_congr alike.made]
    split
    · exact readField_congr (alike.read (Bool.eq_false_iff.2 plain)) _ slot
    · rfl

theorem fill_congr {pairs : List (Field × Option Text)}
    (alike : ∀ field ∈ pairs.map (·.1), field.IsFilledAlike nested other produce anew)
    (slot : Slot Value) :
    fill other anew pairs slot = fill nested produce pairs slot := by
  induction pairs generalizing slot with
  | nil => rfl
  | cons pair rest inductionHypothesis =>
    obtain ⟨field, captured⟩ := pair
    obtain ⟨first, others⟩ := List.forall_mem_cons.1 alike
    unfold fill
    rw [fillField_congr first]
    dsimp only
    split
    · rfl
    · rfl
    · rw [inductionHypothesis others]

/-- A class is tried alike if its arguments are filled alike and instances are made alike. -/
structure Variant.IsTriedAlike (nested other : ClassRef → Option Resolver) (produce anew : Producer)
    (variant : Variant) :
    Prop where
  read :
    ∀ field ∈ variant.route.arguments, field.isState = false →
      ∀ cls, field.kind = .declared cls → other cls = nested cls
  made : variant.route.MakesSame produce anew

theorem Variant.resolve_congr {variant : Variant}
    (alike : variant.IsTriedAlike nested other produce anew) :
    variant.resolve other anew = variant.resolve nested produce := by
  funext text slot
  unfold resolve
  split
  · rfl
  · rfl
  · rename_i captures _
    have filled :
        fill other anew (variant.route.captured captures) slot =
          fill nested produce (variant.route.captured captures) slot := by
      refine fill_congr (fun field member => ?_) slot
      rw [RouteClass.map_fst_captured] at member
      have inside := variant.route.arguments_sublist.subset member
      exact ⟨alike.read field member, fun _ made => alike.made.of_field inside made⟩
    rw [filled]
    dsimp only
    split
    · rw [RouteClass.make_congr alike.made]
    · rfl
    · rfl

theorem resolveFirst_congr {variants : List Variant}
    (alike : ∀ variant ∈ variants, variant.IsTriedAlike nested other produce anew) :
    resolveFirst other anew variants = resolveFirst nested produce variants := by
  funext text slot
  induction variants generalizing slot with
  | nil => rfl
  | cons variant rest inductionHypothesis =>
    obtain ⟨first, others⟩ := List.forall_mem_cons.1 alike
    rw [resolveFirst, resolveFirst, Variant.resolve_congr first]
    dsimp only
    split
    · rfl
    · rfl
    · rw [inductionHypothesis others]

end

/-! ## What is reached -/

/-- The classes that are tried when a text is resolved with a declaration. -/
def Declared.tried : Declared → List Variant
  | .table chosen => chosen.variants
  | .route chosen (some form) => [⟨chosen, form.matcher⟩]
  | _ => []

/-- The class that a field is read as, if it is read as one. -/
def Field.readAs? (field : Field) : Option ClassRef :=
  match field.isState, field.kind with
  | false, .declared cls => some cls
  | _, _ => none

theorem Field.readAs?_eq_some_iff {field : Field} {cls : ClassRef} :
    field.readAs? = some cls ↔ field.isState = false ∧ field.kind = .declared cls := by
  unfold readAs?
  split <;> simp_all

/-- The classes that fields are read as when a text is resolved with a declaration. -/
def Declared.reads (declared : Declared) : List ClassRef :=
  declared.tried.flatMap fun variant => variant.route.arguments.filterMap (·.readAs?)

theorem Declared.mem_reads {declared : Declared} {variant : Variant} {field : Field}
    {cls : ClassRef} (tried : variant ∈ declared.tried) (argument : field ∈ variant.route.arguments)
    (read : field.isState = false) (typed : field.kind = .declared cls) :
    cls ∈ declared.reads :=
  List.mem_flatMap.2
    ⟨variant, tried,
      List.mem_filterMap.2 ⟨field, argument, Field.readAs?_eq_some_iff.2 ⟨read, typed⟩⟩⟩

mutual

def classNames : ValueExpression → List Text
  | .scalar _ => []
  | .spelled _ _ => []
  | .member enumeration _ => [enumeration]
  | .record cls given => cls :: argumentClassNames given

def argumentClassNames : List (Text × ValueExpression) → List Text
  | [] => []
  | (_, expression) :: rest => classNames expression ++ argumentClassNames rest

end

namespace Catalog

/-- What texts can be resolved with on the way when one is resolved with a table: the table, and
what the fields of the classes that are tried are read as. -/
inductive Reaches (catalog : Catalog) (table : RouteTable) : Declared → Prop
  | itself : Reaches catalog table (.table table)
  | field {outer inner : Declared} {cls : ClassRef} (reached : Reaches catalog table outer)
      (read : cls ∈ outer.reads) (known : catalog.declared? cls = some inner) :
      Reaches catalog table inner

/-- The classes that instances can be made of when a text is resolved with a table: those that are
tried, and those in the place of resolving. -/
inductive Makes (catalog : Catalog) (table : RouteTable) : RouteClass → Prop
  | tried {declared : Declared} {variant : Variant} (reached : catalog.Reaches table declared)
      (tried : variant ∈ declared.tried) :
      Makes catalog table variant.route
  | resolving {inner : RouteTable} {route : RouteClass} {form : Option Form}
      (reached : catalog.Reaches table (.table inner))
      (placed : catalog.part? inner "_resolve" = some (.route route form)) :
      Makes catalog table route
  | switching {route : RouteClass} {form : Option Form}
      (placed : catalog.part? table "switch" = some (.route route form)) :
      Makes catalog table route

/-- The names that are looked up when an expression is evaluated: those in it, and those in the
factories of the classes that are named. -/
inductive LooksUp (catalog : Catalog) : ValueExpression → Text → Prop
  | here {expression : ValueExpression} {name : Text} (named : name ∈ classNames expression) :
      LooksUp catalog expression name
  | factory {expression recipe : ValueExpression} {name other : Text} {route : RouteClass}
      {form : Option Form} (named : name ∈ classNames expression)
      (found : catalog.find? name = some (.route route form)) (made : recipe ∈ route.recipes)
      (inside : LooksUp catalog recipe other) :
      LooksUp catalog expression other

/-- A name that a factory can look up when a text is resolved with a table. -/
def Consults (catalog : Catalog) (table : RouteTable) (name : Text) : Prop :=
  ∃ route recipe, catalog.Makes table route ∧ recipe ∈ route.recipes ∧
    catalog.LooksUp recipe name

theorem Reaches.mem {catalog : Catalog} {table : RouteTable} {declared : Declared}
    (reached : catalog.Reaches table declared) (known : .table table ∈ catalog.declarations) :
    declared ∈ catalog.declarations := by
  cases reached with
  | itself => exact known
  | field _ _ found => exact mem_of_numberedIn? found

/-! ## Grown catalogs -/

theorem numberedIn?_append (newer : List Declared) {declarations : List Declared} {number : Nat}
    (present : number < declarations.length) :
    numberedIn? (newer ++ declarations) number = numberedIn? declarations number := by
  induction newer with
  | nil => rfl
  | cons first rest inductionHypothesis =>
    have behind : number ≠ (rest ++ declarations).length := by
      rw [List.length_append]
      omega
    rw [List.cons_append, numberedIn?, if_neg behind, inductionHypothesis]

theorem numberedIn?_map (change : Declared → Declared) (declarations : List Declared)
    (number : Nat) :
    numberedIn? (declarations.map change) number =
      (numberedIn? declarations number).map change := by
  induction declarations with
  | nil => rfl
  | cons newest earlier inductionHypothesis =>
    rw [List.map_cons, numberedIn?, numberedIn?, List.length_map, inductionHypothesis]
    split <;> rfl

theorem resolverIn?_append (produce : Producer) (newer : List Declared)
    {declarations : List Declared} {number : Nat} (present : number < declarations.length) :
    resolverIn? produce (newer ++ declarations) number =
      resolverIn? produce declarations number := by
  induction newer with
  | nil => rfl
  | cons first rest inductionHypothesis =>
    have behind : number ≠ (rest ++ declarations).length := by
      rw [List.length_append]
      omega
    rw [List.cons_append, resolverIn?, if_neg behind, inductionHypothesis]

theorem resolverIn?_eq_none (produce : Producer) {declarations : List Declared} {number : Nat}
    (absent : numberedIn? declarations number = none) :
    resolverIn? produce declarations number = none := by
  induction declarations with
  | nil => rfl
  | cons newest earlier inductionHypothesis =>
    unfold numberedIn? at absent
    unfold resolverIn?
    split at absent
    · cases absent
    · rename_i other
      rw [if_neg other]
      exact inductionHypothesis absent

end Catalog

/-! ## Values -/

namespace Declared

variable {default : Option Settings} {body : Mapping ClassRef}

/-- The form of a class is of no importance to its instances. -/
theorem constructInOrder_within (declared : Declared) (produce : Producer) (given : List Value) :
    (declared.within default body).constructInOrder produce given =
      declared.constructInOrder produce given := by
  rcases declared with _ | ⟨_, _ | _⟩ | _ <;> rfl

theorem construct_within (declared : Declared) (produce : Producer) (given : List (Text × Value)) :
    (declared.within default body).construct produce given = declared.construct produce given := by
  rcases declared with _ | ⟨_, _ | _⟩ | _ <;> rfl

theorem member_within (declared : Declared) (name : Text) :
    (declared.within default body).member name = declared.member name := by
  rcases declared with _ | ⟨_, _ | _⟩ | _ <;> rfl

end Declared

namespace Catalog

variable
  {catalog next : Catalog}
  {newer : List Declared}
  {default : Option Settings}
  {labels : Mapping ClassRef}
  {produce anew : Producer}

theorem declared?_of_grown
    (grown : next.declarations = newer ++ catalog.declarations.map (Declared.within default labels))
    {cls : ClassRef} (present : cls.number < catalog.size) :
    next.declared? cls = (catalog.declared? cls).map (Declared.within default labels) := by
  unfold declared?
  rw [grown, numberedIn?_append newer (by simpa [size] using present), numberedIn?_map]

theorem find?_of_grown
    (grown : next.declarations = newer ++ catalog.declarations.map (Declared.within default labels))
    (closed : catalog.IsClosed) {name : Text}
    (same : Mapping.get? next.names name = Mapping.get? catalog.names name) :
    next.find? name = (catalog.find? name).map (Declared.within default labels) := by
  unfold find?
  rw [same]
  split
  · rfl
  · rename_i cls found
    exact declared?_of_grown grown (closed.names _ (Mapping.mem_of_get?_eq_some found))

mutual

/-- An expression stands for the same value if its names stand for the same, and the factories of
the classes that they stand for make the same. -/
theorem evaluateWith_congr :
    ∀ expression : ValueExpression,
      (∀ name ∈ classNames expression,
        next.find? name = (catalog.find? name).map (Declared.within default labels)) →
      (∀ name ∈ classNames expression, ∀ route form,
        catalog.find? name = some (.route route form) → route.MakesSame produce anew) →
      next.evaluateWith anew expression = catalog.evaluateWith produce expression
  | .scalar _, _, _ => rfl
  | .spelled _ _, _, _ => rfl
  | .member enumeration name, same, _ => by
    rw [evaluateWith, evaluateWith, same enumeration List.mem_cons_self]
    cases catalog.find? enumeration with
    | none => rfl
    | some declared => exact declared.member_within name
  | .record cls given, same, makes => by
    have arguments :=
      evaluateArguments_congr given
        (fun name member => same name (List.mem_cons_of_mem _ member))
        (fun name member => makes name (List.mem_cons_of_mem _ member))
    rw [evaluateWith, evaluateWith, same cls List.mem_cons_self, arguments]
    cases found : catalog.find? cls with
    | none => rfl
    | some declared =>
      dsimp only [Option.map_some]
      split
      · rfl
      · rw [Declared.construct_within]
        cases declared with
        | enumeration choices => rfl
        | table table => rfl
        | route route form =>
          exact RouteClass.construct_congr (makes cls List.mem_cons_self route form found) _

theorem evaluateArguments_congr :
    ∀ given : List (Text × ValueExpression),
      (∀ name ∈ argumentClassNames given,
        next.find? name = (catalog.find? name).map (Declared.within default labels)) →
      (∀ name ∈ argumentClassNames given, ∀ route form,
        catalog.find? name = some (.route route form) → route.MakesSame produce anew) →
      next.evaluateArguments anew given = catalog.evaluateArguments produce given
  | [], _, _ => rfl
  | (name, expression) :: rest, same, makes => by
    have first :=
      evaluateWith_congr expression
        (fun other member => same other (List.mem_append_left _ member))
        (fun other member => makes other (List.mem_append_left _ member))
    have others :=
      evaluateArguments_congr rest
        (fun other member => same other (List.mem_append_right _ member))
        (fun other member => makes other (List.mem_append_right _ member))
    rw [evaluateArguments, evaluateArguments, first, others]

end

/-- In a grown catalog an expression stands for the same value if all names that are looked up for
it stand for what they stood for. -/
theorem evaluateWithin_of_grown
    (grown : next.declarations = newer ++ catalog.declarations.map (Declared.within default labels))
    (closed : catalog.IsClosed) {expression : ValueExpression}
    (same : ∀ name, catalog.LooksUp expression name →
      Mapping.get? next.names name = Mapping.get? catalog.names name)
    (depth : Nat) :
    next.evaluateWithin depth expression = catalog.evaluateWithin depth expression := by
  induction depth generalizing expression with
  | zero => rfl
  | succ depth inductionHypothesis =>
    have found (name : Text) (named : name ∈ classNames expression) :
        next.find? name = (catalog.find? name).map (Declared.within default labels) :=
      find?_of_grown grown closed (same name (.here named))
    refine evaluateWith_congr expression found fun name named route form known => ?_
    intro recipe made
    exact inductionHypothesis fun other inside => same other (.factory named known made inside)

end Catalog

/-! ## Resolvers -/

section

variable
  {nested other : ClassRef → Option Resolver}
  {produce anew : Producer}
  {default : Option Settings}
  {labels : Mapping ClassRef}

theorem resolveByMaking_congr {declared : Declared}
    (makes : ∀ route form, declared = .route route form → route.MakesSame produce anew)
    (given : List Value) :
    resolveByMaking anew (declared.within default labels) given =
      resolveByMaking produce declared given := by
  funext text slot
  unfold resolveByMaking
  rw [Declared.constructInOrder_within]
  cases declared with
  | enumeration choices => rfl
  | table table => rfl
  | route route form =>
    have made := RouteClass.constructInOrder_congr (makes route form rfl)
    simp only [Declared.constructInOrder, made]

theorem RouteTable.resolver_congr {table : RouteTable}
    {declared? current? : ClassRef → Option Declared}
    (alike : ∀ variant ∈ table.variants, variant.IsTriedAlike nested other produce anew)
    (placed :
      (Mapping.get? table.parts "_resolve".toList).bind current? =
        ((Mapping.get? table.parts "_resolve".toList).bind declared?).map
          (Declared.within default labels))
    (makes :
      ∀ route form,
        (Mapping.get? table.parts "_resolve".toList).bind declared? = some (.route route form) →
          route.MakesSame produce anew) :
    table.resolver other current? anew = table.resolver nested declared? produce := by
  unfold resolver
  rw [placed]
  cases inPlace : (Mapping.get? table.parts "_resolve".toList).bind declared? with
  | none => exact resolveFirst_congr alike
  | some declared =>
    refine resolveByMaking_congr (fun route form same => ?_) [slotValue]
    exact makes route form (same ▸ inPlace)

end

namespace Catalog

variable
  {catalog next : Catalog}
  {table : RouteTable}
  {newer : List Declared}
  {default : Option Settings}
  {labels : Mapping ClassRef}
  {produce anew : Producer}

theorem numberedIn?_of_suffix {declarations earlier : List Declared} {number : Nat}
    {declared : Declared} (suffix : earlier <:+ declarations)
    (found : numberedIn? earlier number = some declared) :
    numberedIn? declarations number = some declared := by
  obtain ⟨newer, rfl⟩ := suffix
  rw [numberedIn?_append newer (lt_length_of_numberedIn? found), found]

/-- What is reached and stays as it is resolves alike, by induction on the declarations: what the
fields of a declaration are read as is before it. -/
theorem resolverIn?_within
    (kept : ∀ declared, catalog.Reaches table declared → declared.within default labels = declared)
    (makes : ∀ route, catalog.Makes table route → route.MakesSame produce anew)
    {declarations : List Declared} (suffix : declarations <:+ catalog.declarations) {number : Nat}
    {declared : Declared} (found : numberedIn? declarations number = some declared)
    (reached : catalog.Reaches table declared) :
    resolverIn? anew (declarations.map (Declared.within default labels)) number =
      resolverIn? produce declarations number := by
  induction declarations generalizing number declared with
  | nil => cases found
  | cons newest earlier inductionHypothesis =>
    have inside : earlier <:+ catalog.declarations := (List.suffix_cons newest earlier).trans suffix
    rw [List.map_cons, resolverIn?, resolverIn?, List.length_map]
    unfold numberedIn? at found
    split at found
    · rename_i last
      cases found
      rw [if_pos last, if_pos last, kept newest reached]
      have alike (variant : Variant) (tried : variant ∈ newest.tried) :
          variant.IsTriedAlike (fun cls => resolverIn? produce earlier cls.number)
            (fun cls => resolverIn? anew (earlier.map (Declared.within default labels)) cls.number)
            produce anew := by
        refine ⟨fun field argument read cls typed => ?_, makes _ (.tried reached tried)⟩
        cases known : numberedIn? earlier cls.number with
        | none =>
          rw [resolverIn?_eq_none produce known]
          exact resolverIn?_eq_none anew (by rw [numberedIn?_map, known, Option.map_none])
        | some inner =>
          refine inductionHypothesis inside known ?_
          exact .field reached (Declared.mem_reads tried argument read typed)
            (numberedIn?_of_suffix inside known)
      cases newest with
      | enumeration choices => rfl
      | route route form =>
        cases form with
        | none => rfl
        | some form =>
          exact congrArg some (Variant.resolve_congr (alike _ (List.mem_singleton_self _)))
      | table inner =>
        have placed :
            ((Mapping.get? inner.parts "_resolve".toList).bind fun cls =>
                numberedIn? (earlier.map (Declared.within default labels)) cls.number) =
              ((Mapping.get? inner.parts "_resolve".toList).bind fun cls =>
                numberedIn? earlier cls.number).map (Declared.within default labels) := by
          simp only [numberedIn?_map, Option.map_bind, Function.comp_def]
        refine congrArg some (RouteTable.resolver_congr alike placed fun route form found => ?_)
        obtain ⟨cls, listed, known⟩ := Option.bind_eq_some_iff.1 found
        have among : catalog.part? inner "_resolve" = some (.route route form) :=
          Option.bind_eq_some_iff.2 ⟨cls, listed, numberedIn?_of_suffix inside known⟩
        exact makes route (.resolving reached among)
    · rename_i other
      rw [if_neg other, if_neg other]
      exact inductionHypothesis inside found reached

theorem part?_of_grown
    (grown : next.declarations = newer ++ catalog.declarations.map (Declared.within default labels))
    (closed : catalog.IsClosed) (known : .table table ∈ catalog.declarations) (operation : String) :
    next.part? table operation =
      (catalog.part? table operation).map (Declared.within default labels) := by
  unfold part?
  cases listed : Mapping.get? table.parts operation.toList with
  | none => rfl
  | some cls =>
    have present := (closed.declarations _ known).2.2 _ (Mapping.mem_of_get?_eq_some listed)
    exact declared?_of_grown grown present

/-- A table resolves alike in a catalog that has grown, if what is reached from it stays as it is
and the names that are looked up on the way stand for what they stood for. -/
theorem switch_of_grown
    (grown : next.declarations = newer ++ catalog.declarations.map (Declared.within default labels))
    (closed : catalog.IsClosed) (known : .table table ∈ catalog.declarations)
    (kept : ∀ declared, catalog.Reaches table declared → declared.within default labels = declared)
    (named : ∀ name, catalog.Consults table name →
      Mapping.get? next.names name = Mapping.get? catalog.names name) :
    next.switch table = catalog.switch table := by
  have makes (route : RouteClass) (made : catalog.Makes table route) :
      route.MakesSame catalog.evaluate next.evaluate := by
    intro recipe given
    have same (name : Text) (looked : catalog.LooksUp recipe name) :
        Mapping.get? next.names name = Mapping.get? catalog.names name :=
      named name ⟨route, recipe, made, given, looked⟩
    exact evaluateWithin_of_grown grown closed same depthLimit
  have alike (variant : Variant) (tried : variant ∈ table.variants) :
      variant.IsTriedAlike catalog.nested next.nested catalog.evaluate next.evaluate := by
    refine ⟨fun field argument read cls typed => ?_, makes _ (.tried .itself tried)⟩
    have below := (closed.declarations _ known).2.1 variant tried
    have present : cls.number < catalog.declarations.length := below.number_lt argument typed
    unfold nested
    rw [grown, resolverIn?_append _ newer (by rwa [List.length_map])]
    cases found : numberedIn? catalog.declarations cls.number with
    | none =>
      rw [resolverIn?_eq_none _ found]
      exact resolverIn?_eq_none _ (by rw [numberedIn?_map, found, Option.map_none])
    | some inner =>
      exact resolverIn?_within kept makes List.suffix_rfl found
        (.field .itself (Declared.mem_reads tried argument read typed) found)
  have resolver :
      table.resolver next.nested next.declared? next.evaluate =
        table.resolver catalog.nested catalog.declared? catalog.evaluate := by
    refine RouteTable.resolver_congr alike (part?_of_grown grown closed known "_resolve") ?_
    exact fun route form placed => makes route (.resolving .itself placed)
  funext request
  unfold switch
  rw [part?_of_grown grown closed known, resolver]
  cases placed : catalog.part? table "switch" with
  | none => rfl
  | some declared =>
    have making :
        resolveByMaking next.evaluate (declared.within default labels) [] =
          resolveByMaking catalog.evaluate declared [] := by
      refine resolveByMaking_congr (fun route form same => ?_) []
      exact makes route (.switching (by rw [placed, same]))
    exact congrFun (congrFun making request.route) request.slot

end Catalog

end TypedRoutes.Table
