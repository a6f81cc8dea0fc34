import Mathlib.Data.List.Nodup
import TypedRoutes.Declaration.Module
import TypedRoutes.Success

/-!
Contract: what is true of every route class in a module, however the module has come about.

A class has the number of its place, its fields have names of their own, its default values are in
the place of what they are named like, and its matcher is the one of its pattern text. A table that
settings are given to makes other matchers for its classes, of the same texts.

Owns: sound catalogs, and that declaring keeps them sound.
-/

set_option autoImplicit false

namespace TypedRoutes.Table

open TypedRoutes.Matching TypedRoutes.Declaration

/-- A route class as a declaration makes it, under a number. -/
structure RouteClass.IsDeclaredAs (route : RouteClass) (number : Nat) : Prop where
  number : route.cls.number = number
  distinct : (route.fields.map (·.name)).Nodup
  replaced :
    route.cls.replaced = if route.shape = .record then replacedBy route.fields else []

/-- Only the default of a field takes the place of an operation that is not the use as a key. -/
theorem RouteClass.IsDeclaredAs.replacement?_eq_none {route : RouteClass} {number : Nat}
    {operation : String} (declared : route.IsDeclaredAs number)
    (other : operation.toList ≠ "__hash__".toList)
    (free : ∀ field ∈ route.fields, field.name = operation.toList → field.default? = none) :
    route.cls.replacement? operation = none := by
  have byField (entry : Text × Text)
      (member : entry ∈ route.fields.filterMap fun field =>
        field.default?.map fun value => (field.name, value.bareKind)) :
      entry.1 ≠ operation.toList := by
    obtain ⟨field, inside, found⟩ := List.mem_filterMap.1 member
    obtain ⟨value, default, rfl⟩ := Option.map_eq_some_iff.1 found
    intro same
    rw [free field inside same] at default
    cases default
  unfold ClassRef.replacement?
  rw [declared.replaced, Option.map_eq_none_iff, List.find?_eq_none]
  intro entry member
  rw [decide_eq_true_eq]
  split at member
  · unfold replacedBy at member
    dsimp only at member
    split at member
    · rcases List.mem_cons.1 member with rfl | inside
      · exact Ne.symm other
      · exact byField entry inside
    · exact byField entry member
  · cases member

/-- No field with a default takes the place of what instances are asked for their fields with. -/
def RouteClass.IsAskable (route : RouteClass) : Prop :=
  ∀ field ∈ route.fields, field.name = "__getattribute__".toList → field.declaredDefault = none

instance (route : RouteClass) : Decidable route.IsAskable :=
  inferInstanceAs (Decidable (∀ field ∈ route.fields, _))

/-- Instances can be asked for their fields if no field with that name has a default. -/
theorem RouteClass.IsDeclaredAs.need_eq_ok_of_default {route : RouteClass} {number : Nat}
    (declared : route.IsDeclaredAs number)
    (free :
      ∀ field ∈ route.fields, field.name = "__getattribute__".toList → field.default? = none) :
    route.cls.need ["__getattribute__"] = .ok () := by
  have kept : route.cls.replacement? "__getattribute__" = none :=
    declared.replacement?_eq_none (by decide) free
  simp [ClassRef.need, kept]

theorem RouteClass.IsDeclaredAs.need_eq_ok {route : RouteClass} {number : Nat}
    (declared : route.IsDeclaredAs number) (askable : route.IsAskable)
    (payload : ∀ field ∈ route.fields, field.isState = false) :
    route.cls.need ["__getattribute__"] = .ok () := by
  refine declared.need_eq_ok_of_default fun field member named => ?_
  rw [Field.default?, payload field member]
  exact askable field member named

def Form.IsCompiled (form : Form) : Prop :=
  Matcher.compile form.matcher.text form.matcher.settings = .ok form.matcher

def Declared.IsSoundAs (number : Nat) : Declared → Prop
  | .route chosen (some form) => chosen.IsDeclaredAs number ∧ form.IsCompiled
  | _ => True

def AreSound : List Declared → Prop
  | [] => True
  | declared :: earlier => declared.IsSoundAs earlier.length ∧ AreSound earlier

/-- A catalog as it comes about. -/
def Catalog.IsSound (catalog : Catalog) : Prop :=
  AreSound catalog.declarations

theorem Form.IsCompiled.read_eq {form : Form} (compiled : form.IsCompiled) :
    Pattern.read form.matcher.text = .ok form.matcher.pattern := by
  obtain ⟨pattern, read, same⟩ := map_eq_ok_iff.1 compiled
  have parsed : pattern = form.matcher.pattern := congrArg Matcher.pattern same
  rw [read, parsed]

theorem Form.IsCompiled.withSettings {form : Form} (compiled : form.IsCompiled)
    (settings : Settings) :
    Form.IsCompiled { form with matcher := form.matcher.withSettings settings } := by
  have read := compiled.read_eq
  unfold Form.IsCompiled Matcher.compile
  simp [Matcher.withSettings, read, Except.map]

namespace Catalog

variable {catalog : Catalog}

theorem AreSound.isSoundAs {declarations : List Declared} {number : Nat} {declared : Declared}
    (sound : AreSound declarations) (found : numberedIn? declarations number = some declared) :
    declared.IsSoundAs number := by
  induction declarations with
  | nil => cases found
  | cons newest earlier inductionHypothesis =>
    unfold numberedIn? at found
    split at found
    · rename_i last
      cases found
      exact last ▸ sound.1
    · exact inductionHypothesis sound.2 found

theorem IsSound.of_form? {cls : ClassRef} {route : RouteClass} {form : Form}
    (sound : catalog.IsSound) (found : catalog.form? cls = some (route, form)) :
    route.IsDeclaredAs cls.number ∧ form.IsCompiled := by
  unfold form? declared? at found
  split at found
  · rename_i chosen current known
    cases found
    exact AreSound.isSoundAs sound known
  · cases found

theorem IsSound.form?_cls {cls : ClassRef} {route : RouteClass} {form : Form}
    (sound : catalog.IsSound) (found : catalog.form? cls = some (route, form)) :
    catalog.form? route.cls = some (route, form) := by
  have same := (sound.of_form? found).1.number
  unfold form? declared? at *
  rwa [same]

theorem lt_length_of_numberedIn? {declarations : List Declared} {number : Nat} {declared : Declared}
    (found : numberedIn? declarations number = some declared) :
    number < declarations.length := by
  induction declarations with
  | nil => cases found
  | cons newest earlier inductionHypothesis =>
    rw [List.length_cons]
    unfold numberedIn? at found
    split at found
    · omega
    · have := inductionHypothesis found
      omega

theorem numberedIn?_of_mem {declarations : List Declared} {route : RouteClass} {form : Form}
    (sound : AreSound declarations) (known : .route route (some form) ∈ declarations) :
    numberedIn? declarations route.cls.number = some (.route route (some form)) := by
  induction declarations with
  | nil => cases known
  | cons newest earlier inductionHypothesis =>
    unfold numberedIn?
    rcases List.mem_cons.1 known with rfl | inside
    · rw [if_pos sound.1.1.number]
    · have found := inductionHypothesis sound.2 inside
      rw [if_neg (Nat.ne_of_lt (lt_length_of_numberedIn? found)), found]

/-- A route class is found with its form by the reference that it carries. -/
theorem IsSound.form?_of_mem {route : RouteClass} {form : Form} (sound : catalog.IsSound)
    (known : .route route (some form) ∈ catalog.declarations) :
    catalog.form? route.cls = some (route, form) := by
  unfold form? declared?
  rw [numberedIn?_of_mem sound known]

theorem IsSound.add {declared : Declared} (sound : catalog.IsSound)
    (fits : declared.IsSoundAs catalog.size) :
    (catalog.add declared).IsSound :=
  ⟨fits, sound⟩

theorem IsSound.offerName (sound : catalog.IsSound) (name : Text) (cls : ClassRef) :
    (catalog.offerName name cls).IsSound := by
  unfold Catalog.offerName
  split <;> exact sound

theorem IsSound.setForm {form : Form} (sound : catalog.IsSound) (compiled : form.IsCompiled)
    (cls : ClassRef) :
    (catalog.setForm cls form).IsSound := by
  obtain ⟨declarations, names⟩ := catalog
  unfold IsSound Catalog.setForm at *
  dsimp only at *
  induction declarations with
  | nil => trivial
  | cons newest earlier inductionHypothesis =>
    obtain ⟨fits, others⟩ := sound
    refine ⟨?_, inductionHypothesis others⟩
    rw [List.length_map]
    dsimp only
    split
    · rename_i chosen old
      refine ⟨fits.1, ?_⟩
      split
      · exact compiled
      · exact fits.2
    · exact fits

end Catalog

end TypedRoutes.Table

namespace TypedRoutes.Declaration

open TypedRoutes.Matching TypedRoutes.Table

variable {catalog : Catalog}

/-! ## Classes -/

theorem nodup_names_of_declareRecord {cls : ClassRef} {declarations : List FieldDeclaration}
    {fields : List Field} (declared : declareRecord catalog cls declarations = .ok fields) :
    (fields.map (·.name)).Nodup := by
  obtain ⟨written, _, checked⟩ := bind_eq_ok_iff.1 declared
  dsimp only at checked
  split at checked
  · cases checked
  · rename_i accepted
    cases checked
    unfold recordError? at accepted
    simp only [Option.orElse_eq_orElse, Option.orElse_eq_or, Option.or_eq_none_iff] at accepted
    exact (recordNameError?_eq_none_iff.1 accepted.1).2

theorem tupleError?_of_declareTuple {cls : Text} {declarations : List FieldDeclaration}
    {fields : List Field} (declared : declareTuple catalog cls declarations = .ok fields) :
    tupleError? cls fields = none := by
  obtain ⟨types, _, rest⟩ := bind_eq_ok_iff.1 declared
  obtain ⟨written, _, checked⟩ := bind_eq_ok_iff.1 rest
  dsimp only at checked
  split at checked
  · cases checked
  · rename_i accepted
    cases checked
    exact accepted

theorem nodup_names_of_declareTuple {cls : Text} {declarations : List FieldDeclaration}
    {fields : List Field} (declared : declareTuple catalog cls declarations = .ok fields) :
    (fields.map (·.name)).Nodup := by
  have accepted := tupleError?_of_declareTuple declared
  unfold tupleError? at accepted
  simp only [Option.orElse_eq_orElse, Option.orElse_eq_or, Option.or_eq_none_iff,
    Option.map_eq_none_iff] at accepted
  have clashless := accepted.2.2.2
  unfold nameClash? at clashless
  split at clashless
  · cases clashless
  · rename_i distinct
    have apart := (repeatedName?_eq_none_iff.1 distinct).1
    rw [List.nodup_cons] at apart
    exact List.Nodup.of_map Text.normalForm (by simpa using apart.2)

theorem nodup_names_of_declareFields {cls : ClassRef} {shape : Shape}
    {declarations : List FieldDeclaration} {fields : List Field}
    (declared : declareFields catalog cls shape declarations = .ok fields) :
    (fields.map (·.name)).Nodup := by
  cases shape with
  | record => exact nodup_names_of_declareRecord declared
  | tuple => exact nodup_names_of_declareTuple declared
  | bare =>
    unfold declareFields at declared
    dsimp only at declared
    split at declared
    · cases declared
    · cases declared
      exact List.nodup_nil

/-- A form has a matcher of the pattern text that the fields of its class were checked against. -/
theorem exists_matcher_of_declareForm {route : RouteClass} {pattern : Text} {choice : Choice}
    {form : Form} (declared : declareForm route pattern choice = .ok form) :
    ∃ settings, Matcher.compile pattern settings = .ok form.matcher ∧
      verify route form.matcher = .ok () := by
  obtain ⟨settings, _, rest⟩ := bind_eq_ok_iff.1 declared
  obtain ⟨matcher, compiled, rest⟩ := bind_eq_ok_iff.1 rest
  obtain ⟨_, verified, made⟩ := bind_eq_ok_iff.1 rest
  cases made
  exact ⟨settings, mapError_eq_ok_iff.1 compiled, mapError_eq_ok_iff.1 verified⟩

theorem isCompiled_of_declareForm {route : RouteClass} {pattern : Text} {choice : Choice}
    {form : Form} (declared : declareForm route pattern choice = .ok form) :
    form.IsCompiled := by
  obtain ⟨settings, compiled, _⟩ := exists_matcher_of_declareForm declared
  obtain ⟨parsed, _, made⟩ := map_eq_ok_iff.1 compiled
  unfold Form.IsCompiled
  rw [← made] at compiled ⊢
  exact compiled

theorem exists_route_of_declareClass {name : Text} {declaration : RouteDeclaration}
    {declared : Declared} (made : declareClass catalog name declaration = .ok declared) :
    ∃ route form, declared = .route route form ∧
      route.cls.number = catalog.size ∧
        route.cls.replaced = (if route.shape = .record then replacedBy route.fields else []) ∧
          declareFields catalog { number := catalog.size, name } route.shape declaration.fields =
              .ok route.fields ∧
            ∀ current, form = some current →
              ∃ pattern, declareForm route pattern declaration.settings = .ok current := by
  obtain ⟨fields, listed, rest⟩ := bind_eq_ok_iff.1 made
  replace listed := mapError_eq_ok_iff.1 listed
  dsimp only at rest
  split at rest
  · cases rest
    exact ⟨_, _, rfl, rfl, rfl, listed, nofun⟩
  · obtain ⟨form, formed, rest⟩ := bind_eq_ok_iff.1 rest
    cases rest
    refine ⟨_, _, rfl, rfl, rfl, listed, ?_⟩
    intro current same
    cases same
    exact ⟨_, formed⟩

theorem isSoundAs_of_declareClass {name : Text} {declaration : RouteDeclaration}
    {declared : Declared} (made : declareClass catalog name declaration = .ok declared) :
    declared.IsSoundAs catalog.size := by
  obtain ⟨route, form, rfl, number, replaced, listed, formed⟩ := exists_route_of_declareClass made
  cases form with
  | none => trivial
  | some form =>
    obtain ⟨pattern, formed⟩ := formed form rfl
    exact ⟨⟨number, nodup_names_of_declareFields listed, replaced⟩, isCompiled_of_declareForm formed⟩

/-! ## Tables -/

theorem isSound_of_declareBody {table : Text} {body labels : Mapping ClassRef}
    {clauses : List Clause} {next : Catalog} (sound : catalog.IsSound)
    (declared : declareBody table catalog body clauses = .ok (next, labels)) :
    next.IsSound := by
  induction clauses generalizing catalog body with
  | nil =>
    cases declared
    exact sound
  | cons clause rest inductionHypothesis =>
    cases clause with
    | route declaration =>
      unfold declareBody at declared
      split at declared
      · cases declared
      · rename_i made
        exact inductionHypothesis (sound.add (isSoundAs_of_declareClass made)) declared
    | use name label =>
      unfold declareBody at declared
      split at declared
      · cases declared
      · exact inductionHypothesis sound declared

theorem isSound_collect (default : Option Settings) (sound : catalog.IsSound)
    (body : Mapping ClassRef) :
    (collect default catalog body).1.IsSound := by
  induction body generalizing catalog with
  | nil => exact sound
  | cons entry rest inductionHypothesis =>
    obtain ⟨label, cls⟩ := entry
    unfold collect
    split
    · exact inductionHypothesis sound
    · rename_i route form settings found
      have compiled := (sound.of_form? found).2
      split
      · exact inductionHypothesis sound
      · exact inductionHypothesis (sound.setForm (compiled.withSettings settings) cls)
    · exact inductionHypothesis sound

theorem exists_table_of_addTable {name : Text} {choice : Choice} {body : Mapping ClassRef}
    {base : Option RouteTable} {next : Catalog}
    (added : addTable catalog name choice body base = .ok next) :
    ∃ default,
      (∀ settings, default = some settings → choice.isGiven = true ∧
        choice.resolve = .ok settings) ∧
      next =
        (collect default catalog body).1.add
          (.table
            { cls := { number := (collect default catalog body).1.size, name }
              variants :=
                (base.map (·.variants)).getD [] ++ (collect default catalog body).2
              parts := body ++ (base.map (·.parts)).getD [] }) := by
  cases shadowed : Mapping.get? body "__switchyard_variants__".toList with
  | some cls =>
    unfold addTable at added
    rw [shadowed] at added
    dsimp only at added
    split at added
    all_goals
      obtain ⟨default, _, refused⟩ := bind_eq_ok_iff.1 added
      cases refused
  | none =>
    unfold addTable at added
    rw [shadowed] at added
    dsimp only at added
    split at added
    · rename_i given
      obtain ⟨default, chosen, made⟩ := bind_eq_ok_iff.1 added
      obtain ⟨settings, resolved, rfl⟩ := map_eq_ok_iff.1 (mapError_eq_ok_iff.1 chosen)
      cases made
      refine ⟨some settings, ?_, rfl⟩
      intro other same
      cases same
      exact ⟨given, resolved⟩
    · obtain ⟨default, chosen, made⟩ := bind_eq_ok_iff.1 added
      cases chosen
      cases made
      exact ⟨none, nofun, rfl⟩

theorem isSound_of_addTable {name : Text} {choice : Choice} {body : Mapping ClassRef}
    {base : Option RouteTable} {next : Catalog} (sound : catalog.IsSound)
    (added : addTable catalog name choice body base = .ok next) :
    next.IsSound := by
  obtain ⟨default, _, rfl⟩ := exists_table_of_addTable added
  exact (isSound_collect default sound body).add trivial

theorem isSound_of_addEnumeration {name : Text} {choice : Choice} {body : Mapping ClassRef}
    {base : Enumeration} {next : Catalog} (sound : catalog.IsSound)
    (added : addEnumeration catalog name choice body base = .ok next) :
    next.IsSound := by
  unfold addEnumeration at added
  split at added
  · cases added
  · obtain ⟨choices, _, rfl⟩ := map_eq_ok_iff.1 added
    exact sound.add trivial

theorem isSound_of_addDerived {name : Text} {choice : Choice} {base : RouteClass} {next : Catalog}
    (sound : catalog.IsSound) (added : addDerived catalog name choice base = .ok next) :
    next.IsSound := by
  unfold addDerived at added
  split at added
  · cases added
  · split at added
    · cases added
    · cases added
      exact sound.add trivial

theorem isSound_of_extendBase {name : Text} {choice : Choice} {body : Mapping ClassRef}
    {base : Option Text} {next : Catalog} (sound : catalog.IsSound)
    (extended : extendBase catalog name choice body base = .ok next) :
    next.IsSound := by
  unfold extendBase at extended
  dsimp only at extended
  cases base with
  | none =>
    dsimp only at extended
    split at extended
    · cases extended
    · exact isSound_of_addTable sound extended
  | some base =>
    dsimp only at extended
    cases found : catalog.find? base with
    | none =>
      rw [found] at extended
      cases extended
    | some declared =>
      rw [found] at extended
      cases declared with
      | table table =>
        dsimp only at extended
        split at extended
        · cases extended
        · exact isSound_of_addTable sound extended
      | enumeration choices => exact isSound_of_addEnumeration sound extended
      | route chosen form =>
        dsimp only at extended
        split at extended
        · cases extended
        · exact isSound_of_addDerived sound extended

theorem isSound_nameBody (sound : catalog.IsSound) (table : Text) (body : Mapping ClassRef) :
    (nameBody catalog table body).IsSound := by
  unfold nameBody
  induction body generalizing catalog with
  | nil => exact sound
  | cons entry rest inductionHypothesis => exact inductionHypothesis (sound.offerName _ _)

theorem isSound_of_declareTable {name : Text} {base : Option Text} {choice : Choice}
    {body : List Clause} {next : Catalog} (sound : catalog.IsSound)
    (declared : declareTable catalog name base choice body = .ok next) :
    next.IsSound := by
  obtain ⟨⟨inside, labels⟩, declaredBody, rest⟩ := bind_eq_ok_iff.1 declared
  obtain ⟨extended, extending, named⟩ := bind_eq_ok_iff.1 rest
  have soundBody := isSound_of_declareBody sound declaredBody
  have soundTable := isSound_nameBody (isSound_of_extendBase soundBody extending) name labels
  dsimp only at named
  split at named
  all_goals
    cases named
    exact soundTable

/-! ## Modules -/

/-- A declaration that is not refused keeps the catalog sound. -/
theorem isSound_of_declare {statement : Statement} {next : Catalog} (sound : catalog.IsSound)
    (declared : declare catalog statement = .ok next) :
    next.IsSound := by
  cases statement with
  | enumeration name entries kind =>
    obtain ⟨choices, _, rfl⟩ := map_eq_ok_iff.1 declared
    exact sound.add trivial
  | plain name =>
    obtain ⟨fields, _, rfl⟩ := map_eq_ok_iff.1 declared
    exact sound.add trivial
  | route declaration =>
    obtain ⟨made, making, rfl⟩ := map_eq_ok_iff.1 declared
    exact sound.add (isSoundAs_of_declareClass making)
  | table name base choice body => exact isSound_of_declareTable sound declared

/-- Whatever is declared in a module, its catalog stays sound. -/
theorem Module.isSound_declareAll {module : Module} (sound : module.catalog.IsSound)
    (statements : List Statement) :
    (module.declareAll statements).1.catalog.IsSound := by
  induction statements generalizing module with
  | nil => exact sound
  | cons statement rest inductionHypothesis =>
    unfold declareAll
    apply inductionHypothesis
    unfold Module.declare
    split
    · exact sound
    · rename_i declared
      exact isSound_of_declare sound declared

theorem Module.isSound_of_declareAll {statements : List Statement} {catalog : Catalog}
    (reached : (({} : Module).declareAll statements).1.catalog = catalog) :
    catalog.IsSound := by
  have empty : ({} : Module).catalog.IsSound := trivial
  exact reached ▸ Module.isSound_declareAll empty statements

end TypedRoutes.Declaration
