import TypedRoutes.Proofs.Declaration.Soundness

/-!
Contract: in a module, what is true of classes as they are declared is true wherever they are used.

A route class is used on its own, with its current form, and in the tables that have taken it in. A
table takes its classes from the catalog of the moment, and those of the table it extends. Their
fields are then what they were when each class was declared, and their matchers are those of the
pattern texts. What does not depend on settings is true of all these uses if it is of each class as
it is declared.

Owns: the classes that a catalog knows, and that declaring keeps what is true of them.
-/

set_option autoImplicit false

namespace TypedRoutes.Table

open TypedRoutes.Declaration TypedRoutes.Matching

def RouteClass.HasOwnNames (route : RouteClass) : Prop :=
  (route.fields.map (·.name)).Nodup

/-- All classes that a table tries have fields with names of their own. -/
def RouteTable.HasOwnNames (table : RouteTable) : Prop :=
  ∀ variant ∈ table.variants, variant.route.HasOwnNames

/-- A class as a table takes it: with fields as it was declared with, and the matcher of its pattern
text. -/
structure Variant.IsSound (variant : Variant) : Prop where
  distinct : variant.route.HasOwnNames
  compiled :
    Matcher.compile variant.matcher.text variant.matcher.settings = .ok variant.matcher

def Variant.withSettings (variant : Variant) (settings : Settings) : Variant :=
  { variant with matcher := variant.matcher.withSettings settings }

namespace Catalog

variable {catalog : Catalog} {holds : Variant → Prop}

/-- All tables of a catalog try classes of which something holds. -/
def Tries (catalog : Catalog) (holds : Variant → Prop) : Prop :=
  ∀ table, Declared.table table ∈ catalog.declarations → ∀ variant ∈ table.variants, holds variant

/-- All tables of a catalog try classes that have fields with names of their own. -/
def HasOwnNames (catalog : Catalog) : Prop :=
  ∀ table, Declared.table table ∈ catalog.declarations → table.HasOwnNames

/-- A class with the matcher that a catalog uses for it: on its own, or in a table. -/
inductive Knows (catalog : Catalog) : Variant → Prop
  | alone {route : RouteClass} {form : Form}
      (known : Declared.route route (some form) ∈ catalog.declarations) :
      Knows catalog ⟨route, form.matcher⟩
  | tried {table : RouteTable} {variant : Variant}
      (known : Declared.table table ∈ catalog.declarations) (tried : variant ∈ table.variants) :
      Knows catalog variant

/-- Something holds of all classes that a catalog knows. -/
def Keeps (catalog : Catalog) (holds : Variant → Prop) : Prop :=
  ∀ variant, catalog.Knows variant → holds variant

theorem mem_of_numberedIn? {declarations : List Declared} {number : Nat} {declared : Declared}
    (found : numberedIn? declarations number = some declared) :
    declared ∈ declarations := by
  induction declarations with
  | nil => cases found
  | cons newest earlier inductionHypothesis =>
    unfold numberedIn? at found
    split at found
    · cases found
      exact List.mem_cons_self
    · exact List.mem_cons_of_mem _ (inductionHypothesis found)

/-- What holds of current forms and in tables holds of all that is known. -/
theorem Tries.keeps (tries : catalog.Tries holds)
    (alone : ∀ route form, Declared.route route (some form) ∈ catalog.declarations →
      holds ⟨route, form.matcher⟩) :
    catalog.Keeps holds := by
  intro variant knows
  cases knows with
  | alone known => exact alone _ _ known
  | tried known tried => exact tries _ known variant tried

theorem Keeps.tries (keeps : catalog.Keeps holds) : catalog.Tries holds :=
  fun _ known variant tried => keeps variant (.tried known tried)

theorem mem_of_form? {cls : ClassRef} {route : RouteClass} {form : Form}
    (found : catalog.form? cls = some (route, form)) :
    Declared.route route (some form) ∈ catalog.declarations := by
  unfold form? declared? at found
  split at found
  · rename_i known
    cases found
    exact mem_of_numberedIn? known
  · cases found

theorem knows_of_form? {cls : ClassRef} {route : RouteClass} {form : Form}
    (found : catalog.form? cls = some (route, form)) :
    catalog.Knows ⟨route, form.matcher⟩ :=
  .alone (mem_of_form? found)

theorem IsSound.hasOwnNames_of_mem {route : RouteClass} {form : Form} (sound : catalog.IsSound)
    (known : Declared.route route (some form) ∈ catalog.declarations) :
    route.HasOwnNames :=
  (sound.of_form? (sound.form?_of_mem known)).1.distinct

theorem Tries.of_find? {name : Text} {table : RouteTable} (tries : catalog.Tries holds)
    (found : catalog.find? name = some (.table table)) :
    ∀ variant ∈ table.variants, holds variant := by
  unfold find? at found
  split at found
  · cases found
  · exact tries table (mem_of_numberedIn? found)

theorem Keeps.addTable {table : RouteTable} (keeps : catalog.Keeps holds)
    (own : ∀ variant ∈ table.variants, holds variant) :
    (catalog.add (.table table)).Keeps holds := by
  refine Tries.keeps ?_ ?_
  · intro other member
    rcases List.mem_cons.1 member with same | earlier
    · cases same
      exact own
    · exact keeps.tries other earlier
  · intro route form member
    rcases List.mem_cons.1 member with same | earlier
    · cases same
    · exact keeps _ (.alone earlier)

theorem Keeps.addOther {declared : Declared} (keeps : catalog.Keeps holds)
    (other : ∀ table, declared ≠ .table table)
    (own : ∀ route form, declared = .route route (some form) → holds ⟨route, form.matcher⟩) :
    (catalog.add declared).Keeps holds := by
  refine Tries.keeps ?_ ?_
  · intro table member
    rcases List.mem_cons.1 member with same | earlier
    · exact absurd same.symm (other table)
    · exact keeps.tries table earlier
  · intro route form member
    rcases List.mem_cons.1 member with same | earlier
    · exact own route form same.symm
    · exact keeps _ (.alone earlier)

theorem Keeps.addEnumeration (keeps : catalog.Keeps holds) (choices : Enumeration) :
    (catalog.add (.enumeration choices)).Keeps holds :=
  keeps.addOther (fun _ same => by cases same) (fun _ _ same => by cases same)

theorem Keeps.addFormless (keeps : catalog.Keeps holds) (route : RouteClass) :
    (catalog.add (.route route none)).Keeps holds :=
  keeps.addOther (fun _ same => by cases same) (fun _ _ same => by cases same)

/-- A new form for a class has to be one of which this holds. -/
theorem Keeps.setForm {cls : ClassRef} {route : RouteClass} {old new : Form}
    (sound : catalog.IsSound) (keeps : catalog.Keeps holds)
    (found : catalog.form? cls = some (route, old)) (fits : holds ⟨route, new.matcher⟩) :
    (catalog.setForm cls new).Keeps holds := by
  refine Tries.keeps ?_ ?_
  · intro table member
    obtain ⟨declared, inside, same⟩ := List.mem_map.1 member
    split at same
    · cases same
    · exact keeps.tries table (same ▸ inside)
  · intro chosen form member
    obtain ⟨declared, inside, same⟩ := List.mem_map.1 member
    split at same
    · rename_i current
      cases same
      -- The class that gets the new form is the one that was found under the same number.
      by_cases taken : chosen.cls = cls
      · have known := sound.form?_of_mem inside
        rw [taken, found] at known
        cases known
        rw [if_pos taken]
        exact fits
      · rw [if_neg taken]
        exact keeps _ (.alone inside)
    · exact keeps _ (.alone (same ▸ inside))

theorem Keeps.offerName (keeps : catalog.Keeps holds) (name : Text) (cls : ClassRef) :
    (catalog.offerName name cls).Keeps holds := by
  unfold Catalog.offerName
  split
  · exact keeps
  · exact Tries.keeps keeps.tries fun route form known => keeps _ (.alone known)

theorem Keeps.giveName (keeps : catalog.Keeps holds) (name : Text) (cls : ClassRef) :
    (catalog.giveName name cls).Keeps holds :=
  Tries.keeps keeps.tries fun _ _ known => keeps _ (.alone known)

end Catalog

end TypedRoutes.Table

namespace TypedRoutes.Declaration

open TypedRoutes.Table TypedRoutes.Matching

/-- Something that is true of each class as it is declared, whatever its settings are. -/
structure IsLasting (holds : Variant → Prop) : Prop where
  declared : ∀ {catalog : Catalog} {name : Text} {declaration : RouteDeclaration}
    {route : RouteClass} {form : Form},
    declareClass catalog name declaration = .ok (.route route (some form)) →
      holds ⟨route, form.matcher⟩
  withSettings : ∀ {variant : Variant} (settings : Settings),
    holds variant → holds (variant.withSettings settings)

variable {catalog : Catalog} {holds : Variant → Prop}

theorem keeps_of_declareClass {name : Text} {declaration : RouteDeclaration} {declared : Declared}
    (lasting : IsLasting holds) (keeps : catalog.Keeps holds)
    (made : declareClass catalog name declaration = .ok declared) :
    (catalog.add declared).Keeps holds := by
  obtain ⟨route, form, rfl, _⟩ := exists_route_of_declareClass made
  refine keeps.addOther (fun _ same => by cases same) fun _ _ same => ?_
  cases same
  exact lasting.declared made

theorem keeps_of_declareBody {table : Text} {body labels : Mapping ClassRef} {clauses : List Clause}
    {next : Catalog} (lasting : IsLasting holds) (keeps : catalog.Keeps holds)
    (declared : declareBody table catalog body clauses = .ok (next, labels)) :
    next.Keeps holds := by
  induction clauses generalizing catalog body with
  | nil =>
    cases declared
    exact keeps
  | cons clause rest inductionHypothesis =>
    cases clause with
    | route declaration =>
      unfold declareBody at declared
      split at declared
      · cases declared
      · rename_i made
        exact inductionHypothesis (keeps_of_declareClass lasting keeps made) declared
    | use name label =>
      unfold declareBody at declared
      split at declared
      · cases declared
      · exact inductionHypothesis keeps declared

theorem keeps_collect (lasting : IsLasting holds) (default : Option Settings)
    (sound : catalog.IsSound) (keeps : catalog.Keeps holds) (body : Mapping ClassRef) :
    (collect default catalog body).1.Keeps holds ∧
      ∀ variant ∈ (collect default catalog body).2, holds variant := by
  induction body generalizing catalog with
  | nil => exact ⟨keeps, nofun⟩
  | cons entry rest inductionHypothesis =>
    obtain ⟨label, cls⟩ := entry
    unfold collect
    split
    · exact inductionHypothesis sound keeps
    · rename_i route form settings found
      have current := keeps _ (Catalog.knows_of_form? found)
      split
      · obtain ⟨first, others⟩ := inductionHypothesis sound keeps
        exact ⟨first, List.forall_mem_cons.2 ⟨current, others⟩⟩
      · have compiledAnew := (sound.of_form? found).2.withSettings settings
        have again := lasting.withSettings settings current
        obtain ⟨first, others⟩ :=
          inductionHypothesis (sound.setForm compiledAnew cls) (.setForm sound keeps found again)
        exact ⟨first, List.forall_mem_cons.2 ⟨again, others⟩⟩
    · rename_i route form found
      obtain ⟨first, others⟩ := inductionHypothesis sound keeps
      exact ⟨first, List.forall_mem_cons.2 ⟨keeps _ (Catalog.knows_of_form? found), others⟩⟩

theorem keeps_of_addTable {name : Text} {choice : Choice} {body : Mapping ClassRef}
    {base : Option RouteTable} {next : Catalog} (lasting : IsLasting holds)
    (sound : catalog.IsSound) (keeps : catalog.Keeps holds)
    (own : ∀ table ∈ base, ∀ variant ∈ table.variants, holds variant)
    (added : addTable catalog name choice body base = .ok next) :
    next.Keeps holds := by
  obtain ⟨default, _, rfl⟩ := exists_table_of_addTable added
  obtain ⟨after, taken⟩ := keeps_collect lasting default sound keeps body
  refine after.addTable fun variant member => ?_
  rcases List.mem_append.1 member with inherited | new
  · cases base with
    | none => cases inherited
    | some base => exact own base rfl variant inherited
  · exact taken variant new

theorem keeps_of_extendBase {name : Text} {choice : Choice} {body : Mapping ClassRef}
    {base : Option Text} {next : Catalog} (lasting : IsLasting holds) (sound : catalog.IsSound)
    (keeps : catalog.Keeps holds) (extended : extendBase catalog name choice body base = .ok next) :
    next.Keeps holds := by
  unfold extendBase at extended
  dsimp only at extended
  cases base with
  | none =>
    dsimp only at extended
    split at extended
    · cases extended
    · refine keeps_of_addTable lasting sound keeps ?_ extended
      intro table member
      cases member
  | some base =>
    dsimp only at extended
    cases found : catalog.find? base with
    | none =>
      rw [found] at extended
      cases extended
    | some declared =>
      rw [found] at extended
      cases declared with
      | table table =>
        dsimp only at extended
        split at extended
        · cases extended
        · refine keeps_of_addTable lasting sound keeps ?_ extended
          intro other same
          cases same
          exact keeps.tries.of_find? found
      | enumeration choices =>
        dsimp only at extended
        unfold addEnumeration at extended
        split at extended
        · cases extended
        · obtain ⟨_, _, rfl⟩ := map_eq_ok_iff.1 extended
          exact keeps.addEnumeration _
      | route chosen form =>
        dsimp only at extended
        split at extended
        · cases extended
        · unfold addDerived at extended
          split at extended
          · cases extended
          · split at extended
            · cases extended
            · cases extended
              exact keeps.addFormless _

theorem keeps_nameBody (keeps : catalog.Keeps holds) (table : Text) (body : Mapping ClassRef) :
    (nameBody catalog table body).Keeps holds := by
  unfold nameBody
  induction body generalizing catalog with
  | nil => exact keeps
  | cons entry rest inductionHypothesis => exact inductionHypothesis (keeps.offerName _ _)

/-- A declaration that is not refused makes no other classes known than these. -/
theorem keeps_of_declare {statement : Statement} {next : Catalog} (lasting : IsLasting holds)
    (sound : catalog.IsSound) (keeps : catalog.Keeps holds)
    (declared : declare catalog statement = .ok next) :
    next.Keeps holds := by
  cases statement with
  | enumeration name entries kind =>
    obtain ⟨choices, _, rfl⟩ := map_eq_ok_iff.1 declared
    exact (keeps.addEnumeration choices).giveName _ _
  | plain name =>
    obtain ⟨fields, _, rfl⟩ := map_eq_ok_iff.1 declared
    exact (keeps.addFormless _).giveName _ _
  | route declaration =>
    obtain ⟨made, making, rfl⟩ := map_eq_ok_iff.1 declared
    exact (keeps_of_declareClass lasting keeps making).giveName _ _
  | table name base choice body =>
    obtain ⟨⟨inside, labels⟩, declaredBody, rest⟩ := bind_eq_ok_iff.1 declared
    obtain ⟨extended, extending, finished⟩ := bind_eq_ok_iff.1 rest
    have soundBody := isSound_of_declareBody sound declaredBody
    have keepsBody := keeps_of_declareBody lasting keeps declaredBody
    have keepsTable := keeps_of_extendBase lasting soundBody keepsBody extending
    have labelled := keeps_nameBody keepsTable name labels
    dsimp only at finished
    split at finished
    · cases finished
      exact labelled
    · cases finished
      exact labelled.giveName _ _

/-- Whatever is declared in a module, what is true of classes as they are declared is true of all
that it knows. -/
theorem Module.keeps_declareAll {module : Module} (lasting : IsLasting holds)
    (sound : module.catalog.IsSound) (keeps : module.catalog.Keeps holds)
    (statements : List Statement) :
    (module.declareAll statements).1.catalog.Keeps holds := by
  induction statements generalizing module with
  | nil => exact keeps
  | cons statement rest inductionHypothesis =>
    have kept : (module.declare statement).1.catalog.IsSound ∧
        (module.declare statement).1.catalog.Keeps holds := by
      unfold Module.declare
      split
      · exact ⟨sound, keeps⟩
      · rename_i declared
        exact ⟨isSound_of_declare sound declared, keeps_of_declare lasting sound keeps declared⟩
    unfold declareAll
    exact inductionHypothesis kept.1 kept.2

/-- What is true of classes as they are declared is true of all that a module comes to know. -/
theorem Module.holds_of_knows {statements : List Statement} {variant : Variant}
    (lasting : IsLasting holds)
    (knows : (({} : Module).declareAll statements).1.catalog.Knows variant) :
    holds variant := by
  have empty : ({} : Module).catalog.IsSound := trivial
  have nothing : ({} : Module).catalog.Keeps holds := by
    intro variant knows
    cases knows with
    | alone known => cases known
    | tried known _ => cases known
  exact Module.keeps_declareAll lasting empty nothing statements variant knows

/-- A class is declared with the matcher of its pattern text, and has the one of the same text when
it gets other settings. -/
theorem isLasting_isSound : IsLasting Variant.IsSound where
  declared made :=
    have fits := isSoundAs_of_declareClass made
    ⟨fits.1.distinct, fits.2⟩
  withSettings {variant} settings sound :=
    have compiled : Form.IsCompiled ⟨variant.matcher, false⟩ := sound.compiled
    ⟨sound.distinct, compiled.withSettings settings⟩

theorem Module.hasOwnNames_declareAll {module : Module} (sound : module.catalog.IsSound)
    (named : module.catalog.HasOwnNames) (statements : List Statement) :
    (module.declareAll statements).1.catalog.HasOwnNames := by
  have lasting : IsLasting (·.route.HasOwnNames) :=
    { declared := fun made => (isSoundAs_of_declareClass made).1.distinct
      withSettings := fun _ distinct => distinct }
  have keeps : module.catalog.Keeps (·.route.HasOwnNames) :=
    Catalog.Tries.keeps named fun _ _ known => sound.hasOwnNames_of_mem known
  exact (Module.keeps_declareAll lasting sound keeps statements).tries

theorem Module.isSound_of_mem_variants {statements : List Statement} {table : RouteTable}
    {variant : Variant}
    (known : Declared.table table ∈ (({} : Module).declareAll statements).1.catalog.declarations)
    (tried : variant ∈ table.variants) :
    variant.IsSound :=
  Module.holds_of_knows isLasting_isSound (.tried known tried)

end TypedRoutes.Declaration
