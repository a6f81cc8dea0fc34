import TypedRoutes.Proofs.Declaration.Isolation
import TypedRoutes.Proofs.Table.Reach

/-!
Contract: tables keep resolving as they do when more is declared.

A table has its own classes with the forms they had when it was declared, so other tables can use
these classes with settings of their own. What the fields of its classes are read as is looked up
anew each time: a class there that a later table gives new settings is matched with these from then
on. And factories look up names when they run, which can be given to something else.

Owns: when a declaration spares a table, and that it then makes no difference to the table.
-/

set_option autoImplicit false

namespace TypedRoutes.Declaration

open TypedRoutes.Matching TypedRoutes.Table

/-- A declaration that comes to a catalog spares a table of the one before: no route class that is
reached from the table gets a new form, and the names that factories look up on the way keep what
they stand for. -/
structure Spares (catalog next : Catalog) (table : RouteTable) (statement : Statement) : Prop where
  forms :
    ∀ route form, catalog.Reaches table (.route route (some form)) →
      ¬ Recasts catalog route form statement
  names :
    ∀ name, catalog.Consults table name →
      Mapping.get? next.names name = Mapping.get? catalog.names name

theorem switch_eq_of_spares {catalog next : Catalog} {table : RouteTable} {statement : Statement}
    (sound : catalog.IsSound) (closed : catalog.IsClosed)
    (known : Declared.table table ∈ catalog.declarations)
    (declared : declare catalog statement = .ok next)
    (spared : Spares catalog next table statement) :
    Declared.table table ∈ next.declarations ∧ next.switch table = catalog.switch table := by
  obtain ⟨newer, default, labels, grown, recasts⟩ := exists_newer_of_declare sound declared
  constructor
  · rw [grown]
    exact List.mem_append_right _ (List.mem_map.2 ⟨_, known, Declared.within_table table⟩)
  · refine Catalog.switch_of_grown grown closed known (fun inner reached => ?_) spared.names
    rcases inner with choices | ⟨route, _ | form⟩ | inner
    · rfl
    · rfl
    · by_contra changed
      have found := sound.form?_of_mem (reached.mem known)
      exact spared.forms route form reached (recasts route form found changed)
    · rfl

/-- Declarations one after the other spare a table, each in the module that it comes to. Those that
are refused do not count. -/
def SpareAll (table : RouteTable) : Module → List Statement → Prop
  | _, [] => True
  | module, statement :: rest =>
    (∀ next, declare module.catalog statement = .ok next →
        Spares module.catalog next table statement) ∧
      SpareAll table (module.declare statement).1 rest

/-- A table comes to the same after any number of declarations that spare it. -/
theorem Module.switch_declareAll {module : Module} {table : RouteTable} {later : List Statement}
    (sound : module.catalog.IsSound) (closed : module.catalog.IsClosed)
    (known : Declared.table table ∈ module.catalog.declarations)
    (named : ∀ statement ∈ later, statement.isByName = true)
    (spared : SpareAll table module later) :
    Declared.table table ∈ (module.declareAll later).1.catalog.declarations ∧
      (module.declareAll later).1.catalog.switch table = module.catalog.switch table := by
  induction later generalizing module with
  | nil => exact ⟨known, rfl⟩
  | cons statement rest inductionHypothesis =>
    obtain ⟨namedHere, namedLater⟩ := List.forall_mem_cons.1 named
    obtain ⟨sparedHere, sparedLater⟩ := spared
    unfold declareAll
    cases declared : Declaration.declare module.catalog statement with
    | error error =>
      have refused : (module.declare statement).1.catalog = module.catalog := by
        unfold Module.declare
        rw [declared]
      have kept :=
        inductionHypothesis (refused ▸ sound) (refused ▸ closed) (refused ▸ known) namedLater
          sparedLater
      rwa [refused] at kept
    | ok next =>
      have accepted : (module.declare statement).1.catalog = next := by
        unfold Module.declare
        rw [declared]
      obtain ⟨stays, same⟩ :=
        switch_eq_of_spares sound closed known declared (sparedHere _ declared)
      have kept :=
        inductionHypothesis (accepted ▸ isSound_of_declare sound declared)
          (accepted ▸ isClosed_of_declare sound closed namedHere declared) (accepted ▸ stays)
          namedLater sparedLater
      rwa [accepted, same] at kept

/-- Whatever is declared in a module with types that name their classes, a table of it stays, and
comes to the same for every request, after any further declaration that spares it. Such a
declaration can take the classes of the table into one with other settings, extend the table, or use
it as the type of a field. -/
theorem Module.switch_eq_of_declare {statements : List Statement} {statement : Statement}
    {next : Catalog} {table : RouteTable} (named : ∀ earlier ∈ statements, earlier.isByName = true)
    (known : Declared.table table ∈ (({} : Module).declareAll statements).1.catalog.declarations)
    (declared :
      Declaration.declare (({} : Module).declareAll statements).1.catalog statement = .ok next)
    (spared : Spares (({} : Module).declareAll statements).1.catalog next table statement) :
    Declared.table table ∈ next.declarations ∧
      ∀ request : Request,
        next.switch table request =
          (({} : Module).declareAll statements).1.catalog.switch table request := by
  have empty : ({} : Module).catalog.IsSound := trivial
  have sound := Module.isSound_declareAll empty statements
  have closed := Module.isClosed_declareAll empty Catalog.isClosed_empty named
  obtain ⟨stays, same⟩ := switch_eq_of_spares sound closed known declared spared
  exact ⟨stays, congrFun same⟩

/-- A module with a route class, and a table that reads a field as it and tries a second class. -/
def pageSite : List Statement :=
  [.route
      { name := "Index".toList
        pattern := some "/docs".toList
        settings := .none
        shape := .record
        fields := [] },
    .table "Site".toList none .none
      [.route
          { name := "Page".toList
            pattern := some "/site{*:page}".toList
            settings := .none
            shape := .record
            fields := [{ name := "page".toList, type := .named "Index".toList }] },
        .route
          { name := "Home".toList
            pattern := some "/home".toList
            settings := .none
            shape := .record
            fields := [] }]]

/-- A table that matches whatever case letters have, with a class that has been declared before. -/
def laxTable (used : String) : Statement :=
  .table "Late".toList none (.settings ⟨false, true, true⟩) [.use used.toList "Used".toList]

/-- Whether a declaration is the route class of a number, without factories and without fields that
are read as other classes. -/
def Declared.isPlain (number : Nat) : Declared → Bool
  | .route route form =>
    (Declared.route route form).reads.isEmpty && route.recipes.isEmpty &&
      decide (route.cls.number = number)
  | _ => false

theorem Declared.exists_of_isPlain {declared : Declared} {number : Nat}
    (plain : Declared.isPlain number declared = true) :
    ∃ route form, declared = .route route form ∧ declared.reads = [] ∧ route.recipes = [] ∧
      route.cls.number = number := by
  cases declared with
  | enumeration choices => cases plain
  | table other => cases plain
  | route route form =>
    simp only [Declared.isPlain, Bool.and_eq_true, List.isEmpty_iff, decide_eq_true_eq] at plain
    exact ⟨route, form, rfl, plain.1.1, plain.1.2, plain.2⟩

/-- A table whose fields are read as one class at most, which is plain, reaches nothing else. -/
theorem Catalog.eq_or_isPlain_of_reaches {catalog : Catalog} {table : RouteTable}
    {declared : Declared} {read : ClassRef} (reads : (Declared.table table).reads = [read])
    (plain : (catalog.declared? read).all (Declared.isPlain read.number) = true)
    (reached : catalog.Reaches table declared) :
    declared = .table table ∨ Declared.isPlain read.number declared = true := by
  induction reached with
  | itself => exact .inl rfl
  | @field outer inner cls _ member found inductionHypothesis =>
    rcases inductionHypothesis with rfl | leaf
    · rw [reads, List.mem_singleton] at member
      rw [← member, found] at plain
      exact .inr (member ▸ plain)
    · obtain ⟨_, _, _, none, _⟩ := Declared.exists_of_isPlain leaf
      rw [none] at member
      cases member

/-- Without factories, and without classes in the place of resolving, no name is looked up. -/
theorem Catalog.not_consults {catalog : Catalog} {table : RouteTable} {number : Nat}
    (searches : Catalog.Searches catalog table)
    (unmade : ∀ variant ∈ table.variants, variant.route.recipes = [])
    (plain :
      ∀ declared, catalog.Reaches table declared →
        declared = .table table ∨ Declared.isPlain number declared = true)
    (name : Text) :
    ¬ catalog.Consults table name := by
  rintro ⟨route, recipe, makes, made, _⟩
  have none : route.recipes = [] := by
    cases makes with
    | tried reached tried =>
      rcases plain _ reached with rfl | leaf
      · exact unmade _ tried
      · obtain ⟨route, form, rfl, _, none, _⟩ := Declared.exists_of_isPlain leaf
        cases form with
        | none => cases tried
        | some form =>
          cases List.mem_singleton.1 tried
          exact none
    | resolving reached placed =>
      rcases plain _ reached with same | leaf
      · cases same
        simp [searches.2] at placed
      · obtain ⟨_, _, same, _⟩ := Declared.exists_of_isPlain leaf
        cases same
    | switching placed => simp [searches.1] at placed
  rw [none] at made
  cases made

/-- A table of the module is spared by one that takes its second class: its first class reads a
field as a third one. -/
theorem exists_spares_laxTable :
    let catalog := (({} : Module).declareAll pageSite).1.catalog
    ∃ table : RouteTable, Declared.table table ∈ catalog.declarations ∧
      ∀ next, Spares catalog next table (laxTable "Site.Home") := by
  intro catalog
  let index : ClassRef := ⟨0, "Index".toList, []⟩
  obtain ⟨table, known, computed⟩ :=
    Catalog.exists_table_of_any catalog ⟨3, "Site".toList, []⟩
      (fun table =>
        (catalog.part? table "switch").isNone && (catalog.part? table "_resolve").isNone &&
          decide ((Declared.table table).reads = [index]) &&
            table.variants.all (·.route.recipes.isEmpty))
      (by decide +kernel)
  simp only [Bool.and_eq_true, decide_eq_true_eq, Option.isNone_iff_eq_none, List.all_eq_true,
    List.isEmpty_iff] at computed
  obtain ⟨⟨searches, reads⟩, unmade⟩ := computed
  have plain (declared : Declared) (reached : catalog.Reaches table declared) :
      declared = .table table ∨ Declared.isPlain 0 declared = true :=
    Catalog.eq_or_isPlain_of_reaches reads (by decide +kernel) reached
  have labelled :
      ((declareBody "Late".toList catalog [] [.use "Site.Home".toList "Used".toList]).toOption.map
        fun declared => declared.2.map (·.2.number)) = some [2] := by decide +kernel
  refine ⟨table, known, fun next => ⟨fun route form reached recast => ?_, fun name consults => ?_⟩⟩
  · rcases plain _ reached with same | leaf
    · cases same
    · obtain ⟨_, _, same, _, _, number⟩ := Declared.exists_of_isPlain leaf
      cases same
      cases recast with
      | @table _ _ _ _ _ labels _ _ _ listed used _ _ =>
        rw [listed] at labelled
        have numbers : labels.map (·.2.number) = [2] := Option.some.inj labelled
        obtain ⟨entry, inside, same⟩ := List.mem_map.1 used
        have member : entry.2.number ∈ labels.map (·.2.number) := List.mem_map_of_mem inside
        rw [numbers, List.mem_singleton, same, number] at member
        cases member
  · exact absurd consults (Catalog.not_consults searches unmade plain name)

/-- The law for a table of which a later one takes a class and gives it other settings, but not the
one that a field is read as. -/
theorem Module.switch_eq_of_declare_reused :
    let catalog := (({} : Module).declareAll pageSite).1.catalog
    let home : ClassRef := ⟨2, "Site.Home".toList, []⟩
    ∃ (table : RouteTable) (next : Catalog),
      Declared.table table ∈ catalog.declarations ∧
        Declaration.declare catalog (laxTable "Site.Home") = .ok next ∧
          Spares catalog next table (laxTable "Site.Home") ∧
            (catalog.form? home).map (·.2.matcher.settings.caseInsensitive) = some false ∧
              (next.form? home).map (·.2.matcher.settings.caseInsensitive) = some true ∧
                Declared.table table ∈ next.declarations ∧
                  ∀ request : Request,
                    next.switch table request = catalog.switch table request := by
  intro catalog home
  obtain ⟨table, known, spares⟩ := exists_spares_laxTable
  cases declared : Declaration.declare catalog (laxTable "Site.Home") with
  | error error =>
    have computed :
        (Declaration.declare catalog (laxTable "Site.Home")).toOption.isSome = true := by
      decide +kernel
    rw [declared] at computed
    cases computed
  | ok next =>
    have before :
        (catalog.form? home).map (·.2.matcher.settings.caseInsensitive) = some false := by
      decide +kernel
    have after :
        ((Declaration.declare catalog (laxTable "Site.Home")).toOption.bind fun next =>
          (next.form? home).map (·.2.matcher.settings.caseInsensitive)) = some true := by
      decide +kernel
    rw [declared] at after
    have named : ∀ earlier ∈ pageSite, earlier.isByName = true := by decide +kernel
    obtain ⟨stays, same⟩ := Module.switch_eq_of_declare named known declared (spares next)
    exact ⟨table, next, known, rfl, spares next, before, after, stays, same⟩

/-- Whether a declaration leaves all tables of a module as they are. -/
def KeepsTables (statements : List Statement) (statement : Statement) : Prop :=
  let catalog := (({} : Module).declareAll statements).1.catalog
  ∀ (next : Catalog) (table : RouteTable) (request : Request),
    declare catalog statement = .ok next → Declared.table table ∈ catalog.declarations →
      (next.switch table request).result = (catalog.switch table request).result

/-- Whether a declaration is accepted and a table comes to something else for a request then. -/
def Catalog.altersSwitch (catalog : Catalog) (statement : Statement) (request : Request)
    (table : RouteTable) :
    Bool :=
  match declare catalog statement with
  | .ok next =>
    decide ((next.switch table request).result.toOption.join ≠
      (catalog.switch table request).result.toOption.join)
  | .error _ => false

theorem Catalog.exists_of_altersSwitch {catalog : Catalog} {statement : Statement}
    {request : Request} {table : RouteTable}
    (altered : Catalog.altersSwitch catalog statement request table = true) :
    ∃ next, declare catalog statement = .ok next ∧
      (next.switch table request).result ≠ (catalog.switch table request).result := by
  unfold Catalog.altersSwitch at altered
  cases declared : declare catalog statement with
  | error error =>
    rw [declared] at altered
    cases altered
  | ok next =>
    rw [declared] at altered
    exact ⟨next, rfl, fun same => of_decide_eq_true altered (by rw [same])⟩

/-- A module with a table whose class has a factory that makes an instance of a class. -/
def factorySite (made : String) : List Statement :=
  [.table "Site".toList none .none
    [.route
      { name := "Page".toList
        pattern := some "/a(/{x})".toList
        settings := .none
        shape := .record
        fields :=
          [{ name := "x".toList
             type := .known .text
             factory := some (.record made.toList []) }] }]]

def lateTable : Statement :=
  .table "Late".toList none .none
    [.route
      { name := "Made".toList
        pattern := some "/made".toList
        settings := .none
        shape := .record
        fields := [] }]

/-- A table does not come to the same when a class that is reached from it gets a new form, or when
a name that a factory looks up is given. -/
theorem not_keepsTables :
    ¬ KeepsTables pageSite (laxTable "Index") ∧
      ¬ KeepsTables (factorySite "Late.Made") lateTable := by
  have refuted
      (statements : List Statement)
      (statement : Statement)
      (request : Request)
      (altered :
        let catalog := (({} : Module).declareAll statements).1.catalog
        ∃ table, Declared.table table ∈ catalog.declarations ∧
          Catalog.altersSwitch catalog statement request table = true) :
      ¬ KeepsTables statements statement := by
    intro keeps
    obtain ⟨table, known, altered⟩ := altered
    obtain ⟨next, declared, differs⟩ := Catalog.exists_of_altersSwitch altered
    exact differs (keeps next table request declared known)
  constructor
  · refine refuted _ _ ⟨"/site/DOCS".toList, .absent⟩ ?_
    exact Catalog.exists_table_of_any _ ⟨3, "Site".toList, []⟩ _ (by decide +kernel)
  · refine refuted _ _ ⟨"/a".toList, .absent⟩ ?_
    exact Catalog.exists_table_of_any _ ⟨1, "Site".toList, []⟩ _ (by decide +kernel)

end TypedRoutes.Declaration
