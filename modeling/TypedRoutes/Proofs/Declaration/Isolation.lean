import TypedRoutes.Proofs.Declaration.Handout

/-!
Contract: the classes of a table are tried as if each were alone.

All attempts share one slot. One that comes to nothing sets it back, so the next one finds it as the
first one did. What a table resolves a request to is told by what its classes come to when each has
a slot of its own; those that come to nothing do not count, wherever they stand.

Owns: the first settled result, and that a table of a module comes to it.
-/

set_option autoImplicit false

namespace TypedRoutes.Table

open TypedRoutes.Matching

/-- Whether a result ends the search: there is an instance, or a factory has failed. -/
def isSettled : Resolved → Bool
  | .ok none => false
  | _ => true

/-- The first result that ends the search. -/
def firstSettled (results : List Resolved) : Resolved :=
  (results.find? isSettled).getD (.ok none)

theorem firstSettled_cons_of_settled {result : Resolved} (settled : isSettled result = true)
    (others : List Resolved) :
    firstSettled (result :: others) = result := by
  simp [firstSettled, settled]

theorem firstSettled_cons_of_unsettled {result : Resolved} (unsettled : isSettled result = false)
    (others : List Resolved) :
    firstSettled (result :: others) = firstSettled others := by
  simp [firstSettled, unsettled]

theorem firstSettled_filter (results : List Resolved) :
    firstSettled (results.filter isSettled) = firstSettled results := by
  unfold firstSettled
  rw [List.find?_filter]
  congr 2
  funext result
  simp

section

variable
  {nested : ClassRef → Option Resolver}
  {accounts : ClassRef → Option Account}
  {produce : Producer}

/-- A class that comes to nothing leaves the slot as it was, however far the attempt got. -/
theorem Variant.slot_eq_of_unresolved {variant : Variant} {text : Text} {slot : Slot Value}
    (agree : ∀ cls, Agrees (accounts cls) (nested cls))
    (unresolved : (variant.resolve nested produce text slot).result = .ok none) :
    (variant.resolve nested produce text slot).slot = slot := by
  cases matched : variant.matcher.verdict text with
  | failed =>
    unfold resolve
    rw [matched]
  | leftOver rest =>
    unfold resolve
    rw [matched]
  | matched captures =>
    obtain ⟨name, filled⟩ := exists_field_of_unresolved matched unresolved
    have payload :
        (fill nested produce (variant.route.captured captures) slot).slot.payload =
          slot.payload :=
      payload_fill agree _ slot
    unfold resolve
    rw [matched]
    dsimp only
    rw [filled]
    show Slot.reset _ slot.mark = slot
    unfold Slot.reset Slot.mark
    rw [payload]

/-- Classes that are tried in order come to what the first one of them comes to that ends the
search, each with the slot that there was at first. -/
theorem result_resolveFirst (agree : ∀ cls, Agrees (accounts cls) (nested cls))
    (variants : List Variant) (text : Text) (slot : Slot Value) :
    (resolveFirst nested produce variants text slot).result =
      firstSettled
        (variants.map fun variant => (variant.resolve nested produce text slot).result) := by
  induction variants with
  | nil => rfl
  | cons variant rest inductionHypothesis =>
    rw [List.map_cons, resolveFirst]
    dsimp only
    cases result : (variant.resolve nested produce text slot).result with
    | error error =>
      rw [firstSettled_cons_of_settled rfl]
      exact result
    | ok value =>
      cases value with
      | some value => rw [firstSettled_cons_of_settled rfl]
      | none =>
        rw [firstSettled_cons_of_unsettled rfl, Variant.slot_eq_of_unresolved agree result]
        exact inductionHypothesis

end

/-- A table in which no class stands in the place of resolving. -/
def Catalog.Searches (catalog : Catalog) (table : RouteTable) : Prop :=
  catalog.part? table "switch" = none ∧ catalog.part? table "_resolve" = none

/-- What is computed of a table of a catalog is so. -/
theorem Catalog.exists_table_of_any (catalog : Catalog) (cls : ClassRef) (holds : RouteTable → Bool)
    (computed :
      ((catalog.declared? cls).any fun declared =>
        match declared with
        | .table table => holds table
        | _ => false) = true) :
    ∃ table, Declared.table table ∈ catalog.declarations ∧ holds table = true := by
  obtain ⟨declared, found, fine⟩ := (Option.any_eq_true _ _).1 computed
  cases declared with
  | table table => exact ⟨table, mem_of_numberedIn? found, fine⟩
  | enumeration choices => cases fine
  | route route form => cases fine

instance (catalog : Catalog) (table : RouteTable) : Decidable (catalog.Searches table) :=
  decidable_of_iff
    ((catalog.part? table "switch").isNone = true ∧ (catalog.part? table "_resolve").isNone = true)
    (and_congr Option.isNone_iff_eq_none Option.isNone_iff_eq_none)

theorem Catalog.exists_searched_of_any (catalog : Catalog) (cls : ClassRef)
    (holds : RouteTable → Bool)
    (computed :
      ((catalog.declared? cls).any fun declared =>
        match declared with
        | .table table => decide (catalog.Searches table) && holds table
        | _ => false) = true) :
    ∃ table, Declared.table table ∈ catalog.declarations ∧ catalog.Searches table ∧
      holds table = true := by
  obtain ⟨table, known, conditions⟩ := exists_table_of_any catalog cls _ computed
  rw [Bool.and_eq_true, decide_eq_true_eq] at conditions
  exact ⟨table, known, conditions⟩

/-- What a class comes to alone, with a slot of its own for the payload of a request. -/
def Catalog.alone (catalog : Catalog) (request : Request) (variant : Variant) : Resolved :=
  (variant.resolve catalog.nested catalog.evaluate request.route request.slot).result

/-- A table in which no class stands in the place of resolving tries its classes in order. -/
theorem Catalog.Searches.result_switch {catalog : Catalog} {table : RouteTable}
    (searches : catalog.Searches table) (request : Request) :
    (catalog.switch table request).result =
      (resolveFirst catalog.nested catalog.evaluate table.variants request.route
        request.slot).result := by
  obtain ⟨unswitched, unresolved⟩ := searches
  have same :
      (catalog.switch table request).result =
        (table.resolver catalog.nested catalog.declared? catalog.evaluate request.route
          request.slot).result := by
    unfold switch
    rw [unswitched]
    dsimp only
    split
    · rfl
    · rfl
  rw [same, RouteTable.resolver]
  unfold part? at unresolved
  rw [unresolved]

/-- A table in which the classes are searched comes to what they come to alone. -/
theorem Catalog.result_switch {catalog : Catalog} {table : RouteTable}
    (agree : ∀ cls, Agrees (catalog.accounts cls) (catalog.nested cls))
    (searches : catalog.Searches table) (request : Request) :
    (catalog.switch table request).result =
      firstSettled (table.variants.map (catalog.alone request)) :=
  (searches.result_switch request).trans
    (result_resolveFirst agree table.variants request.route request.slot)

end TypedRoutes.Table

namespace TypedRoutes.Declaration

open TypedRoutes.Matching TypedRoutes.Table

/-- Classes that do not come to an instance leave no trace. Whatever is declared in a module, a
table of it in which no class stands in the place of resolving comes to the first settled result of
its classes, each of them tried alone with a slot of its own. Any other such table with the same
classes that end the search for this request, in the same order, comes to the same, whatever else is
tried in it and wherever. -/
theorem Module.switch_eq_firstSettled {statements : List Statement} {table : RouteTable}
    (searches : (({} : Module).declareAll statements).1.catalog.Searches table)
    (request : Request) :
    let catalog := (({} : Module).declareAll statements).1.catalog
    (catalog.switch table request).result =
        firstSettled (table.variants.map (catalog.alone request)) ∧
      ∀ other : RouteTable, catalog.Searches other →
        other.variants.filter (isSettled ∘ catalog.alone request) =
            table.variants.filter (isSettled ∘ catalog.alone request) →
          (catalog.switch other request).result = (catalog.switch table request).result := by
  intro catalog
  have agree := Module.agrees_declareAll statements
  refine ⟨Catalog.result_switch agree searches request, ?_⟩
  intro other searchesOther sameSettled
  rw [Catalog.result_switch agree searches, Catalog.result_switch agree searchesOther,
    ← firstSettled_filter, List.filter_map, sameSettled, ← List.filter_map, firstSettled_filter]

/-- The law at a table whose first class has taken the payload when it fails. Left out, that class
is not missed. -/
theorem Module.switch_eq_firstSettled_nested :
    let catalog := (({} : Module).declareAll nestedPage).1.catalog
    let request : Request := ⟨"abc".toList, .scalar (.text "x".toList)⟩
    ∃ table : RouteTable, Declared.table table ∈ catalog.declarations ∧
      catalog.Searches table ∧
        table.variants.map (isSettled ∘ catalog.alone request) = [false, true] ∧
          (catalog.switch table request).result =
              firstSettled (table.variants.map (catalog.alone request)) ∧
            (catalog.switch { table with variants := table.variants.drop 1 } request).result =
              (catalog.switch table request).result := by
  intro catalog request
  obtain ⟨table, known, searches, settled⟩ :=
    Catalog.exists_searched_of_any catalog ⟨2, "Inner".toList, []⟩
      (fun table => table.variants.map (isSettled ∘ catalog.alone request) = [false, true])
      (by decide +kernel)
  replace settled := of_decide_eq_true settled
  obtain ⟨law, stable⟩ := Module.switch_eq_firstSettled searches request
  refine ⟨table, known, searches, settled, law, stable _ searches ?_⟩
  show (table.variants.drop 1).filter _ = table.variants.filter _
  cases variants : table.variants with
  | nil => rfl
  | cons first rest =>
    rw [variants] at settled
    have failing : (isSettled ∘ catalog.alone request) first = false :=
      (List.cons.inj settled).1
    rw [List.drop_one, List.tail_cons, List.filter_cons_of_neg (Bool.eq_false_iff.1 failing)]

/-- Whether every table of a module comes to what its classes come to alone. -/
def ResolvesAlone (statements : List Statement) : Prop :=
  let catalog := (({} : Module).declareAll statements).1.catalog
  ∀ (table : RouteTable) (request : Request),
    Declared.table table ∈ catalog.declarations →
      (catalog.switch table request).result =
        firstSettled (table.variants.map (catalog.alone request))

/-- A module with a table of one class, which has a given name and matches routes strictly. -/
def soleVariant (name : String) : List Statement :=
  [.table "App".toList none .none
    [.route
      { name := name.toList
        pattern := some "/{a}".toList
        settings := .settings ⟨true, true, false⟩
        shape := .record
        fields := [{ name := "a".toList, type := .known .text }] }]]

/-- A table does not try its classes if one of them stands in the place of one of the two steps of
resolving, by its name. -/
theorem not_resolvesAlone :
    ¬ ResolvesAlone (soleVariant "switch") ∧ ¬ ResolvesAlone (soleVariant "_resolve") := by
  have refuted
      (statements : List Statement)
      (request : Request)
      (computed :
        let catalog := (({} : Module).declareAll statements).1.catalog
        ((catalog.declared? ⟨1, "App".toList, []⟩).any fun declared =>
          match declared with
          | .table table =>
            decide ((catalog.switch table request).result.toOption.join ≠
              (firstSettled (table.variants.map (catalog.alone request))).toOption.join)
          | _ => false) = true) :
      ¬ ResolvesAlone statements := by
    intro resolves
    obtain ⟨table, known, different⟩ := Catalog.exists_table_of_any _ _ _ computed
    apply of_decide_eq_true different
    rw [resolves table request known]
  constructor
  · exact refuted _ ⟨"/x".toList, .absent⟩ (by decide +kernel)
  · exact refuted _ ⟨"/x".toList, .absent⟩ (by decide +kernel)

end TypedRoutes.Declaration
