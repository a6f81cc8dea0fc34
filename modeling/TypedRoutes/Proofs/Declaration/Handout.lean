import TypedRoutes.Proofs.Table.Mirroring
import TypedRoutes.Proofs.Table.Sharing

/-!
Contract: in a module, a payload is handed out at most once, however deep routes are nested.

The types of fields refer to declarations before their own, so accounts of all of them are made up
in the order of declaration, as their resolvers are.

Owns: the accounts of a catalog, and that all its classes and tables keep to them.
-/

set_option autoImplicit false

namespace TypedRoutes.Table

namespace Catalog

def accountIn? (produce : Producer) : List Declared → Nat → Option Account
  | [], _ => none
  | declared :: earlier, number =>
    if number = earlier.length then
      declared.account? (fun cls => resolverIn? produce earlier cls.number)
        (fun cls => accountIn? produce earlier cls.number) produce
        (fun cls => numberedIn? earlier cls.number)
    else accountIn? produce earlier number

def accounts (catalog : Catalog) (cls : ClassRef) : Option Account :=
  accountIn? catalog.evaluate catalog.declarations cls.number

/-- What resolves texts in a catalog, with its account: a route class with the matcher that it has
on its own or in a table, or a table. -/
inductive Offers (catalog : Catalog) : Resolver → Account → Prop where
  | route {route : RouteClass} {form : Form}
      (known : Declared.route route (some form) ∈ catalog.declarations) :
      Offers catalog
        (Variant.resolve catalog.nested catalog.evaluate ⟨route, form.matcher⟩)
        (Variant.account catalog.nested catalog.accounts catalog.evaluate ⟨route, form.matcher⟩)
  | variant {table : RouteTable} {variant : Variant}
      (known : Declared.table table ∈ catalog.declarations) (tried : variant ∈ table.variants) :
      Offers catalog
        (variant.resolve catalog.nested catalog.evaluate)
        (variant.account catalog.nested catalog.accounts catalog.evaluate)
  | table {table : RouteTable} (known : Declared.table table ∈ catalog.declarations) :
      Offers catalog
        (table.resolver catalog.nested catalog.declared? catalog.evaluate)
        (table.account catalog.nested catalog.accounts catalog.evaluate catalog.declared?)

/-- Resolvers keep to the accounts of their declarations, by induction on the declarations: the
types of the fields refer to earlier ones only. -/
theorem agrees_in {declarations : List Declared} (sound : AreSound declarations)
    (named : ∀ table, Declared.table table ∈ declarations → table.HasOwnNames) (produce : Producer)
    (number : Nat) :
    Agrees (accountIn? produce declarations number) (resolverIn? produce declarations number) := by
  induction declarations generalizing number with
  | nil => exact .none
  | cons newest earlier inductionHypothesis =>
    have agree := inductionHypothesis sound.2 fun table inside =>
      named table (List.mem_cons_of_mem _ inside)
    rw [accountIn?, resolverIn?]
    split
    · apply Declared.agrees fun cls => agree cls.number
      · rintro route form rfl
        exact sound.1.1.distinct
      · rintro table rfl
        exact named table List.mem_cons_self
    · exact agree number

/-- Whatever a sound catalog offers keeps to its account. -/
theorem isKeptBy_of_offers {catalog : Catalog} {resolver : Resolver} {account : Account}
    (sound : catalog.IsSound) (named : catalog.HasOwnNames)
    (offers : catalog.Offers resolver account) :
    account.IsKeptBy resolver := by
  have agree (cls : ClassRef) : Agrees (catalog.accounts cls) (catalog.nested cls) :=
    agrees_in sound named catalog.evaluate cls.number
  cases offers with
  | @route route form known =>
    have own : (Variant.mk route form.matcher).route.HasOwnNames :=
      sound.hasOwnNames_of_mem known
    exact Variant.isKeptBy agree own
  | variant known tried => exact Variant.isKeptBy agree (named _ known _ tried)
  | table known => exact RouteTable.isKeptBy agree (named _ known) _

end Catalog

end TypedRoutes.Table

namespace TypedRoutes.Declaration

open TypedRoutes.Matching TypedRoutes.Table

/-- What the classes of a module resolve nested routes to agrees with their accounts. -/
theorem Module.agrees_declareAll (statements : List Statement) (cls : ClassRef) :
    Agrees ((({} : Module).declareAll statements).1.catalog.accounts cls)
      ((({} : Module).declareAll statements).1.catalog.nested cls) := by
  have empty : ({} : Module).catalog.IsSound := trivial
  have tableless : ({} : Module).catalog.HasOwnNames := by
    intro table member
    cases member
  exact Catalog.agrees_in (Module.isSound_declareAll empty statements)
    (Module.hasOwnNames_declareAll empty tableless statements) _ cls.number

/-- The payload is handed out at most once, and given back when nothing comes of it. Whatever a
module offers, when a text is resolved to nothing, the slot is as it was. When it is resolved to a
value, the fields for the payload that have been filled on the way, depth first, hold what the slot
had to give: the first one the payload if it had not been taken, all others the absent value. The
payload then counts as taken if it did before or if there is such a field. -/
theorem Module.handsOut_of_offers {statements : List Statement} {resolver : Resolver}
    {account : Account}
    (offers : (({} : Module).declareAll statements).1.catalog.Offers resolver account) (text : Text)
    (slot : Slot Value) :
    ((resolver text slot).result = .ok none → (resolver text slot).slot = slot) ∧
      ∀ value, (resolver text slot).result = .ok (some value) →
        ∃ payloads, account slot text value payloads ∧
          (∀ others, account slot text value others → others = payloads) ∧
            payloads = slot.shares payloads.length ∧
              (resolver text slot).slot =
                { slot with taken := slot.taken || !payloads.isEmpty } := by
  have empty : ({} : Module).catalog.IsSound := trivial
  have tableless : ({} : Module).catalog.HasOwnNames := by
    intro table member
    cases member
  have sound := Module.isSound_declareAll empty statements
  have named := Module.hasOwnNames_declareAll empty tableless statements
  have kept := Catalog.isKeptBy_of_offers sound named offers
  refine ⟨kept.slot_eq, ?_⟩
  intro value resolved
  obtain ⟨payloads, entry, shared, after⟩ := kept.handsOut text slot value resolved
  refine ⟨payloads, entry, ?_, shared, after⟩
  intro others again
  exact kept.unique slot text value others payloads again entry

def payloadField (name : String) : FieldDeclaration :=
  { name := name.toList
    type := .known .text
    isState := true }

/-- A module with a class inside of which a table is tried. The first class of the table takes the
payload and fails where there is no number. -/
def nestedPage : List Statement :=
  [.table "Inner".toList none .none
      [.route
          { name := "Number".toList
            pattern := some "{n}".toList
            settings := .none
            shape := .record
            fields :=
              [payloadField "s",
                { name := "n".toList, type := .known .integer, default := some (.scalar .none) }] },
        .route
          { name := "Word".toList
            pattern := some "{v}".toList
            settings := .none
            shape := .record
            fields := [{ name := "v".toList, type := .known .text }, payloadField "s"] }],
    .route
      { name := "Page".toList
        pattern := some "/p/{inner}".toList
        settings := .none
        shape := .record
        fields := [{ name := "inner".toList, type := .named "Inner".toList }, payloadField "s"] }]

/-- The law where a class takes the payload and fails, the next one gets it, and the class around
them comes too late. -/
theorem Module.handsOut_of_offers_nested :
    let catalog := (({} : Module).declareAll nestedPage).1.catalog
    let payload := Value.scalar (.text "x".toList)
    ∃ resolver account, catalog.Offers resolver account ∧
      ∃ value payloads,
        (resolver "/p/abc".toList { payload }).result = .ok (some value) ∧
          account { payload } "/p/abc".toList value payloads ∧
            payloads = Slot.shares { payload } payloads.length ∧
              (resolver "/p/abc".toList { payload }).slot =
                { payload, taken := !payloads.isEmpty } := by
  intro catalog payload
  obtain ⟨route, form, value, found, resolved, _⟩ :=
    Catalog.exists_of_any catalog ⟨3, "Page".toList, []⟩ ⟨"/p/abc".toList, payload⟩
      (fun _ _ _ => true) (by decide +kernel)
  have known : Declared.route route (some form) ∈ catalog.declarations :=
    Catalog.mem_of_form? found
  have result := Except.ok.inj resolved
  obtain ⟨_, handsOut⟩ :=
    Module.handsOut_of_offers (.route known) "/p/abc".toList { payload }
  obtain ⟨payloads, entry, _, shared, after⟩ := handsOut value result
  exact ⟨_, _, .route known, value, payloads, result, entry, shared, after⟩

end TypedRoutes.Declaration
