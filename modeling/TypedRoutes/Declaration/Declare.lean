import TypedRoutes.Declaration.Refusal

/-!
Contract: adding declarations to a catalog.

The fields of a route class are checked against its pattern, so that a class whose fields no match
can fill is refused at once. A table keeps the classes of its base, then those of its body in order;
settings of its own replace those of all classes in its body that have none chosen for themselves,
here and wherever these classes are used on their own. Classes in the body of a table get their
names when the table has been declared, and only names that are still free. A base that is no table
gives rise to one more of its kind instead.

Owns: the checks and the new catalog. A refused declaration leaves no trace.
-/

set_option autoImplicit false

namespace TypedRoutes.Declaration

open TypedRoutes.Matching TypedRoutes.Table TypedRoutes.Text

/-- Checks the fields of a class against a pattern: at most one field takes the payload, a name that
has to be supplied is captured somewhere, and every match captures as many texts as a tuple
needs. -/
def verify (route : RouteClass) (matcher : Matcher) : Except ConfigurationError Unit :=
  let states := (route.arguments.filter (·.isState)).map (·.name)
  let needed := route.arguments.filter (·.isRequired)
  if 1 < states.length then .error (.stateFields route.cls.name states)
  else
    match route.layout with
    | .named =>
      match needed.find? fun field => !matcher.names.contains field.name with
      | some field => .error (.noCapture route.cls.name field.name matcher.text)
      | none => .ok ()
    | .positional =>
      if matcher.captureCount < needed.length then
        .error
          (.tooFewCaptures route.cls.name needed.length matcher.text matcher.captureCount)
      else .ok ()
    | .unit => .ok ()

def declareForm (route : RouteClass) (pattern : Text) (choice : Choice) :
    Except DeclarationError Form := do
  let settings ← choice.resolve.mapError .settings
  let matcher ← (Matcher.compile pattern settings).mapError .pattern
  (verify route matcher).mapError .configuration
  return ⟨matcher, choice.isGiven⟩

def declareClass (catalog : Catalog) (name : Text) (declaration : RouteDeclaration) :
    Except DeclarationError Declared := do
  let shape := declaration.shape
  let cls : ClassRef := { number := catalog.size, name }
  let fields ← (declareFields catalog cls shape declaration.fields).mapError .fields
  let replaced := if shape = .record then replacedBy fields else []
  let route : RouteClass :=
    { cls := { cls with replaced }, origin := cls.bareName, shape, fields }
  match declaration.pattern with
  | none => return .route route none
  | some pattern =>
    let form ← declareForm route pattern declaration.settings
    return .route route (some form)

/-- Declares the clauses of a body of a table, and lists its classes under their labels. -/
def declareBody (table : Text) (catalog : Catalog) (body : Mapping ClassRef) :
    List Clause → Except DeclarationError (Catalog × Mapping ClassRef)
  | [] => .ok (catalog, body)
  | .route declaration :: rest =>
    match declareClass catalog (table ++ '.' :: declaration.name) declaration with
    | .error error => .error error
    | .ok declared =>
      declareBody table (catalog.add declared)
        (Mapping.store body declaration.name declared.cls) rest
  | .use name label :: rest =>
    match catalog.find? name with
    | none => .error (.undeclared name)
    | some declared => declareBody table catalog (Mapping.store body label declared.cls) rest

/-- Takes the route classes of a body into a table. Settings of the table become those of each class
without settings of its own. -/
def collect (default : Option Settings) : Catalog → Mapping ClassRef → Catalog × List Variant
  | catalog, [] => (catalog, [])
  | catalog, (_, cls) :: rest =>
    match catalog.form? cls, default with
    | none, _ => collect default catalog rest
    | some (route, form), some settings =>
      if form.hasOwnSettings then
        let (after, variants) := collect default catalog rest
        (after, ⟨route, form.matcher⟩ :: variants)
      else
        let matcher := form.matcher.withSettings settings
        let (after, variants) := collect default (catalog.setForm cls { form with matcher }) rest
        (after, ⟨route, matcher⟩ :: variants)
    | some (route, form), none =>
      let (after, variants) := collect default catalog rest
      (after, ⟨route, form.matcher⟩ :: variants)

def labelled (catalog : Catalog) (cls : ClassRef) : Value :=
  match catalog.declared? cls with
  | some (.enumeration choices) =>
    .foreign "EnumType".toList (FieldType.enumeration choices).shown
  | _ => .foreign "type".toList (FieldType.declared cls).shown

/-- The catalog with a table added whose classes come after those of its base. A class in the place
of the list of these cannot be taken for it. -/
def addTable (catalog : Catalog) (name : Text) (choice : Choice) (body : Mapping ClassRef)
    (base : Option RouteTable) :
    Except DeclarationError Catalog := do
  let default ←
    if choice.isGiven then (choice.resolve.map some).mapError .settings else .ok none
  match Mapping.get? body "__switchyard_variants__".toList with
  | some cls => throw (.table (.obstacle (.undivided (labelled catalog cls).bareKind)))
  | none =>
    let (after, variants) := collect default catalog body
    let table : RouteTable :=
      { cls := { number := after.size, name }
        variants := (base.map (·.variants)).getD [] ++ variants
        parts := body ++ (base.map (·.parts)).getD [] }
    return after.add (.table table)

/-- The complaint about the name of a table or about a class in the place of a part that the table
needs to be made. -/
def tableError? (catalog : Catalog) (name : Text) (body : Mapping ClassRef) : Option TableError :=
  let found := fun label => (Mapping.get? body (String.toList label)).map (labelled catalog)
  match found "__slots__", found "__qualname__", found "__classcell__" with
  | some value, _, _ => some (.obstacle (.undivided value.bareKind))
  | none, className, cell =>
    if name.contains '\x00' then some .zeroCharacter
    else (className.map (.className ·.bareKind)).or (cell.map (.cell ·.shownKind))

/-- The catalog with one more class, derived from one that is no table. It has only more of its
kind. -/
def addDerived (catalog : Catalog) (name : Text) (choice : Choice) (base : RouteClass) :
    Except DeclarationError Catalog :=
  match base.cls.need ["__init_subclass__"] with
  | .error error => .error (.table (.obstacle error))
  | .ok _ =>
    if choice.isGiven then .error (.table (.settings name))
    else
      let cls : ClassRef := { base.cls with number := catalog.size, name }
      .ok (catalog.add (.route { base with cls } none))

/-- The catalog with one more enumeration, derived from one without members. The classes in its body
are the values of its members. -/
def addEnumeration (catalog : Catalog) (name : Text) (choice : Choice) (body : Mapping ClassRef)
    (base : Enumeration) :
    Except DeclarationError Catalog :=
  if !base.entries.isEmpty then .error (.table (.closed name base.cls.bareName))
  else
    let cls : ClassRef := { base.cls with number := catalog.size, name }
    let entries := body.map fun (label, inner) => (label, labelled catalog inner)
    ((enumerationOf cls base.kind choice.isGiven entries).mapError .members).map fun choices =>
      catalog.add (.enumeration choices)

/-- The catalog with what a declaration of a table makes of its base. -/
def extendBase (catalog : Catalog) (name : Text) (choice : Choice) (body : Mapping ClassRef)
    (base : Option Text) :
    Except DeclarationError Catalog :=
  let checked := fun (extended : Except DeclarationError Catalog) =>
    match tableError? catalog name body with
    | some error => .error (.table error)
    | none => extended
  match base with
  | none => checked (addTable catalog name choice body none)
  | some base =>
    match catalog.find? base with
    | none => .error (.undeclared base)
    | some (.table table) => checked (addTable catalog name choice body (some table))
    | some (.enumeration choices) => addEnumeration catalog name choice body choices
    | some (.route chosen _) => checked (addDerived catalog name choice chosen)

/-- The catalog with names for the classes in the body of a table, where these are free. -/
def nameBody (catalog : Catalog) (table : Text) (body : Mapping ClassRef) : Catalog :=
  body.foldl (fun named (label, cls) => named.offerName (table ++ '.' :: label) cls) catalog

def declareTable (catalog : Catalog) (name : Text) (base : Option Text) (choice : Choice)
    (body : List Clause) :
    Except DeclarationError Catalog := do
  let (declared, labels) ← declareBody name catalog [] body
  let extended ← extendBase declared name choice labels base
  let named := nameBody extended name labels
  match extended.declarations.head? with
  | none => return named
  | some table => return named.giveName name table.cls

def addNamed (catalog : Catalog) (declared : Declared) : Catalog :=
  (catalog.add declared).giveName declared.cls.name declared.cls

/-- A class that is no route and has no fields. -/
def declarePlain (catalog : Catalog) (name : Text) : Except DeclarationError Catalog :=
  let cls : ClassRef := { number := catalog.size, name }
  let route : RouteClass := { cls, origin := cls.bareName, shape := .bare, fields := [] }
  ((declareFields catalog cls .bare []).mapError .fields).map fun _ =>
    addNamed catalog (.route route none)

def declare (catalog : Catalog) : Statement → Except DeclarationError Catalog
  | .enumeration name entries kind =>
    let cls : ClassRef := { number := catalog.size, name }
    ((declareMembers catalog cls kind entries).mapError .members).map fun choices =>
      addNamed catalog (.enumeration choices)
  | .plain name => declarePlain catalog name
  | .route declaration =>
    (declareClass catalog declaration.name declaration).map (addNamed catalog)
  | .table name base choice body => declareTable catalog name base choice body

end TypedRoutes.Declaration
