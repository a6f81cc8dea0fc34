import TypedRoutes.Declaration.Basic
import TypedRoutes.Declaration.SpecialField
import TypedRoutes.Text.Keyword

/-!
Contract: the fields of a class from their declarations.

A record keeps its fields in the order of declaration, each with a name of its own; a tuple knows
its fields by place, so that a name that comes again only changes the type and the default of the
field in its place. In both a field without a value of its own cannot follow one that has one.

Owns: the fields of a class and the checks of their names and order. Does not own: what names of
fields mean to the class of a record, and the wording of complaints.
-/

set_option autoImplicit false

namespace TypedRoutes.Declaration

open TypedRoutes.Table TypedRoutes.Text

namespace FieldDeclaration

def defaultIn (catalog : Catalog) (declaration : FieldDeclaration) :
    Except FieldError (Option Value) :=
  match declaration.default with
  | none => .ok none
  | some given => ((catalog.evaluate given).map some).mapError .expression

def typeIn (catalog : Catalog) (declaration : FieldDeclaration) : Except FieldError FieldType :=
  (declaration.type.evaluate catalog).mapError .expression

/-- The field of a record. One for the payload has the absent value as its default. -/
def inRecord (catalog : Catalog) (declaration : FieldDeclaration) : Except FieldError Field :=
  match declaration.defaultIn catalog with
  | .error error => .error error
  | .ok default =>
    if declaration.isState && default.isSome then .error .repeatedDefault
    else if (declaration.isState || default.isSome) && declaration.factory.isSome then
      .error .twoDefaults
    else
      (declaration.typeIn catalog).map fun type =>
        { name := declaration.name
          type
          declaredDefault := default
          factory := declaration.factory
          isState := declaration.isState
          isArgument := declaration.isArgument }

/-- The field of a tuple with a type: it has a default, and nothing else. -/
def inTuple (catalog : Catalog) (declaration : FieldDeclaration) (type : FieldType) :
    Except FieldError Field :=
  (declaration.defaultIn catalog).map fun default =>
    { name := declaration.name, type, declaredDefault := default }

end FieldDeclaration

/-- Fields with one more for a tuple. One of a name that is there already takes the place of the
old one, and keeps its default if it has none. -/
def putField (field : Field) : List Field → List Field
  | [] => [field]
  | other :: rest =>
    if other.name = field.name then
      { field with
        declaredDefault := field.declaredDefault.orElse fun _ => other.declaredDefault } :: rest
    else other :: putField field rest

/-- The first field that does not count as one with a value of its own and comes after one that
does, with the fields before it. -/
def outOfOrder? (counts : Field → Bool) (fields : List Field) : Option (List Field × Text) :=
  let later := fields.dropWhile (!counts ·)
  (later.find? (!counts ·)).map fun field =>
    (fields.takeWhile fun other => other.name ≠ field.name, field.name)

def nameError? (shape : Shape) (name : Text) : Option FieldError :=
  if !isIdentifier name then some (.noIdentifier shape name)
  else if isKeyword name then some (.reserved shape name)
  else none

/-- The complaint about the names of a record's fields. `earlier` are the names before them. -/
def recordNameError? (earlier : List Text) : List Text → Option FieldError
  | [] => none
  | name :: rest =>
    match nameError? .record name with
    | some error => some error
    | none =>
      if earlier.contains name then some (.repeated name)
      else recordNameError? (name :: earlier) rest

theorem recordNameError?_eq_none_iff {earlier names : List Text} :
    recordNameError? earlier names = none ↔
      (∀ name ∈ names, nameError? .record name = none ∧ name ∉ earlier) ∧ names.Nodup := by
  induction names generalizing earlier with
  | nil => simp [recordNameError?]
  | cons name rest inductionHypothesis =>
    unfold recordNameError?
    cases fit : nameError? .record name with
    | some error => simp [fit]
    | none =>
      by_cases known : name ∈ earlier
      · simp [known]
      · simp only [List.contains_eq_mem, known, decide_false, Bool.false_eq_true, if_false,
          inductionHypothesis, List.mem_cons, forall_eq_or_imp, fit, List.nodup_cons]
        constructor
        · rintro ⟨others, distinct⟩
          refine ⟨⟨⟨trivial, not_false⟩, fun other member => ?_⟩, fun member => ?_, distinct⟩
          · exact ⟨(others other member).1, fun old => (others other member).2 (.inr old)⟩
          · exact (others name member).2 (.inl rfl)
        · rintro ⟨⟨_, others⟩, fresh, distinct⟩
          refine ⟨fun other member => ⟨(others other member).1, ?_⟩, distinct⟩
          rintro (rfl | old)
          · exact fresh member
          · exact (others other member).2 old

def recordError? (cls : ClassRef) (fields : List Field) : Option FieldError :=
  let names := fields.map (·.name)
  recordNameError? [] names <|>
    structureError? cls names <|>
    fields.findSome? keyError? <|>
    fields.findSome? (deletionError? cls) <|>
    (outOfOrder? Field.hasOwnValue (fields.filter (·.isArgument))).map (.recordOrder ·.2) <|>
    argumentError? fields <|>
    overwriteError? cls fields <|>
    descriptionError? cls fields

/-- Whether a field of a tuple counts as one with a value of its own. The class has values under two
names of its own. -/
def countsAsOwn (field : Field) : Bool :=
  field.hasOwnValue || ["__module__", "__annotations__"].contains (String.ofList field.name)

/-- The complaint about the fields of a tuple. Its own name has to be one that a field can have,
but for the underscore in front. -/
def tupleError? (cls : Text) (fields : List Field) : Option FieldError :=
  let names := fields.map (·.name)
  (outOfOrder? countsAsOwn fields).map (fun (before, field) =>
      .tupleOrder field ((before.filter countsAsOwn).map (·.name))) <|>
    (cls :: names).findSome? (nameError? .tuple) <|>
    (names.find? fun name => name.head? = some '_').map .hidden <|>
    (nameClash? ("_cls".toList :: names.map normalForm)).map (.clash · 1)

def declareTuple (catalog : Catalog) (cls : Text) (declarations : List FieldDeclaration) :
    Except FieldError (List Field) := do
  let types ← declarations.mapM (·.typeIn catalog)
  let declared ←
    (declarations.zip types).mapM fun (declaration, type) => declaration.inTuple catalog type
  let fields := declared.foldl (fun fields field => putField field fields) []
  match tupleError? cls fields with
  | some error => throw error
  | none => return fields

def declareRecord (catalog : Catalog) (cls : ClassRef) (declarations : List FieldDeclaration) :
    Except FieldError (List Field) := do
  let declared ← declarations.mapM (·.inRecord catalog)
  let fields := inherit cls false declared
  match recordError? cls fields with
  | some error => throw error
  | none => return fields

/-- The fields of a class. A bare class has none, whatever is written down for it. -/
def declareFields (catalog : Catalog) (cls : ClassRef) (shape : Shape)
    (declarations : List FieldDeclaration) :
    Except FieldError (List Field) :=
  match shape with
  | .bare => if cls.bareName.contains '\x00' then .error .zeroCharacter else .ok []
  | .record => declareRecord catalog cls declarations
  | .tuple => declareTuple catalog cls.bareName declarations

end TypedRoutes.Declaration
