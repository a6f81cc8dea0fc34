import TypedRoutes.Declaration.FieldError
import TypedRoutes.Table.Attribute
import TypedRoutes.Text.NormalForm

/-!
Contract: what the names of a record's fields mean to its class.

The class of a record has parts of its own, and a field can be named like one of them. Some of these
parts cannot be replaced, so that there is no such field; some are there before the field and become
its default; others are replaced by the default of the field. The names of the fields are also the
names of the arguments that instances are made from, where they are read in their normal form.

Owns: the complaints about such names and the defaults that come from the class.
-/

set_option autoImplicit false

namespace TypedRoutes.Declaration

open TypedRoutes.Table TypedRoutes.Text

/-- The parts of a record's class that are there before its fields. The flags of a class say whether
it has been asked for a part of its own before. -/
def inherentParts (cls : ClassRef) (isAsked : Bool) : Mapping Value :=
  let shownClass := (FieldType.declared cls).shown
  let shownObject := FieldType.object.shown
  let kind := "type".toList
  let number := fun (size : Int) => Value.scalar (.integer size)
  [("__name__", .scalar (.text cls.bareName)),
    ("__basicsize__", number 24),
    ("__dictoffset__", number (-48)),
    ("__flags__", number (if isAsked then 546320 else 22032)),
    ("__itemsize__", number 0),
    ("__weakrefoffset__", number 16),
    ("__text_signature__", .absent),
    ("__base__", .foreign kind shownObject),
    ("__bases__", .foreign "tuple".toList (roundList [shownObject])),
    ("__mro__", .foreign "tuple".toList (roundList [shownClass, shownObject])),
    ("__class__", .foreign kind "<class 'type'>".toList),
    ("__dataclass_params__", .foreign "_DataclassParams".toList parametersShown)].map
    fun (name, value) => (name.toList, value)
where
  parametersShown :=
    "_DataclassParams(init=True,repr=True,eq=True,order=False,unsafe_hash=False,frozen=True)".toList

def isOwnPart (cls : ClassRef) (name : Text) : Bool :=
  name = "__dataclass_params__".toList ||
    !(((inherentParts cls false).map (·.1)).contains name ||
      ["__doc__", "__module__", "__abstractmethods__"].contains (String.ofList name))

/-- The fields of a record. One that its class has a part for has this as its default, and nothing
else that has been written down for it. -/
def inherit (cls : ClassRef) (isAsked : Bool) : List Field → List Field
  | [] => []
  | field :: rest =>
    let others := inherit cls (isAsked || isOwnPart cls field.name) rest
    match Mapping.get? (inherentParts cls isAsked) field.name with
    | none => field :: others
    | some value =>
      { name := field.name, type := field.type, declaredDefault := some value } :: others

/-- Whether a class has a value for a field: its default, and not what comes from a factory. -/
def isKept (field : Field) : Bool :=
  field.default?.isSome

def keptUnder? (fields : List Field) (name : String) : Option Value :=
  (fields.find? fun field => field.name = name.toList).bind (·.default?)

/-- The complaint about a field in the place of a part that the class needs to be made. -/
def structureError? (cls : ClassRef) (names : List Text) : Option FieldError :=
  let has := fun name => names.contains (String.toList name)
  if has "__slots__" then some .slots
  else if cls.bareName.contains '\x00' then some .zeroCharacter
  else if has "__qualname__" then some .className
  else if has "__classcell__" then some .cell
  else none

def keyError? (field : Field) : Option FieldError :=
  let absent := Value.absent.bareKind
  match String.ofList field.name, field.default? with
  | "__annotations__", _ => some (.keyless "<class 'dict'>".toList field.name)
  | "__dict__", _ => some (.keyless "<class 'mappingproxy'>".toList field.name)
  | _, some (.member cls kind name content) =>
    if cls.replacement? "__hash__" = some absent then
      some (.keyless (Value.member cls kind name content).shownKind field.name)
    else none
  | _, some (.record cls shape fields unset) =>
    if cls.replacement? "__hash__" = some absent then
      some (.keyless (Value.record cls shape fields unset).shownKind field.name)
    else none
  | _, _ => none

/-- The complaint about a field without a default in the place of a part that every class has. -/
def deletionError? (cls : ClassRef) (field : Field) : Option FieldError :=
  if ["__doc__", "__module__"].contains (String.ofList field.name) && !isKept field then
    some (.undeletable cls.bareName field.name)
  else none

/-- The first name that has come before. `earlier` are the names before them. -/
def repeatedName? (earlier : List Text) : List Text → Option Text
  | [] => none
  | name :: rest =>
    if earlier.contains name then some name else repeatedName? (name :: earlier) rest

theorem repeatedName?_eq_none_iff {earlier names : List Text} :
    repeatedName? earlier names = none ↔ names.Nodup ∧ ∀ name ∈ names, name ∉ earlier := by
  induction names generalizing earlier with
  | nil => simp [repeatedName?]
  | cons name rest inductionHypothesis =>
    unfold repeatedName?
    by_cases known : name ∈ earlier
    · simp [known]
    · simp only [List.contains_eq_mem, known, decide_false, Bool.false_eq_true, if_false,
        inductionHypothesis, List.nodup_cons, List.mem_cons, forall_eq_or_imp, not_false_eq_true,
        true_and, not_or]
      constructor
      · rintro ⟨distinct, apart⟩
        exact ⟨⟨fun inRest => (apart name inRest).1 rfl, distinct⟩,
          fun other inRest => (apart other inRest).2⟩
      · rintro ⟨⟨fresh, distinct⟩, apart⟩
        exact ⟨distinct, fun other inRest => ⟨fun same => fresh (same ▸ inRest), apart other inRest⟩⟩

def nameClash? (names : List Text) : Option NameClash :=
  match repeatedName? [] names with
  | some name => some (.repeated name)
  | none => (names.find? fun name => name = "__debug__".toList).map .constant

/-- The complaint about the names of fields as those of arguments, of types at first and then of
values. -/
def argumentError? (fields : List Field) : Option FieldError :=
  let names := fields.map (·.name)
  let types := names.map fun name => normalForm ("_type_".toList ++ name)
  let receiver :=
    if names.contains "self".toList then "__dataclass_self__".toList else "self".toList
  let arguments := (fields.filter (·.isArgument)).map fun field => normalForm field.name
  match repeatedName? [] types, nameClash? (receiver :: arguments),
    names.find? fun name => !isNormal name with
  | some name, _, _ => some (.clash (.repeated name) 1)
  | none, some error, _ => some (.clash error 2)
  | none, none, variant => variant.map .variant

/-- The complaint about a default in the place of an operation that is made for the class. -/
def overwriteError? (cls : ClassRef) (fields : List Field) : Option FieldError :=
  (["__setattr__", "__delattr__"].find? fun name => (keptUnder? fields name).isSome).map
    fun name => .overwritten cls.bareName name.toList

def aboutShown (value : Value) (complaint : Text → FieldError) : FieldError :=
  match value.shown with
  | .ok shown => complaint shown
  | .error error => .obstacle error

/-- Whether a value counts as something: a text that is not empty, a number other than zero. -/
def countsAsSomething (value : Value) : Bool :=
  match value.counterpart with
  | .scalar .none => false
  | .scalar (.text content) => !content.isEmpty
  | .scalar plain => !plain.agrees (.integer 0)
  | .record _ .tuple fields _ => !fields.isEmpty
  | _ => true

/-- The complaint about a value in the place of what the description of the class is made from. -/
def descriptionError? (cls : ClassRef) (fields : List Field) : Option FieldError :=
  let kept := keptUnder? fields
  let isPresent := fun name => (kept name).any fun value => !value.isAbsent
  if (kept "__doc__").any countsAsSomething then none
  else
    match (kept "__wrapped__").filter (!isMember ·), kept "__signature__" with
    | some value, none => some (aboutShown value .noCore)
    | _, signature =>
      if isPresent "__signature__" then some (aboutShown (signature.getD .absent) .noSignature)
      else if isPresent "__new__" then
        some (aboutShown ((kept "__new__").getD .absent) .noMaker)
      else
        match kept "__init__" with
        | some value =>
          if value.isAbsent then some (.absentMaker cls.bareName)
          else some (aboutShown value .noMaker)
        | none =>
          (fields.filter (·.isArgument)).findSome? fun field =>
            match field.parameter with
            | .ok _ => none
            | .error error => some (.obstacle error)
where
  isMember : Value → Bool
    | .member _ _ _ _ => true
    | _ => false

/-- What stands in the place of operations of a record's class: the defaults of its fields, by their
kinds. A field that says when instances are equal takes their use as keys away. -/
def replacedBy (fields : List Field) : List (Text × Text) :=
  let hash := "__hash__".toList
  let kinds :=
    fields.filterMap fun field => field.default?.map fun value => (field.name, value.bareKind)
  let isHashLost :=
    fields.any (fun field => field.name = "__eq__".toList && !isKept field) &&
      (kinds.find? fun entry => entry.1 = hash).isNone
  if isHashLost then (hash, Value.absent.bareKind) :: kinds else kinds

end TypedRoutes.Declaration
