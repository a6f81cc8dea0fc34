import TypedRoutes.Table.Catalog

/-!
Contract: what an instance of a record class knows about itself besides its fields.

A capture can be named like one of these; it is written with the text of what it names, unless a
field has the same name.

Owns: the attributes and their texts. Does not own: attributes whose text holds an address.
-/

set_option autoImplicit false

namespace TypedRoutes.Table

open TypedRoutes.Text

/-- A field as the signature of its class shows it, with its type and what it is when not given. -/
def Field.parameter (field : Field) : Except Obstacle Text :=
  let typed := field.name ++ [':', ' '] ++ field.type.annotation
  match field.default?, field.factory with
  | some value, _ => value.shown.map fun shown => typed ++ " = ".toList ++ shown
  | none, some _ => .ok (typed ++ " = <factory>".toList)
  | none, none => .ok typed

/-- Whether an instance itself holds the value of the field. The default of a field that is no
argument is held by the class. -/
def Field.isHeld (field : Field) : Bool :=
  field.isArgument || field.factory.isSome

def curlyList (entries : List (Text × Text)) : Text :=
  let shown := entries.map fun (name, text) => quoted name ++ [':', ' '] ++ text
  '{' :: join [',', ' '] shown ++ ['}']

def shownEntries : List (Text × Value) → Except Obstacle (List (Text × Text))
  | [] => .ok []
  | (name, value) :: rest =>
    match value.shown with
    | .error error => .error error
    | .ok shown => (shownEntries rest).map ((name, shown) :: ·)

def parameters : List Field → Except Obstacle (List Text)
  | [] => .ok []
  | field :: rest =>
    match field.parameter with
    | .error error => .error error
    | .ok text => (parameters rest).map (text :: ·)

def Field.specification (field : Field) : Except Obstacle Text :=
  let missing := "<missing>".toList
  let shownDefault :=
    match field.default? with
    | some value => value.shown
    | none => .ok missing
  shownDefault.map fun default =>
    "FieldSpec(name=".toList ++ quoted field.name ++
      ", annotation=".toList ++ field.kind.shown ++
      ", optional=".toList ++ (Scalar.boolean field.isOptional).shown ++
      ", default=".toList ++ default ++
      ", default_factory=".toList ++ missing ++
      ", is_state=".toList ++ (Scalar.boolean field.isState).shown ++ [')']

def specifications : List Field → Except Obstacle (List Text)
  | [] => .ok []
  | field :: rest =>
    match field.specification with
    | .error error => .error error
    | .ok text => (specifications rest).map (text :: ·)

def Layout.shown (layout : Layout) : Text :=
  let member :=
    match layout with
    | .named => "NAMED"
    | .positional => "POSITIONAL"
    | .unit => "UNIT"
  ("<Layout." ++ member ++ ": " ++ quote layout.word.toList ++ ">").toList

/-- The operations that every record class has of its own. -/
def ownOperations : List String :=
  ["__init__", "__repr__", "__eq__", "__hash__", "__setattr__", "__delattr__"]

namespace RouteClass

/-- The name of a class with its parameters. The words for a missing result are left out, wherever
they stand. -/
def signature (route : RouteClass) : Except Obstacle Text :=
  (parameters route.arguments).map fun listed =>
    route.cls.bareName ++ removeAll " -> None".toList ('(' :: join [',', ' '] listed ++ [')'])

def shownForm (route : RouteClass) (form : Form) : Except Obstacle Text :=
  (specifications route.arguments).map fun listed =>
    "Variant(cls=".toList ++ (FieldType.declared route.cls).shown ++
      ", matcher=".toList ++ form.matcher.outline.toList ++
      ", layout=".toList ++ route.layout.shown ++
      ", fields=".toList ++ roundList listed ++
      ", explicit_settings=".toList ++ (Scalar.boolean form.hasOwnSettings).shown ++ [')']

/-- The text of an attribute of an instance with the given values. `shown` is the instance as
listings show it, `form` the current form of its class. -/
def attribute? (route : RouteClass) (form : Option Form) (values : List (Text × Value))
    (shown : Except Obstacle Text) (name : Text) :
    Option (Except Obstacle Text) :=
  let held := (route.fields.filter (·.isHeld)).map (·.name)
  match String.ofList name with
  | "__module__" => some (.ok "app".toList)
  | "__class__" => some (.ok (FieldType.declared route.cls).shown)
  | "__doc__" => some route.signature
  | "__match_args__" => some (.ok (roundList (route.arguments.map fun field => quoted field.name)))
  | "__annotations__" =>
    some (.ok (curlyList (route.fields.map fun field => (field.name, field.type.shown))))
  | "__dataclass_params__" =>
    some
      (.ok
        ("_DataclassParams(init=True,repr=True,eq=True,order=False,unsafe_hash=False," ++
          "frozen=True)").toList)
  | "__switchyard_variant__" => form.map route.shownForm
  | "__dict__" =>
    some ((shownEntries (values.filter fun entry => held.contains entry.1)).map curlyList)
  | operation =>
    if ownOperations.contains operation then
      some
        (shown.map fun text =>
          "<bound method ".toList ++ route.cls.bareName ++ '.' :: name ++ " of ".toList ++ text ++
            ['>'])
    else none

end RouteClass

end TypedRoutes.Table
