import TypedRoutes.Blame
import TypedRoutes.Pattern.Source
import TypedRoutes.Table.Attribute
import TypedRoutes.Table.Evaluation

/-!
Contract: writing an instance of a route class back as a route.

The text of a pattern is written with the text of a field in the place of each capture: by position
for a tuple, by name for a record. An optional group is written if it holds a capture at some depth
and all its captures outside of groups further inside have values; else it is left out, and the
values it would have used up are there for what follows.

Owns: the writer and the complaints about values that cannot be written.
-/

set_option autoImplicit false

namespace TypedRoutes.Table

open TypedRoutes.Text TypedRoutes.Pattern

inductive BuildError where
  | noRouteClass (kind : Text)
  | notInTable (kind table : Text)
  | missing (value pattern : Text)
  | notAllowed (text : Text) (allowed : List Text) (pattern : Text)
  | unnamed (capture pattern : Text)
  /-- A value has no text, or cannot be asked for a part. -/
  | obstacle (error : Obstacle)
  /-- An instance in the place of the route could not be made. -/
  | expression (error : ExpressionError)
deriving DecidableEq, Repr

def BuildError.message : BuildError → String
  | .noRouteClass kind => String.ofList kind ++ " is not a route class"
  | .notInTable kind table => String.ofList kind ++ " is not a route of " ++ String.ofList table
  | .missing value pattern =>
    String.ofList value ++ " is missing a value required by " ++ quote pattern
  | .notAllowed text allowed pattern =>
    quote text ++ " is not one of " ++ String.ofList (quotedList allowed) ++ " in " ++ quote pattern
  | .unnamed capture pattern =>
    "Cannot write unnamed capture " ++ String.ofList capture ++ " of " ++ quote pattern
  | .obstacle error => error.message
  | .expression error => error.message

def BuildError.blame : BuildError → Blame
  | .obstacle error => error.blame
  | .expression error => error.blame
  | _ => .writing

/-- What a field contributes to a route. -/
inductive Written where
  /-- The field has no value. -/
  | absent
  /-- The text of a value, subject to the texts its capture allows. -/
  | text (written : Text)
  /-- The route of an instance of a route class, whatever the capture allows. -/
  | route (written : Text)
  /-- The value has no text. -/
  | failed (error : BuildError)

def Written.ofText : Except Obstacle Text → Written
  | .ok found => .text found
  | .error error => .failed (.obstacle error)

inductive Halt where
  /-- A capture has no value. -/
  | absent
  | error (error : BuildError)

structure Filling where
  layout : Layout
  fields : Mapping Written
  /-- What captures contribute that are named like no field. -/
  besides : Text → Written
  pattern : Text

namespace Filling

/-- The contribution of a capture and the number of fields used up after it. -/
def contribution (filling : Filling) (capture : Capture) (used : Nat) :
    Except Halt (Written × Nat) :=
  match filling.layout, capture.name with
  | .positional, _ =>
    match filling.fields[used]? with
    | none => .error .absent
    | some (_, written) => .ok (written, used + 1)
  | .named, some name =>
    .ok ((Mapping.get? filling.fields name).getD (filling.besides name), used)
  | _, _ => .error (.error (.unnamed capture.source filling.pattern))

def writeCapture (filling : Filling) (capture : Capture) (used : Nat) : Except Halt (Text × Nat) :=
  match filling.contribution capture used with
  | .error halt => .error halt
  | .ok (.absent, _) => .error .absent
  | .ok (.failed error, _) => .error (.error error)
  | .ok (.route text, after) => .ok (text, after)
  | .ok (.text text, after) =>
    match capture.allowed with
    | none => .ok (text, after)
    | some allowed =>
      if allowed.contains text then .ok (text, after)
      else .error (.error (.notAllowed text allowed filling.pattern))

def writeToken (filling : Filling) (token : Token) (used : Nat) : Except Halt (Text × Nat) :=
  match token with
  | .slash => .ok (['/'], used)
  | .literal text => .ok (text, used)
  | .capture block => filling.writeCapture block used
  | .question => .ok (['?'], used)
  | .ampersand => .ok (['&'], used)
  | .pair key (.literal value) => .ok (key ++ '=' :: value, used)
  | .pair key (.capture block) =>
    (filling.writeCapture block used).map fun (text, after) => (key ++ '=' :: text, after)
  | .hash => .ok (['#'], used)
  | .stop => .ok ([], used)
  | .fixed text => .ok (text, used)

/-- Writes a pattern from the first field not used up. -/
def write (filling : Filling) : Pattern → Nat → Except Halt (Text × Nat)
  | .nil, used => .ok ([], used)
  | .item token rest, used =>
    match filling.writeToken token used with
    | .error halt => .error halt
    | .ok (text, after) =>
      (filling.write rest after).map fun (more, last) => (text ++ more, last)
  | .group inner rest, used =>
    if inner.any (·.capture?.isSome) then
      match filling.write inner used with
      | .error (.error error) => .error (.error error)
      | .error .absent => filling.write rest used
      | .ok (text, after) =>
        (filling.write rest after).map fun (more, last) => (text ++ more, last)
    else filling.write rest used

end Filling

/-- The contribution of a capture that is named like no field of an instance. -/
def attributeOf (route : RouteClass) (form : Option Form) (values : List (Text × Value))
    (shown : Except Obstacle Text) (name : Text) :
    Written :=
  match route.attribute? form values shown name, route.cls.replacement? "__getattr__" with
  | some text, _ => .ofText text
  | none, some kind => .failed (.obstacle (.uncallable kind))
  | none, none => .absent

/-- The route that a matcher's pattern makes of an instance of a class with a current form.
`written` are the contributions of its fields. -/
def writeRoute (route : RouteClass) (form : Option Form) (matcher : Matching.Matcher)
    (values : List (Text × Value)) (shown : Except Obstacle Text)
    (written : List (Text × Written)) :
    Except BuildError Text :=
  let besides := attributeOf route form values shown
  let filling : Filling :=
    match route.cls.need ["__getattribute__"] with
    | .ok _ => ⟨route.layout, written, besides, matcher.text⟩
    | .error error => ⟨route.layout, [], fun _ => .failed (.obstacle error), matcher.text⟩
  match filling.write matcher.pattern 0, shown with
  | .ok (text, _), _ => .ok text
  | .error .absent, .ok text => .error (.missing text matcher.text)
  | .error .absent, .error error => .error (.obstacle error)
  | .error (.error error), _ => .error error

mutual

def contributionOf (catalog : Catalog) : Value → Written
  | .scalar plain => if plain = .none then .absent else .ofText (Value.scalar plain).routeText
  | .member enumeration kind name content =>
    .ofText (Value.member enumeration kind name content).routeText
  | .foreign _ shown => .text shown
  | .record cls shape fields unset =>
    let value := Value.record cls shape fields unset
    match catalog.form? cls with
    | none => .ofText value.routeText
    | some (route, form) =>
      let written := contributionsOf catalog fields
      match writeRoute route (some form) form.matcher fields value.shown written with
      | .ok text => .route text
      | .error error => .failed error

def contributionsOf (catalog : Catalog) : List (Text × Value) → List (Text × Written)
  | [] => []
  | (name, value) :: rest => (name, contributionOf catalog value) :: contributionsOf catalog rest

end

def Catalog.build (catalog : Catalog) (value : Value) : Except BuildError Text :=
  match value with
  | .record cls _ fields _ =>
    match catalog.form? cls with
    | none => .error (.noRouteClass value.kindName)
    | some (route, form) =>
      writeRoute route (some form) form.matcher fields value.shown (contributionsOf catalog fields)
  | _ => .error (.noRouteClass value.kindName)

def RouteTable.variantOf? (table : RouteTable) : Value → Option Variant
  | .record cls _ _ _ => table.variants.find? fun variant => variant.route.cls = cls
  | _ => none

/-- Writes an instance of one of the classes of a table. A class in the place of the operation makes
an instance instead. -/
def Catalog.buildIn (catalog : Catalog) (table : RouteTable) (value : Value) :
    Except BuildError Text :=
  match catalog.part? table "build_route", table.variantOf? value, value with
  | some declared, _, _ =>
    match declared.constructInOrder catalog.evaluate [value] with
    | .error error => .error (.expression error)
    | .ok made => made.shown.mapError .obstacle
  | none, some variant, .record cls _ fields _ =>
    writeRoute variant.route ((catalog.form? cls).map (·.2)) variant.matcher fields value.shown
      (contributionsOf catalog fields)
  | none, _, _ => .error (.notInTable value.kindName table.cls.name)

end TypedRoutes.Table
