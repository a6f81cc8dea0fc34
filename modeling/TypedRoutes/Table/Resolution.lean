import TypedRoutes.Table.Evaluation
import TypedRoutes.Table.Event
import TypedRoutes.Table.Slot

/-!
Contract: resolving a route to an instance of a route class.

A class is tried by matching the route and filling its fields in order. A captured text is converted
to the type of its field, or resolved in turn if that type is itself a table or a route class. A
field for the payload takes it from the slot. An attempt that does not come to an instance sets the
slot back. A table tries its classes in order; the first instance is the answer. A factory that
fails ends the whole resolution, and so does a value that has no such part as it is written by.

Owns: filling, resolving and the log of it.
-/

set_option autoImplicit false

namespace TypedRoutes.Table

open TypedRoutes.Matching

/-- What comes of a step: its result, the slot after it and its part of the log. -/
structure Outcome (α : Type) where
  result : α
  slot : Slot Value
  events : List Event

/-- An instance, or none, unless a factory or the writing of a value fails. -/
abbrev Resolved := Except ExpressionError (Option Value)

abbrev Resolver := Text → Slot Value → Outcome Resolved

/-- The resolver of the type of a field, if it is a table or a route class. -/
def nestedResolver? (nested : ClassRef → Option Resolver) : FieldType → Option Resolver
  | .declared cls => nested cls
  | _ => none

/-- The value of a field that could not be read: the absent value if that will do. -/
def Field.orAbsent (field : Field) (value : Option Value) : Option Value :=
  match value with
  | some value => some value
  | none => if field.isOptional then some .absent else none

/-- What a converter makes of captured text for a field. Text that does not convert leaves the field
without a value; any other complaint ends the whole resolution. -/
def Field.convert (field : Field) (converter : Converter) (text : Text) : Resolved :=
  match converter.read text with
  | .ok value => .ok (some value)
  | .error error => if error.isPlain then .ok (field.orAbsent none) else .error (.unreadable error)

def readField (nested : ClassRef → Option Resolver) (field : Field) (text : Text)
    (slot : Slot Value) :
    Outcome Resolved :=
  match nestedResolver? nested field.kind with
  | some resolver =>
    let outcome := resolver text slot
    { outcome with result := outcome.result.map field.orAbsent }
  | none =>
    match field.kind.converter? with
    | none => ⟨.ok none, slot, []⟩
    | some converter => ⟨field.convert converter text, slot, []⟩

def Field.withoutText (produce : Producer) (field : Field) : Resolved :=
  match field.fallback? produce with
  | none => .ok none
  | some (.ok value) => .ok (some value)
  | some (.error error) => .error error

/-- Fills one field from the payload, the captured text for it, or its fallback. -/
def fillField (nested : ClassRef → Option Resolver) (produce : Producer) (field : Field)
    (captured : Option Text) (slot : Slot Value) :
    Outcome Resolved :=
  if field.isState then
    let (payload, after) := slot.take
    ⟨.ok (some (payload.getD .absent)), after, []⟩
  else
    match captured with
    | some text => readField nested field text slot
    | none => ⟨field.withoutText produce, slot, []⟩

inductive Unfilled where
  /-- A field cannot be filled, and the next class is tried. -/
  | field (name : Text)
  | failed (error : ExpressionError)
deriving DecidableEq, Repr

/-- Fills fields in order. A field that cannot be filled is named and ends the attempt. -/
def fill (nested : ClassRef → Option Resolver) (produce : Producer) :
    List (Field × Option Text) → Slot Value → Outcome (Except Unfilled (List (Text × Value)))
  | [], slot => ⟨.ok [], slot, []⟩
  | (field, captured) :: rest, slot =>
    let first := fillField nested produce field captured slot
    match first.result with
    | .error error => ⟨.error (.failed error), first.slot, first.events⟩
    | .ok none => ⟨.error (.field field.name), first.slot, first.events⟩
    | .ok (some value) =>
      let others := fill nested produce rest first.slot
      ⟨others.result.map ((field.name, value) :: ·), others.slot, first.events ++ others.events⟩

/-- Fields with the texts at their places, as far as there are any. -/
def pairInOrder : List Field → List Text → List (Field × Option Text)
  | [], _ => []
  | field :: fields, [] => (field, none) :: pairInOrder fields []
  | field :: fields, text :: texts => (field, some text) :: pairInOrder fields texts

def RouteClass.captured (route : RouteClass) (captures : Captures) : List (Field × Option Text) :=
  match route.layout with
  | .named => route.arguments.map fun field => (field, captures.get? field.name)
  | .positional => pairInOrder route.arguments captures.positional
  | .unit => []

def Variant.resolve (nested : ClassRef → Option Resolver) (produce : Producer) (variant : Variant) :
    Resolver :=
  fun text slot =>
    match variant.matcher.verdict text with
    | .failed => ⟨.ok none, slot, []⟩
    | .leftOver rest => ⟨.ok none, slot, [.rejected text rest]⟩
    | .matched captures =>
      let filled := fill nested produce (variant.route.captured captures) slot
      match filled.result with
      | .ok values =>
        ⟨(variant.route.make produce values).map some, filled.slot, filled.events⟩
      | .error (.failed error) => ⟨.error error, filled.slot, filled.events⟩
      | .error (.field name) =>
        ⟨.ok none, filled.slot.reset slot.mark,
          filled.events ++ [.unbound variant.route.cls.name text name]⟩

def resolveFirst (nested : ClassRef → Option Resolver) (produce : Producer) :
    List Variant → Resolver
  | [], _, slot => ⟨.ok none, slot, []⟩
  | variant :: rest, text, slot =>
    let first := variant.resolve nested produce text slot
    match first.result with
    | .error _ => first
    | .ok (some _) =>
      { first with events := first.events ++ [.resolved text variant.route.cls.name] }
    | .ok none =>
      let others := resolveFirst nested produce rest text first.slot
      { others with events := first.events ++ others.events }

/-- What stands for a slot where a class is given one to make an instance from. -/
def slotValue : Value :=
  .foreign "StateSlot".toList "<switchyard.switch.binding.StateSlot object at 0x0>".toList

/-- An instance made from a route in the place of a resolution. -/
def resolveByMaking (produce : Producer) (declared : Declared) (given : List Value) : Resolver :=
  fun text slot =>
    ⟨(declared.constructInOrder produce (.scalar (.text text) :: given)).map some, slot, []⟩

/-- The resolver of a table. A class in the place of the operation makes an instance instead. -/
def RouteTable.resolver (nested : ClassRef → Option Resolver)
    (declared? : ClassRef → Option Declared) (produce : Producer) (table : RouteTable) :
    Resolver :=
  match (Mapping.get? table.parts "_resolve".toList).bind declared? with
  | some declared => resolveByMaking produce declared [slotValue]
  | none => resolveFirst nested produce table.variants

def Declared.resolver? (nested : ClassRef → Option Resolver)
    (declared? : ClassRef → Option Declared) (produce : Producer) :
    Declared → Option Resolver
  | .table chosen => some (chosen.resolver nested declared? produce)
  | .route chosen (some form) => some (Variant.resolve nested produce ⟨chosen, form.matcher⟩)
  | _ => none

namespace Catalog

/-- The resolver of the declaration with a number among declarations. The types of its fields refer
to declarations before it. -/
def resolverIn? (produce : Producer) : List Declared → Nat → Option Resolver
  | [], _ => none
  | declared :: earlier, number =>
    if number = earlier.length then
      declared.resolver? (fun cls => resolverIn? produce earlier cls.number)
        (fun cls => numberedIn? earlier cls.number) produce
    else resolverIn? produce earlier number

def nested (catalog : Catalog) (cls : ClassRef) : Option Resolver :=
  resolverIn? catalog.evaluate catalog.declarations cls.number

end Catalog

structure Request where
  route : Text
  payload : Value := .absent

def Request.slot (request : Request) : Slot Value :=
  { payload := request.payload }

/-- Resolves a request with the classes of a table. A class in the place of the operation makes an
instance instead. -/
def Catalog.switch (catalog : Catalog) (table : RouteTable) (request : Request) :
    Outcome Resolved :=
  match catalog.part? table "switch" with
  | some declared => resolveByMaking catalog.evaluate declared [] request.route request.slot
  | none =>
    let outcome :=
      table.resolver catalog.nested catalog.declared? catalog.evaluate request.route request.slot
    match outcome.result with
    | .ok none =>
      { outcome with events := outcome.events ++ [.noRoute table.cls.name request.route] }
    | _ => outcome

/-- The variants of a table. A class in the place of the operation makes an instance instead, which
is taken apart. -/
def Catalog.variantsOf (catalog : Catalog) (table : RouteTable) :
    Except ExpressionError (List Variant) :=
  match catalog.part? table "variants" with
  | none => .ok table.variants
  | some declared =>
    match declared.constructInOrder catalog.evaluate [] with
    | .error error => .error error
    | .ok value => (value.items.mapError .obstacle).map fun _ => []

structure NoRoutes where
  shown : Text
deriving DecidableEq, Repr

def NoRoutes.message (error : NoRoutes) : String :=
  String.ofList error.shown ++ " is neither a Switch nor decorated with @to"

def Catalog.resolve (catalog : Catalog) (declared : Declared) (request : Request) :
    Except NoRoutes (Outcome Resolved) :=
  match declared with
  | .table table => .ok (catalog.switch table request)
  | .route chosen (some form) =>
    .ok
      (Variant.resolve catalog.nested catalog.evaluate ⟨chosen, form.matcher⟩ request.route
        request.slot)
  | _ => .error ⟨declared.shown⟩

end TypedRoutes.Table
