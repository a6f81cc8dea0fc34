/-!
Contract: sequences of items in which stretches may be put in groups, to any depth.

Patterns and matching programs are both such sequences; only their items differ. A sequence is one
inductive type, so every function on it recurses on the sequence itself, into a group as well as
past it.

Owns: the type, joining, the flat view `flatten`, and the top-level view `elements`.
-/

set_option autoImplicit false

namespace TypedRoutes

/-- A sequence of items and groups. -/
inductive Grouped (α : Type) where
  | nil
  | item (head : α) (rest : Grouped α)
  | group (inner rest : Grouped α)
deriving DecidableEq, Repr, Inhabited

inductive Element (α : Type) where
  | item (item : α)
  | group (inner : Grouped α)
deriving DecidableEq, Repr

namespace Grouped

variable {α : Type}

def append : Grouped α → Grouped α → Grouped α
  | nil, other => other
  | item head rest, other => item head (rest.append other)
  | group inner rest, other => group inner (rest.append other)

instance : Append (Grouped α) := ⟨append⟩

def cons : Element α → Grouped α → Grouped α
  | .item head, rest => item head rest
  | .group inner, rest => group inner rest

def single (element : Element α) : Grouped α :=
  cons element nil

/-- The elements at the top of the sequence. -/
def elements : Grouped α → List (Element α)
  | nil => []
  | item head rest => .item head :: rest.elements
  | group inner rest => .group inner :: rest.elements

def ofElements : List (Element α) → Grouped α
  | [] => nil
  | element :: rest => cons element (ofElements rest)

/-- All items in order, with the groups opened in place. -/
def flatten : Grouped α → List α
  | nil => []
  | item head rest => head :: rest.flatten
  | group inner rest => inner.flatten ++ rest.flatten

/-- The items at the top, groups left out. -/
def topItems : Grouped α → List α
  | nil => []
  | item head rest => head :: rest.topItems
  | group _ rest => rest.topItems

/-- The item at the very end, looked for inside a group that stands last. An empty group there
leaves none. -/
def last? : Grouped α → Option α
  | nil => none
  | item head nil => some head
  | item _ rest => rest.last?
  | group inner nil => inner.last?
  | group _ rest => rest.last?

/-- The sequence itself and all its tails at the top level, the empty one included. -/
def tails : Grouped α → List (Grouped α)
  | nil => [nil]
  | item head rest => item head rest :: rest.tails
  | group inner rest => group inner rest :: rest.tails

def isEmpty : Grouped α → Bool
  | nil => true
  | _ => false

/-- Whether some item, at any depth, has a property. -/
def any (holds : α → Bool) (sequence : Grouped α) : Bool :=
  sequence.flatten.any holds

@[simp] theorem nil_append (other : Grouped α) : nil ++ other = other := rfl

@[simp] theorem item_append (head : α) (rest other : Grouped α) :
    item head rest ++ other = item head (rest ++ other) := rfl

@[simp] theorem group_append (inner rest other : Grouped α) :
    group inner rest ++ other = group inner (rest ++ other) := rfl

@[simp] theorem append_nil (sequence : Grouped α) : sequence ++ nil = sequence := by
  induction sequence with
  | nil => rfl
  | item head rest inductionHypothesis => rw [item_append, inductionHypothesis]
  | group inner rest _ inductionHypothesis => rw [group_append, inductionHypothesis]

theorem append_assoc (first second third : Grouped α) :
    first ++ second ++ third = first ++ (second ++ third) := by
  induction first with
  | nil => rfl
  | item head rest inductionHypothesis => simp only [item_append, inductionHypothesis]
  | group inner rest _ inductionHypothesis => simp only [group_append, inductionHypothesis]

@[simp] theorem flatten_append (first second : Grouped α) :
    (first ++ second).flatten = first.flatten ++ second.flatten := by
  induction first with
  | nil => rfl
  | item head rest inductionHypothesis => simp [flatten, inductionHypothesis]
  | group inner rest _ inductionHypothesis => simp [flatten, inductionHypothesis]

@[simp] theorem elements_append (first second : Grouped α) :
    (first ++ second).elements = first.elements ++ second.elements := by
  induction first with
  | nil => rfl
  | item head rest inductionHypothesis => simp [elements, inductionHypothesis]
  | group inner rest _ inductionHypothesis => simp [elements, inductionHypothesis]

theorem ofElements_elements (sequence : Grouped α) :
    ofElements sequence.elements = sequence := by
  induction sequence with
  | nil => rfl
  | item head rest inductionHypothesis => simp [elements, ofElements, cons, inductionHypothesis]
  | group inner rest _ inductionHypothesis =>
    simp [elements, ofElements, cons, inductionHypothesis]

end Grouped

end TypedRoutes
