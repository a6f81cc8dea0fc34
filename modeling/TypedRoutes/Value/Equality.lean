import TypedRoutes.Value.Basic

/-!
Contract: when two values are the same, and when they agree.

Values are the same if they are built alike. They agree if comparisons take them for equal: numbers
of different kinds can agree, a member of an enumeration that insists on a kind agrees with plain
values of that kind, instances of a record class agree field by field, and tuples agree whatever
their classes. A value that agrees with another one is found under it as a key, unless one of them
cannot be a key.

Owns: the decision of equality, agreement, and which values can be keys.
-/

set_option autoImplicit false

namespace TypedRoutes.Value

mutual

def decideEq : (first second : Value) → Decidable (first = second)
  | .scalar a, .scalar b =>
    if same : a = b then isTrue (by rw [same]) else isFalse (by simp [same])
  | .member e k n a, .member f l m b =>
    if same : e = f ∧ k = l ∧ n = m then
      match decideEq a b with
      | isTrue contents => isTrue (by rw [same.1, same.2.1, same.2.2, contents])
      | isFalse different => isFalse (by simp [different])
    else isFalse fun equal => same (by cases equal; exact ⟨rfl, rfl, rfl⟩)
  | .record c s a u, .record d t b v =>
    if same : c = d ∧ s = t ∧ u = v then
      match decideFieldsEq a b with
      | isTrue fields => isTrue (by rw [same.1, same.2.1, same.2.2, fields])
      | isFalse different => isFalse (by simp [different])
    else isFalse fun equal => same (by cases equal; exact ⟨rfl, rfl, rfl⟩)
  | .foreign k a, .foreign l b =>
    if same : k = l ∧ a = b then isTrue (by rw [same.1, same.2])
    else isFalse fun equal => same (by cases equal; exact ⟨rfl, rfl⟩)
  | .foreign _ _, .scalar _ => isFalse (by simp)
  | .foreign _ _, .member _ _ _ _ => isFalse (by simp)
  | .foreign _ _, .record _ _ _ _ => isFalse (by simp)
  | .scalar _, .foreign _ _ => isFalse (by simp)
  | .member _ _ _ _, .foreign _ _ => isFalse (by simp)
  | .record _ _ _ _, .foreign _ _ => isFalse (by simp)
  | .scalar _, .member _ _ _ _ => isFalse (by simp)
  | .scalar _, .record _ _ _ _ => isFalse (by simp)
  | .member _ _ _ _, .scalar _ => isFalse (by simp)
  | .member _ _ _ _, .record _ _ _ _ => isFalse (by simp)
  | .record _ _ _ _, .scalar _ => isFalse (by simp)
  | .record _ _ _ _, .member _ _ _ _ => isFalse (by simp)

def decideFieldsEq : (first second : List (Text × Value)) → Decidable (first = second)
  | [], [] => isTrue rfl
  | [], _ :: _ => isFalse (by simp)
  | _ :: _, [] => isFalse (by simp)
  | (n, a) :: first, (m, b) :: second =>
    if same : n = m then
      match decideEq a b, decideFieldsEq first second with
      | isTrue values, isTrue rest => isTrue (by rw [same, values, rest])
      | isFalse different, _ => isFalse (by simp [different])
      | _, isFalse different => isFalse (by simp [different])
    else isFalse (by simp [same])

end

instance : DecidableEq Value := decideEq

/-- The value that stands for a member in comparisons: its content, if its enumeration insists on
a kind. Any other value stands for itself. -/
def counterpart : Value → Value
  | .member _ .text _ content => content
  | .member _ .integer _ content => content
  | value => value

mutual

def agrees : Value → Value → Bool
  | .scalar a, other =>
    match other.counterpart with
    | .scalar b => a.agrees b
    | _ => false
  | .member enumeration .any name _, other =>
    match other with
    | .member cls _ label _ => enumeration = cls && name = label
    | _ => false
  | .member _ .text _ content, other => content.agrees other
  | .member _ .integer _ content, other => content.agrees other
  | .record cls .record fields unset, other =>
    match other with
    | .record other .record others missing =>
      cls = other && unset = missing && agreeAll fields others
    | _ => false
  | .record _ .tuple fields _, other =>
    match other with
    | .record _ .tuple others _ => agreeAll fields others
    | _ => false
  | .record _ .bare _ _, _ => false
  | .foreign kind shown, other =>
    match other with
    | .foreign kindOther shownOther => kind = kindOther && shown = shownOther
    | _ => false

def agreeAll : List (Text × Value) → List (Text × Value) → Bool
  | [], [] => true
  | (_, first) :: rest, (_, second) :: others => first.agrees second && agreeAll rest others
  | _, _ => false

end

mutual

/-- Whether a value can be a key. That of a record can be one if the values of all its fields can,
and all have to be there. -/
def isKey : Value → Except Obstacle Bool
  | .scalar _ => .ok true
  | .foreign _ _ => .ok true
  | .member enumeration _ _ _ => .ok (enumeration.replacement? "__hash__").isNone
  | .record cls shape fields unset =>
    if (cls.replacement? "__hash__").isSome then .ok false
    else
      match shape, unset with
      | .bare, _ => .ok true
      | _, field :: _ => .error (cls.lack field)
      | _, [] => areKeys fields

def areKeys : List (Text × Value) → Except Obstacle Bool
  | [] => .ok true
  | (_, value) :: rest =>
    match value.isKey with
    | .ok true => areKeys rest
    | other => other

end

end TypedRoutes.Value
