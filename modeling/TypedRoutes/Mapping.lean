import TypedRoutes.Text.Basic

/-!
Contract: mappings from names, in the order in which the names first came.

A name that comes again keeps its place and takes the later value.

Owns: storing, look-up and the mapping of a list of entries.
-/

set_option autoImplicit false

namespace TypedRoutes

/-- Names with their values. -/
abbrev Mapping (α : Type) := List (Text × α)

namespace Mapping

variable {α : Type}

/-- A mapping with one more value under a name: in its place if the name is there, else at the
end. -/
def store : Mapping α → Text → α → Mapping α
  | [], name, value => [(name, value)]
  | (other, old) :: rest, name, value =>
    if other = name then (name, value) :: rest else (other, old) :: store rest name value

def get? : Mapping α → Text → Option α
  | [], _ => none
  | (other, value) :: rest, name => if other = name then some value else get? rest name

/-- The mapping of entries that may repeat names. -/
def ofEntries (entries : List (Text × α)) : Mapping α :=
  entries.foldl (fun mapping entry => store mapping entry.1 entry.2) []

@[simp] theorem get?_store_self (mapping : Mapping α) (name : Text) (value : α) :
    get? (store mapping name value) name = some value := by
  induction mapping with
  | nil => simp [store, get?]
  | cons entry rest inductionHypothesis =>
    by_cases same : entry.1 = name <;> simp [store, get?, same, inductionHypothesis]

theorem get?_store_of_ne (mapping : Mapping α) {name other : Text} (value : α)
    (different : other ≠ name) :
    get? (store mapping name value) other = get? mapping other := by
  induction mapping with
  | nil => simp [store, get?, different.symm]
  | cons entry rest inductionHypothesis =>
    by_cases same : entry.1 = name
    · simp [store, get?, same, different.symm]
    · simp [store, get?, same, inductionHypothesis]

theorem names_store (mapping : Mapping α) (name : Text) (value : α) :
    (store mapping name value).map (·.1) =
      if name ∈ mapping.map (·.1) then mapping.map (·.1) else mapping.map (·.1) ++ [name] := by
  induction mapping with
  | nil => simp [store]
  | cons entry rest inductionHypothesis =>
    by_cases same : entry.1 = name
    · simp [store, same]
    · have other : name ≠ entry.1 := Ne.symm same
      by_cases known : name ∈ rest.map (·.1) <;> simp_all [store]

theorem nodup_names_store {mapping : Mapping α} (distinct : (mapping.map (·.1)).Nodup) (name : Text)
    (value : α) :
    ((store mapping name value).map (·.1)).Nodup := by
  rw [names_store]
  split
  · exact distinct
  · rename_i fresh
    refine List.nodup_append.2 ⟨distinct, by simp, ?_⟩
    intro known member added single
    rw [List.mem_singleton.1 single]
    exact fun same => fresh (same ▸ member)

theorem nodup_names_foldl_store (entries : List (Text × α)) {mapping : Mapping α}
    (distinct : (mapping.map (·.1)).Nodup) :
    ((entries.foldl (fun stored entry => store stored entry.1 entry.2) mapping).map
      (·.1)).Nodup := by
  induction entries generalizing mapping with
  | nil => exact distinct
  | cons entry rest inductionHypothesis =>
    exact inductionHypothesis (nodup_names_store distinct entry.1 entry.2)

theorem nodup_names_ofEntries (entries : List (Text × α)) :
    ((ofEntries entries).map (·.1)).Nodup :=
  nodup_names_foldl_store entries List.nodup_nil

end Mapping

end TypedRoutes
