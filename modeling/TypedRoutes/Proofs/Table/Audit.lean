import TypedRoutes.Table.Audit

/-!
Contract: which classes and fields an audit reports.

An audit goes through the classes of a table in order. It compares each with those before it, and
with nothing else: not with the fields, which decide whether a class that matches comes to an
instance. Of the fields it reports those whose type takes no text, whatever else a field can have as
its value.

Owns: the class and the field that an issue is about. Does not own: whether such a class is ever
reached.
-/

set_option autoImplicit false

namespace TypedRoutes.Table

variable
  {nested : ClassRef → Option Resolver}
  {earlier variants : List Variant}
  {variant : Variant}
  {issue : Issue}

namespace Variant

/-- A class is hidden by an earlier one with the same pattern and settings. -/
theorem exists_sameMatch_of_hiddenIssue (hidden : issue ∈ variant.hiddenIssue earlier) :
    ∃ first ∈ earlier, variant.sameMatch first = true := by
  unfold hiddenIssue at hidden
  split at hidden
  · cases hidden
  · rename_i first found
    exact ⟨first, List.mem_of_find?_eq_some found, List.find?_some found⟩

theorem category_of_hiddenIssue (hidden : issue ∈ variant.hiddenIssue earlier) :
    issue.category = "unreachable" := by
  unfold hiddenIssue at hidden
  split at hidden
  · cases hidden
  · rw [List.mem_singleton.1 hidden]

theorem category_of_fieldIssues (found : issue ∈ variant.fieldIssues nested) :
    issue.category = "field" := by
  obtain ⟨field, _, rfl⟩ := List.mem_map.1 found
  rfl

theorem category_of_captureIssues (found : issue ∈ variant.captureIssues) :
    issue.category = "capture" := by
  unfold captureIssues at found
  split at found
  · dsimp only at found
    split at found
    · cases found
    · rw [List.mem_singleton.1 found]
  · split at found
    · cases found
    · rw [List.mem_singleton.1 found]
  · cases found

end Variant

/-- What is reported about variants is about one of them, and the ones before it. -/
theorem mem_variantIssues_iff :
    issue ∈ variantIssues nested earlier variants ↔
      ∃ (place : Nat) (variant : Variant), variants[place]? = some variant ∧
        (issue ∈ variant.hiddenIssue (earlier ++ variants.take place) ∨
          issue ∈ variant.fieldIssues nested ∨ issue ∈ variant.captureIssues) := by
  induction variants generalizing earlier with
  | nil => simp [variantIssues]
  | cons first rest inductionHypothesis =>
    rw [variantIssues, List.mem_append, List.mem_append, List.mem_append, inductionHypothesis]
    constructor
    · rintro (((hidden | field) | capture) | ⟨place, variant, found, reported⟩)
      · exact ⟨0, first, rfl, .inl (by rwa [List.take_zero, List.append_nil])⟩
      · exact ⟨0, first, rfl, .inr (.inl field)⟩
      · exact ⟨0, first, rfl, .inr (.inr capture)⟩
      · exact ⟨place + 1, variant, found, by rwa [List.take_succ_cons, List.append_cons]⟩
    · rintro ⟨place, variant, found, reported⟩
      cases place with
      | zero =>
        cases found
        rw [List.take_zero, List.append_nil] at reported
        rcases reported with hidden | field | capture
        · exact .inl (.inl (.inl hidden))
        · exact .inl (.inl (.inr field))
        · exact .inl (.inr capture)
      | succ place =>
        rw [List.take_succ_cons, List.append_cons] at reported
        exact .inr ⟨place, variant, found, reported⟩

namespace Catalog

variable
  {catalog : Catalog}
  {table : RouteTable}

/-- Apart from a table without classes, an audit reports what there is to say about each of them. -/
theorem mem_audit_iff {category : String} (other : category ≠ "setup") :
    issue ∈ (catalog.audit table).issues ∧ issue.category = category ↔
      ∃ (place : Nat) (variant : Variant), table.variants[place]? = some variant ∧
        (issue ∈ variant.hiddenIssue (table.variants.take place) ∨
          issue ∈ variant.fieldIssues catalog.nested ∨ issue ∈ variant.captureIssues) ∧
          issue.category = category := by
  unfold audit
  dsimp only
  split
  · rename_i empty
    rw [List.isEmpty_iff] at empty
    constructor
    · rintro ⟨setup, named⟩
      rw [List.mem_singleton.1 setup] at named
      exact absurd named.symm other
    · rintro ⟨place, variant, found, _⟩
      rw [empty] at found
      cases found
  · rw [mem_variantIssues_iff]
    constructor
    · rintro ⟨⟨place, variant, found, reported⟩, named⟩
      exact ⟨place, variant, found, reported, named⟩
    · rintro ⟨place, variant, found, reported, named⟩
      exact ⟨⟨place, variant, found, reported⟩, named⟩

/-- An audit reports as unreachable just the classes of a table that an earlier one hides. -/
theorem mem_audit_unreachable_iff :
    issue ∈ (catalog.audit table).issues ∧ issue.category = "unreachable" ↔
      ∃ (place : Nat) (variant : Variant), table.variants[place]? = some variant ∧
        issue ∈ variant.hiddenIssue (table.variants.take place) := by
  rw [mem_audit_iff (by decide)]
  constructor
  · rintro ⟨place, variant, found, hidden | field | capture, named⟩
    · exact ⟨place, variant, found, hidden⟩
    · rw [Variant.category_of_fieldIssues field] at named
      simp at named
    · rw [Variant.category_of_captureIssues capture] at named
      simp at named
  · rintro ⟨place, variant, found, hidden⟩
    exact ⟨place, variant, found, .inl hidden, Variant.category_of_hiddenIssue hidden⟩

/-- What an audit reports about fields is that no text converts to them. -/
theorem mem_audit_field_iff :
    issue ∈ (catalog.audit table).issues ∧ issue.category = "field" ↔
      ∃ variant ∈ table.variants, ∃ field ∈ variant.unfillable catalog.nested,
        issue = variant.fieldIssue field := by
  rw [mem_audit_iff (by decide)]
  constructor
  · rintro ⟨place, variant, found, hidden | reported | capture, named⟩
    · rw [Variant.category_of_hiddenIssue hidden] at named
      simp at named
    · obtain ⟨field, lacking, rfl⟩ := List.mem_map.1 reported
      exact ⟨variant, List.mem_of_getElem? found, field, lacking, rfl⟩
    · rw [Variant.category_of_captureIssues capture] at named
      simp at named
  · rintro ⟨variant, member, field, lacking, rfl⟩
    obtain ⟨place, found⟩ := List.getElem?_of_mem member
    exact ⟨place, variant, found, .inr (.inl (List.mem_map_of_mem lacking)), rfl⟩

end Catalog

end TypedRoutes.Table
