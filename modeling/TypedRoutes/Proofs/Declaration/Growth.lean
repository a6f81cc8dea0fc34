import TypedRoutes.Proofs.Declaration.Reference
import TypedRoutes.Proofs.Mapping

/-!
Contract: what a declaration does to those before it.

New declarations come in front of the old ones, which keep their numbers. All that can become of an
old one is that a table with settings takes it in: a route class without settings of its own then
gets a new form. Names can be given anew, but they stand for what is there.

Owns: the forms of classes that a table has taken in, the old declarations after a new one, and that
catalogs stay closed.
-/

set_option autoImplicit false

namespace TypedRoutes.Table

open TypedRoutes.Matching

/-- The form of a class that a table has taken in, which can have settings for its classes. -/
def Form.within (default : Option Settings) (form : Form) : Form :=
  match default with
  | none => form
  | some settings =>
    if form.hasOwnSettings then form
    else { form with matcher := form.matcher.withSettings settings }

/-- A declaration after a table with a body of classes has been declared. -/
def Declared.within (default : Option Settings) (body : Mapping ClassRef) : Declared → Declared
  | .route chosen (some form) =>
    .route chosen (some (if chosen.cls ∈ body.map (·.2) then form.within default else form))
  | declared => declared

namespace Form

theorem within_within (default : Option Settings) (form : Form) :
    (form.within default).within default = form.within default := by
  cases default with
  | none => rfl
  | some settings =>
    by_cases own : form.hasOwnSettings = true
    · simp [within, own]
    · simp [within, own, Matcher.withSettings]

theorem within_of_plain {form : Form} (plain : ¬ form.hasOwnSettings = true) (settings : Settings) :
    form.within (some settings) =
      { form with matcher := form.matcher.withSettings settings } :=
  if_neg plain

/-- A table changes the form of a class if the class has no settings of its own, and other settings
than those of the table. -/
theorem hasOwnSettings_of_within_ne {default : Option Settings} {form : Form}
    (compiled : form.IsCompiled) (changed : form.within default ≠ form) :
    ∃ settings, default = some settings ∧ form.hasOwnSettings = false ∧
      form.matcher.settings ≠ settings := by
  cases default with
  | none => exact absurd rfl changed
  | some settings =>
    refine ⟨settings, rfl, ?_, ?_⟩
    · by_contra own
      rw [Bool.not_eq_false] at own
      exact changed (by simp [within, own])
    · rintro rfl
      apply changed
      have same : form.matcher.withSettings form.matcher.settings = form.matcher := by
        have again := compiled.withSettings form.matcher.settings
        exact Except.ok.inj (again.symm.trans compiled)
      simp [within, same]

end Form

namespace Declared

variable {default : Option Settings} {body : Mapping ClassRef}

theorem within_table (table : RouteTable) :
    (Declared.table table).within default body = .table table := rfl

theorem within_nil (declared : Declared) : declared.within default [] = declared := by
  rcases declared with _ | ⟨_, _ | _⟩ | _ <;> simp [within]

theorem within_none (declared : Declared) : declared.within none body = declared := by
  rcases declared with _ | ⟨_, _ | _⟩ | _ <;> simp [within, Form.within]

theorem within_cons (entry : Text × ClassRef) (rest : Mapping ClassRef) (declared : Declared) :
    declared.within default (entry :: rest) =
      (declared.within default [entry]).within default rest := by
  rcases declared with _ | ⟨chosen, _ | form⟩ | _
  · rfl
  · rfl
  · unfold within
    by_cases first : chosen.cls = entry.2
    · by_cases later : entry.2 ∈ rest.map (·.2) <;> simp [first, later, Form.within_within]
    · simp only [List.map_cons, List.map_nil, List.mem_cons, first, false_or, List.not_mem_nil,
        if_false]
  · rfl

theorem RefersBelow.within {declared : Declared} {bound : Nat}
    (below : declared.RefersBelow bound) :
    (declared.within default body).RefersBelow bound := by
  rcases declared with _ | ⟨_, _ | _⟩ | _ <;> exact below

end Declared

namespace Catalog

variable {catalog : Catalog} {default : Option Settings} {body : Mapping ClassRef}

theorem IsSound.map_within_eq (sound : catalog.IsSound) {label : Text} {cls : ClassRef}
    (unchanged : ∀ route form, catalog.form? cls = some (route, form) →
      form.within default = form) :
    catalog.declarations.map (Declared.within default [(label, cls)]) = catalog.declarations := by
  refine (List.map_congr_left fun declared member => ?_).trans (List.map_id _)
  rcases declared with _ | ⟨chosen, _ | form⟩ | _
  · rfl
  · rfl
  · by_cases taken : chosen.cls = cls
    · have found := sound.form?_of_mem member
      rw [taken] at found
      simp [Declared.within, unchanged chosen form found]
    · simp [Declared.within, taken]
  · rfl

/-- The new form of a class that is taken in is the current one afterwards. -/
theorem IsSound.declarations_setForm (sound : catalog.IsSound) {label : Text} {cls : ClassRef}
    {route : RouteClass} {form : Form} (found : catalog.form? cls = some (route, form)) :
    (catalog.setForm cls (form.within default)).declarations =
      catalog.declarations.map (Declared.within default [(label, cls)]) := by
  refine List.map_congr_left fun declared member => ?_
  rcases declared with _ | ⟨chosen, _ | old⟩ | _
  · rfl
  · rfl
  · by_cases taken : chosen.cls = cls
    · have known := sound.form?_of_mem member
      rw [taken, found] at known
      cases known
      simp [Declared.within, taken]
    · simp [Declared.within, taken]
  · rfl

/-! ## Closed catalogs -/

theorem IsClosed.add {declared : Declared} (closed : catalog.IsClosed)
    (below : declared.RefersBelow (catalog.size + 1)) :
    (catalog.add declared).IsClosed := by
  refine ⟨List.forall_mem_cons.2 ⟨below, ?_⟩, ?_⟩
  · exact fun earlier member => (closed.declarations earlier member).mono (Nat.le_succ _)
  · exact fun entry listed => Nat.lt_succ_of_lt (closed.names entry listed)

theorem IsClosed.giveName {cls : ClassRef} (closed : catalog.IsClosed) (name : Text)
    (present : cls.number < catalog.size) :
    (catalog.giveName name cls).IsClosed := by
  refine ⟨closed.declarations, fun entry listed => ?_⟩
  rcases Mapping.eq_or_mem_of_mem_store listed with rfl | old
  · exact present
  · exact closed.names entry old

@[simp] theorem declarations_offerName (name : Text) (cls : ClassRef) :
    (catalog.offerName name cls).declarations = catalog.declarations := by
  unfold Catalog.offerName
  split <;> rfl

theorem IsClosed.offerName {cls : ClassRef} (closed : catalog.IsClosed) (name : Text)
    (present : cls.number < catalog.size) :
    (catalog.offerName name cls).IsClosed := by
  unfold Catalog.offerName
  split
  · exact closed
  · exact closed.giveName name present

theorem IsClosed.within {after : Catalog} (closed : catalog.IsClosed)
    (declarations : after.declarations = catalog.declarations.map (Declared.within default body))
    (names : after.names = catalog.names) :
    after.IsClosed := by
  have size : after.size = catalog.size := by
    unfold Catalog.size
    rw [declarations, List.length_map]
  refine ⟨?_, ?_⟩
  · rw [declarations, size]
    intro declared member
    obtain ⟨old, inside, rfl⟩ := List.mem_map.1 member
    exact (closed.declarations old inside).within
  · rw [names, size]
    exact closed.names

theorem IsClosed.of_form? {cls : ClassRef} {route : RouteClass} {form : Form}
    (closed : catalog.IsClosed) (found : catalog.form? cls = some (route, form)) :
    route.RefersBelow catalog.size := by
  unfold form? declared? at found
  split at found
  · rename_i known
    cases found
    exact (closed.declarations _ (mem_of_numberedIn? known)).2
  · cases found

end Catalog

end TypedRoutes.Table

namespace TypedRoutes.Declaration

open TypedRoutes.Matching TypedRoutes.Table

variable {catalog : Catalog}

/-! ## Tables -/

/-- Taking classes into a table changes the forms that the settings of the table change. -/
theorem declarations_collect (default : Option Settings) (sound : catalog.IsSound)
    (body : Mapping ClassRef) :
    (collect default catalog body).1.declarations =
      catalog.declarations.map (Declared.within default body) := by
  induction body generalizing catalog with
  | nil => exact ((List.map_congr_left fun _ _ => Declared.within_nil _).trans (List.map_id _)).symm
  | cons entry rest inductionHypothesis =>
    obtain ⟨label, cls⟩ := entry
    have composed :
        catalog.declarations.map (Declared.within default ((label, cls) :: rest)) =
          (catalog.declarations.map (Declared.within default [(label, cls)])).map
            (Declared.within default rest) := by
      rw [List.map_map]
      exact List.map_congr_left fun declared _ => Declared.within_cons _ _ declared
    rw [composed]
    unfold collect
    split
    · rename_i missing
      rw [sound.map_within_eq fun route form found => absurd (missing.symm.trans found) nofun]
      exact inductionHypothesis sound
    · rename_i route form settings found
      have compiled := (sound.of_form? found).2
      split
      · rename_i own
        have unchanged : form.within (some settings) = form := if_pos own
        rw [sound.map_within_eq fun other current known => by
          cases found.symm.trans known
          exact unchanged]
        exact inductionHypothesis sound
      · rename_i plain
        have soundAfter := sound.setForm (compiled.withSettings settings) cls
        dsimp only at soundAfter ⊢
        rw [inductionHypothesis soundAfter, ← Form.within_of_plain plain,
          sound.declarations_setForm found]
    · rename_i found
      rw [sound.map_within_eq fun _ _ _ => rfl]
      exact inductionHypothesis sound

theorem names_collect (default : Option Settings) (body : Mapping ClassRef) :
    (collect default catalog body).1.names = catalog.names := by
  induction body generalizing catalog with
  | nil => rfl
  | cons entry rest inductionHypothesis =>
    obtain ⟨label, cls⟩ := entry
    unfold collect
    split
    · exact inductionHypothesis
    · split
      · exact inductionHypothesis
      · exact inductionHypothesis
    · exact inductionHypothesis

theorem refersBelow_collect (default : Option Settings) (sound : catalog.IsSound)
    (closed : catalog.IsClosed) (body : Mapping ClassRef) :
    ∀ variant ∈ (collect default catalog body).2, variant.route.RefersBelow catalog.size := by
  induction body generalizing catalog with
  | nil => nofun
  | cons entry rest inductionHypothesis =>
    obtain ⟨label, cls⟩ := entry
    unfold collect
    split
    · exact inductionHypothesis sound closed
    · rename_i route form settings found
      have compiled := (sound.of_form? found).2
      have first := closed.of_form? found
      split
      · exact List.forall_mem_cons.2 ⟨first, inductionHypothesis sound closed⟩
      · rename_i plain
        have changed :
            (catalog.setForm cls
                { form with matcher := form.matcher.withSettings settings }).declarations =
              catalog.declarations.map (Declared.within (some settings) [(label, cls)]) := by
          rw [← Form.within_of_plain plain]
          exact sound.declarations_setForm found
        have soundAfter := sound.setForm (compiled.withSettings settings) cls
        have others := inductionHypothesis soundAfter (closed.within changed rfl)
        rw [Catalog.size_setForm] at others
        exact List.forall_mem_cons.2 ⟨first, others⟩
    · rename_i found
      exact List.forall_mem_cons.2 ⟨closed.of_form? found, inductionHypothesis sound closed⟩

/-! ## Enumerations -/

theorem number_of_enumeration {body : Body} {cls : ClassRef} {kind : ValueKind} {hasOptions : Bool}
    {choices : Enumeration} (made : body.enumeration cls kind hasOptions = .ok choices) :
    choices.cls.number = cls.number := by
  unfold Body.enumeration at made
  -- The checks stand one behind the other, and only the last one comes to an enumeration.
  extract_lets entries isMember apart own filled celled named slotted at made
  have ofFilled (made : filled () = .ok choices) : choices.cls.number = cls.number := by
    obtain ⟨contents, _, made⟩ := bind_eq_ok_iff.1 made
    obtain ⟨_, _, made⟩ := bind_eq_ok_iff.1 made
    extract_lets enumeration finished at made
    have ofFinished (made : finished () = .ok choices) : choices.cls.number = cls.number := by
      unfold finished at made
      split at made
      · exact congrArg (·.cls.number) (Except.ok.inj made.symm)
      · obtain ⟨_, _, made⟩ := bind_eq_ok_iff.1 made
        exact congrArg (·.cls.number) (Except.ok.inj made.symm)
    split at made
    · cases made
    · exact ofFinished made
  have ofCelled (made : celled () = .ok choices) : choices.cls.number = cls.number := by
    unfold celled at made
    split at made
    · exact ofFilled made
    · cases made
  have ofNamed (made : named () = .ok choices) : choices.cls.number = cls.number := by
    unfold named at made
    split at made
    · cases made
    · exact ofCelled made
  have ofSlotted (made : slotted () = .ok choices) : choices.cls.number = cls.number := by
    unfold slotted at made
    split at made
    · exact ofNamed made
    · split at made
      · exact ofNamed made
      · cases made
  split at made
  · exact ofSlotted made
  · cases made

theorem number_of_enumerationOf {cls : ClassRef} {kind : ValueKind} {hasOptions : Bool}
    {entries : List (Text × Value)} {choices : Enumeration}
    (made : enumerationOf cls kind hasOptions entries = .ok choices) :
    choices.cls.number = cls.number := by
  unfold enumerationOf at made
  split at made
  · cases made
  · exact number_of_enumeration made

/-! ## Extensions -/

/-- What becomes of a catalog that is extended by a declaration with a body of classes. The settings
are those that a table has for these. -/
structure IsExtension (catalog next : Catalog) (choice : Choice) (body : Mapping ClassRef)
    (default : Option Settings) (added : Declared) :
    Prop where
  chosen :
    ∀ settings, default = some settings →
      choice.isGiven = true ∧ choice.resolve = .ok settings
  declarations :
    next.declarations = added :: catalog.declarations.map (Declared.within default body)
  names : next.names = catalog.names
  below :
    catalog.IsClosed → (∀ entry ∈ body, entry.2.number < catalog.size) →
      added.RefersBelow (catalog.size + 1)

theorem IsExtension.size {next : Catalog} {choice : Choice} {body : Mapping ClassRef}
    {default : Option Settings} {added : Declared}
    (extension : IsExtension catalog next choice body default added) :
    next.size = catalog.size + 1 := by
  unfold Catalog.size
  rw [extension.declarations, List.length_cons, List.length_map]

theorem IsExtension.isClosed {next : Catalog} {choice : Choice} {body : Mapping ClassRef}
    {default : Option Settings} {added : Declared}
    (extension : IsExtension catalog next choice body default added) (closed : catalog.IsClosed)
    (present : ∀ entry ∈ body, entry.2.number < catalog.size) :
    next.IsClosed := by
  have larger : catalog.size ≤ catalog.size + 1 := Nat.le_succ _
  constructor
  · rw [extension.declarations, extension.size]
    refine List.forall_mem_cons.2 ⟨extension.below closed present, fun declared member => ?_⟩
    obtain ⟨old, inside, rfl⟩ := List.mem_map.1 member
    exact ((closed.declarations old inside).mono larger).within
  · rw [extension.names, extension.size]
    exact fun entry listed => Nat.lt_succ_of_lt (closed.names entry listed)

theorem isExtension_add {added : Declared} (choice : Choice) (body : Mapping ClassRef)
    (below : catalog.IsClosed → added.RefersBelow (catalog.size + 1)) :
    IsExtension catalog (catalog.add added) choice body none added where
  chosen := nofun
  declarations := by
    rw [List.map_congr_left fun _ _ => Declared.within_none _, List.map_id']
    rfl
  names := rfl
  below closed _ := below closed

theorem isExtension_of_addTable {name : Text} {choice : Choice} {body : Mapping ClassRef}
    {base : Option RouteTable} {next : Catalog} (sound : catalog.IsSound)
    (based : catalog.IsClosed → ∀ table, base = some table →
      (Declared.table table).RefersBelow catalog.size)
    (added : addTable catalog name choice body base = .ok next) :
    ∃ default table, IsExtension catalog next choice body default (.table table) := by
  obtain ⟨default, chosen, rfl⟩ := exists_table_of_addTable added
  have declarations := declarations_collect default sound body
  have size : (collect default catalog body).1.size = catalog.size := by
    unfold Catalog.size
    rw [declarations, List.length_map]
  refine ⟨default, _, chosen, congrArg _ declarations, names_collect default body, ?_⟩
  intro closed listed
  have larger : catalog.size ≤ catalog.size + 1 := Nat.le_succ _
  have new := refersBelow_collect default sound closed body
  refine ⟨?_, fun variant member => ?_, fun entry member => ?_⟩
  · show (collect default catalog body).1.size < catalog.size + 1
    rw [size]
    exact Nat.lt_succ_self _
  · rcases List.mem_append.1 member with inherited | taken
    · cases base with
      | none => cases inherited
      | some table => exact ((based closed table rfl).2.1 variant inherited).mono larger
    · exact (new variant taken).mono larger
  · rcases List.mem_append.1 member with own | inherited
    · exact Nat.lt_succ_of_lt (listed entry own)
    · cases base with
      | none => cases inherited
      | some table => exact Nat.lt_succ_of_lt ((based closed table rfl).2.2 entry inherited)

theorem exists_isExtension_of_extendBase {name : Text} {choice : Choice} {body : Mapping ClassRef}
    {base : Option Text} {next : Catalog} (sound : catalog.IsSound)
    (extended : extendBase catalog name choice body base = .ok next) :
    ∃ default added, IsExtension catalog next choice body default added := by
  unfold extendBase at extended
  dsimp only at extended
  cases base with
  | none =>
    dsimp only at extended
    split at extended
    · cases extended
    · obtain ⟨default, table, extension⟩ :=
        isExtension_of_addTable sound (fun _ _ none => by cases none) extended
      exact ⟨default, _, extension⟩
  | some base =>
    dsimp only at extended
    cases found : catalog.find? base with
    | none =>
      rw [found] at extended
      cases extended
    | some declared =>
      rw [found] at extended
      cases declared with
      | table table =>
        dsimp only at extended
        split at extended
        · cases extended
        · have based
              (closed : catalog.IsClosed)
              (other : RouteTable)
              (same : some table = some other) :
              (Declared.table other).RefersBelow catalog.size := by
            cases same
            exact closed.of_find? found
          obtain ⟨default, added, extension⟩ := isExtension_of_addTable sound based extended
          exact ⟨default, _, extension⟩
      | enumeration choices =>
        dsimp only at extended
        unfold addEnumeration at extended
        split at extended
        · cases extended
        · obtain ⟨more, made, rfl⟩ := map_eq_ok_iff.1 extended
          have number := number_of_enumerationOf (mapError_eq_ok_iff.1 made)
          refine ⟨none, _, isExtension_add choice body fun _ => ⟨?_, trivial⟩⟩
          exact number ▸ Nat.lt_succ_self _
      | route chosen form =>
        dsimp only at extended
        split at extended
        · cases extended
        · unfold addDerived at extended
          split at extended
          · cases extended
          · split at extended
            · cases extended
            · cases extended
              refine ⟨none, _, isExtension_add choice body fun closed => ?_⟩
              refine ⟨Nat.lt_succ_self _, ?_⟩
              exact RouteClass.RefersBelow.mono (closed.of_find? found).2 (Nat.le_succ _)

/-! ## Bodies of tables -/

/-- The classes in the body of a table come in front of what is there. -/
theorem exists_newer_of_declareBody {table : Text} {body labels : Mapping ClassRef}
    {clauses : List Clause} {next : Catalog}
    (declared : declareBody table catalog body clauses = .ok (next, labels)) :
    next.names = catalog.names ∧
      ∃ newer, next.declarations = newer ++ catalog.declarations := by
  induction clauses generalizing catalog body with
  | nil =>
    cases declared
    exact ⟨rfl, [], rfl⟩
  | cons clause rest inductionHypothesis =>
    cases clause with
    | route declaration =>
      unfold declareBody at declared
      split at declared
      · cases declared
      · rename_i made _
        obtain ⟨names, newer, listed⟩ := inductionHypothesis declared
        exact ⟨names, newer ++ [made], by simp [listed, Catalog.add]⟩
    | use name label =>
      unfold declareBody at declared
      split at declared
      · cases declared
      · exact inductionHypothesis declared

theorem isClosed_of_declareBody {table : Text} {body labels : Mapping ClassRef}
    {clauses : List Clause} {next : Catalog} (closed : catalog.IsClosed)
    (named : ∀ clause ∈ clauses, clause.isByName = true)
    (listed : ∀ entry ∈ body, entry.2.number < catalog.size)
    (declared : declareBody table catalog body clauses = .ok (next, labels)) :
    next.IsClosed ∧ ∀ entry ∈ labels, entry.2.number < next.size := by
  induction clauses generalizing catalog body with
  | nil =>
    cases declared
    exact ⟨closed, listed⟩
  | cons clause rest inductionHypothesis =>
    obtain ⟨namedHere, namedLater⟩ := List.forall_mem_cons.1 named
    cases clause with
    | route declaration =>
      unfold declareBody at declared
      split at declared
      · cases declared
      · rename_i made making
        obtain ⟨route, form, rfl, number, below⟩ :=
          exists_refersBelow_of_declareClass closed namedHere making
        have present : route.cls.number < catalog.size + 1 := number ▸ Nat.lt_succ_self _
        have belowAfter : (Declared.route route form).RefersBelow (catalog.size + 1) :=
          ⟨present, below.mono (Nat.le_succ _)⟩
        refine inductionHypothesis (closed.add belowAfter) namedLater (fun entry member => ?_)
          declared
        rcases Mapping.eq_or_mem_of_mem_store member with rfl | old
        · exact present
        · exact Nat.lt_succ_of_lt (listed entry old)
    | use name label =>
      unfold declareBody at declared
      split at declared
      · cases declared
      · rename_i used found
        refine inductionHypothesis closed namedLater (fun entry member => ?_) declared
        rcases Mapping.eq_or_mem_of_mem_store member with rfl | old
        · exact (closed.of_find? found).1
        · exact listed entry old

/-! ## Names -/

theorem declarations_nameBody (table : Text) (body : Mapping ClassRef) :
    (nameBody catalog table body).declarations = catalog.declarations := by
  unfold nameBody
  induction body generalizing catalog with
  | nil => rfl
  | cons entry rest inductionHypothesis =>
    rw [List.foldl_cons, inductionHypothesis, Catalog.declarations_offerName]

theorem isClosed_nameBody (closed : catalog.IsClosed) (table : Text) {body : Mapping ClassRef}
    (listed : ∀ entry ∈ body, entry.2.number < catalog.size) :
    (nameBody catalog table body).IsClosed := by
  unfold nameBody
  induction body generalizing catalog with
  | nil => exact closed
  | cons entry rest inductionHypothesis =>
    obtain ⟨first, others⟩ := List.forall_mem_cons.1 listed
    refine inductionHypothesis (closed.offerName _ first) ?_
    unfold Catalog.size
    rw [Catalog.declarations_offerName]
    exact others

/-! ## Declarations -/

/-- A declaration gives a route class a new form. It is one of a table with settings; the class is
in the body of the table, has no settings of its own, and others than those of the table so far. -/
inductive Recasts (catalog : Catalog) (route : RouteClass) (form : Form) : Statement → Prop
  | table {name : Text} {base : Option Text} {choice : Choice} {body : List Clause}
      {inside : Catalog} {labels : Mapping ClassRef} {settings : Settings}
      (given : choice.isGiven = true) (resolved : choice.resolve = .ok settings)
      (listed : declareBody name catalog [] body = .ok (inside, labels))
      (used : route.cls ∈ labels.map (·.2)) (plain : form.hasOwnSettings = false)
      (different : form.matcher.settings ≠ settings) :
      Recasts catalog route form (.table name base choice body)

/-- The declaration of a table has a body, then one declaration in front of it, then names. -/
theorem exists_isExtension_of_declareTable {name : Text} {base : Option Text} {choice : Choice}
    {body : List Clause} {next : Catalog} (sound : catalog.IsSound)
    (declared : declareTable catalog name base choice body = .ok next) :
    ∃ inside labels extended default added,
      declareBody name catalog [] body = .ok (inside, labels) ∧
        IsExtension inside extended choice labels default added ∧
          next = (nameBody extended name labels).giveName name added.cls := by
  obtain ⟨⟨inside, labels⟩, listed, rest⟩ := bind_eq_ok_iff.1 declared
  obtain ⟨extended, extending, finished⟩ := bind_eq_ok_iff.1 rest
  obtain ⟨default, added, extension⟩ :=
    exists_isExtension_of_extendBase (isSound_of_declareBody sound listed) extending
  refine ⟨inside, labels, extended, default, added, listed, extension, ?_⟩
  have newest : extended.declarations.head? = some added := by
    rw [extension.declarations, List.head?_cons]
  dsimp only at finished
  rw [newest] at finished
  exact (Except.ok.inj finished).symm

/-- After a declaration, those before it are behind the new ones, each as it was unless it is given
a new form. -/
theorem exists_newer_of_declare {statement : Statement} {next : Catalog} (sound : catalog.IsSound)
    (declared : declare catalog statement = .ok next) :
    ∃ newer default labels,
      next.declarations = newer ++ catalog.declarations.map (Declared.within default labels) ∧
        ∀ route form, catalog.form? route.cls = some (route, form) →
          (Declared.route route (some form)).within default labels ≠ .route route (some form) →
            Recasts catalog route form statement := by
  have unchanged (added : Declared) :
      added :: catalog.declarations =
          [added] ++ catalog.declarations.map (Declared.within none []) ∧
        ∀ route form, catalog.form? route.cls = some (route, form) →
          (Declared.route route (some form)).within none [] ≠ .route route (some form) →
            Recasts catalog route form statement := by
    refine ⟨?_, fun _ _ _ changed => absurd (Declared.within_none _) changed⟩
    rw [List.map_congr_left fun _ _ => Declared.within_none _, List.map_id']
    rfl
  cases statement with
  | enumeration name entries kind =>
    obtain ⟨choices, _, rfl⟩ := map_eq_ok_iff.1 declared
    exact ⟨_, _, _, unchanged _⟩
  | plain name =>
    obtain ⟨fields, _, rfl⟩ := map_eq_ok_iff.1 declared
    exact ⟨_, _, _, unchanged _⟩
  | route declaration =>
    obtain ⟨made, _, rfl⟩ := map_eq_ok_iff.1 declared
    exact ⟨_, _, _, unchanged _⟩
  | table name base choice body =>
    obtain ⟨inside, labels, extended, default, added, listed, extension, rfl⟩ :=
      exists_isExtension_of_declareTable sound declared
    obtain ⟨_, newer, present⟩ := exists_newer_of_declareBody listed
    refine ⟨added :: newer.map (Declared.within default labels), default, labels, ?_, ?_⟩
    · show (nameBody extended name labels).declarations = _
      rw [declarations_nameBody, extension.declarations, present, List.map_append,
        List.cons_append]
    · intro route form found changed
      have used : route.cls ∈ labels.map (·.2) := by
        by_contra absent
        exact changed (by simp only [Declared.within, if_neg absent])
      have recast : form.within default ≠ form := fun same =>
        changed (by simp only [Declared.within, same, ite_self])
      obtain ⟨settings, chosen, plain, different⟩ :=
        Form.hasOwnSettings_of_within_ne (sound.of_form? found).2 recast
      obtain ⟨given, resolved⟩ := extension.chosen settings chosen
      exact .table given resolved listed used plain different

theorem isClosed_addNamed {declared : Declared} (closed : catalog.IsClosed)
    (below : declared.RefersBelow (catalog.size + 1)) :
    (addNamed catalog declared).IsClosed :=
  (closed.add below).giveName _ below.1

/-- A declaration in which types name their classes refers to what is there. -/
theorem isClosed_of_declare {statement : Statement} {next : Catalog} (sound : catalog.IsSound)
    (closed : catalog.IsClosed) (named : statement.isByName = true)
    (declared : declare catalog statement = .ok next) :
    next.IsClosed := by
  have newest : catalog.size < catalog.size + 1 := Nat.lt_succ_self _
  cases statement with
  | enumeration name entries kind =>
    obtain ⟨choices, made, rfl⟩ := map_eq_ok_iff.1 declared
    obtain ⟨values, _, made⟩ := bind_eq_ok_iff.1 (mapError_eq_ok_iff.1 made)
    have number := number_of_enumerationOf made
    exact isClosed_addNamed closed ⟨number ▸ newest, trivial⟩
  | plain name =>
    obtain ⟨fields, _, rfl⟩ := map_eq_ok_iff.1 declared
    exact isClosed_addNamed closed ⟨newest, nofun⟩
  | route declaration =>
    obtain ⟨made, making, rfl⟩ := map_eq_ok_iff.1 declared
    obtain ⟨route, form, rfl, number, below⟩ := exists_refersBelow_of_declareClass closed named making
    exact isClosed_addNamed closed ⟨number ▸ newest, below.mono (Nat.le_succ _)⟩
  | table name base choice body =>
    obtain ⟨inside, labels, extended, default, added, listed, extension, rfl⟩ :=
      exists_isExtension_of_declareTable sound declared
    obtain ⟨closedBody, present⟩ :=
      isClosed_of_declareBody closed (List.all_eq_true.1 named) (fun _ none => by cases none) listed
    have closedAfter := extension.isClosed closedBody present
    have size := extension.size
    have presentAfter (entry : Text × ClassRef) (member : entry ∈ labels) :
        entry.2.number < extended.size :=
      size ▸ Nat.lt_succ_of_lt (present entry member)
    have sizeNamed : (nameBody extended name labels).size = inside.size + 1 := by
      rw [← size, Catalog.size, Catalog.size, declarations_nameBody]
    refine (isClosed_nameBody closedAfter name presentAfter).giveName name ?_
    exact sizeNamed ▸ (extension.below closedBody present).1

/-- Whatever is declared in a module with types that name their classes, nothing in its catalog
refers to what is not there. -/
theorem Module.isClosed_declareAll {module : Module} (sound : module.catalog.IsSound)
    (closed : module.catalog.IsClosed) {statements : List Statement}
    (named : ∀ statement ∈ statements, statement.isByName = true) :
    (module.declareAll statements).1.catalog.IsClosed := by
  induction statements generalizing module with
  | nil => exact closed
  | cons statement rest inductionHypothesis =>
    obtain ⟨namedHere, namedLater⟩ := List.forall_mem_cons.1 named
    have kept : (module.declare statement).1.catalog.IsSound ∧
        (module.declare statement).1.catalog.IsClosed := by
      unfold Module.declare
      split
      · exact ⟨sound, closed⟩
      · rename_i declared
        exact ⟨isSound_of_declare sound declared,
          isClosed_of_declare sound closed namedHere declared⟩
    unfold declareAll
    exact inductionHypothesis kept.1 kept.2 namedLater

end TypedRoutes.Declaration
