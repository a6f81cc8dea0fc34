import TypedRoutes.Proofs.Declaration.Variants
import TypedRoutes.Proofs.Table.Binding

/-!
Contract: the payload is handed out at most once, and given back when an attempt fails.

A resolution fills fields for the payload in order, those of a nested route at the place of its
field. An account of it lists their values. The list is read off the instance that comes out, so it
does not depend on what the slot did: only the first field on it can hold the payload, and the slot
remembers whether there has been one. An attempt that comes to nothing leaves the slot as it was,
whatever has been taken from it meanwhile.

Owns: accounts of resolutions, and that filling, trying one class and trying several keep to them.
-/

set_option autoImplicit false

namespace TypedRoutes.Table

open TypedRoutes.Matching

/-! ## Slots -/

namespace Slot

/-- The slot after some fields have asked it for the payload. -/
def after (slot : Slot Value) (payloads : List Value) : Slot Value :=
  { slot with taken := slot.taken || !payloads.isEmpty }

/-- What a number of fields get that ask for the payload one after the other. -/
def shares (slot : Slot Value) : Nat → List Value
  | 0 => []
  | count + 1 => (if slot.taken then .absent else slot.payload) :: List.replicate count .absent

@[simp] theorem after_nil (slot : Slot Value) : slot.after [] = slot := by
  simp [after]

theorem after_append (slot : Slot Value) (first second : List Value) :
    slot.after (first ++ second) = (slot.after first).after second := by
  cases first <;> simp [after]

theorem shares_of_taken {slot : Slot Value} (taken : slot.taken = true) (count : Nat) :
    slot.shares count = List.replicate count .absent := by
  cases count with
  | zero => rfl
  | succ count =>
    rw [shares, if_pos taken]
    rfl

/-- Fields that ask later get what is left by those before. -/
theorem shares_append {slot : Slot Value} {first second : List Value}
    (own : first = slot.shares first.length)
    (other : second = (slot.after first).shares second.length) :
    first ++ second = slot.shares (first ++ second).length := by
  cases first with
  | nil => simpa using other
  | cons head rest =>
    have taken : (slot.after (head :: rest)).taken = true := by simp [after]
    rw [shares_of_taken taken] at other
    obtain ⟨same, absent⟩ := List.cons.inj own
    rw [List.cons_append, List.length_cons, shares, ← same, List.length_append]
    congr 1
    rw [← List.replicate_append_replicate]
    exact congrArg₂ _ absent other

theorem take_fst (slot : Slot Value) : [slot.take.1.getD .absent] = slot.shares 1 := by
  unfold take shares
  split <;> rfl

theorem take_snd (slot : Slot Value) (value : Value) : slot.take.2 = slot.after [value] := by
  obtain ⟨payload, taken⟩ := slot
  cases taken <;> rfl

end Slot

/-! ## Accounts -/

def heldBy? (whole : Value) (name : Text) : Option Value :=
  match whole with
  | .record _ _ fields _ => Mapping.get? fields name
  | _ => none

/-- An account of resolutions: from a slot, a text is resolved to a value, and on the way the fields
for the payload are filled with the listed values. -/
abbrev Account := Slot Value → Text → Value → List Value → Prop

section

variable
  (nested : ClassRef → Option Resolver)
  (accounts : ClassRef → Option Account)
  (produce : Producer)

/-- The payloads that filling a field with a value accounts for. -/
inductive Field.Accounts (field : Field) (slot : Slot Value) :
    Option Text → Value → List Value → Prop where
  | payload {captured : Option Text} {value : Value} (state : field.isState = true) :
      Field.Accounts field slot captured value [value]
  /-- A nested route accounts for those of its own fields. -/
  | nested {cls : ClassRef} {account : Account} {text : Text} {value : Value}
      {payloads : List Value} (other : field.isState = false) (kind : field.kind = .declared cls)
      (known : accounts cls = some account) (resolved : account slot text value payloads) :
      Field.Accounts field slot (some text) value payloads
  /-- The absent value in the place of a nested route accounts for none. -/
  | absent {cls : ClassRef} {resolver : Resolver} {text : Text} (other : field.isState = false)
      (kind : field.kind = .declared cls) (known : nested cls = some resolver)
      (unresolved : (resolver text slot).result = .ok none) :
      Field.Accounts field slot (some text) .absent []
  /-- So does a value that no text has been captured for, or that a text is converted to. -/
  | plain {captured : Option Text} {value : Value} (other : field.isState = false)
      (unnested : captured = none ∨ nestedResolver? nested field.kind = none) :
      Field.Accounts field slot captured value []

/-- A field that keeps the value it is filled with when an instance is made. A factory takes the
place of what stands for it, and of what is named like that. -/
def Field.Keeps (field : Field) (value : Value) : Prop :=
  field.isState = true ∨ field.factory = none ∨
    value ≠ factoryMark ∧ field.name ≠ "_HAS_DEFAULT_FACTORY".toList

/-- The payloads that filling fields in order accounts for, depth first. They are read off the
instance, which has the values that its fields keep. -/
inductive FillingAccounts (whole : Value) :
    Slot Value → List (Field × Option Text) → List Value → Prop where
  | nil {slot : Slot Value} : FillingAccounts whole slot [] []
  | cons {slot : Slot Value} {field : Field} {captured : Option Text} {value : Value}
      {rest : List (Field × Option Text)} {first others : List Value}
      (own : field.Accounts nested accounts slot captured value first)
      (held : field.Keeps value → heldBy? whole field.name = some value)
      (later : FillingAccounts whole (slot.after first) rest others) :
      FillingAccounts whole slot ((field, captured) :: rest) (first ++ others)

/-- The account of one class: a match, and the fields that are filled from it. -/
def Variant.account (variant : Variant) : Account :=
  fun slot text value payloads =>
    (variant.resolve nested produce text slot).result = .ok (some value) ∧
      ∃ captures, variant.matcher.verdict text = .matched captures ∧
        FillingAccounts nested accounts value slot (variant.route.captured captures) payloads

/-- The account of several classes is the one of the first that comes to an instance. -/
def accountFirst : List Variant → Account
  | [] => fun _ _ _ _ => False
  | variant :: rest => fun slot text value payloads =>
    variant.account nested accounts produce slot text value payloads ∨
      (variant.resolve nested produce text slot).result = .ok none ∧
        accountFirst rest slot text value payloads

/-- The account of a table. A class in the place of the operation fills no fields from a slot. -/
def RouteTable.account (declared? : ClassRef → Option Declared) (table : RouteTable) : Account :=
  match (Mapping.get? table.parts "_resolve".toList).bind declared? with
  | some declared => fun slot text value payloads =>
    (resolveByMaking produce declared [slotValue] text slot).result = .ok (some value) ∧
      payloads = []
  | none => accountFirst nested accounts produce table.variants

/-- The account of a declaration, if it is a table or a route class. -/
def Declared.account? (declared? : ClassRef → Option Declared) : Declared → Option Account
  | .table chosen => some (chosen.account nested accounts produce declared?)
  | .route chosen (some form) => some (Variant.account nested accounts produce ⟨chosen, form.matcher⟩)
  | _ => none

end

/-- A resolver keeps to an account. When it comes to no instance, the slot is as it was. When it
comes to one, there is just one list of payloads; the first of them is what the slot had to give,
all others are absent, and the payload counts as taken if there is any. -/
structure Account.IsKeptBy (account : Account) (resolver : Resolver) : Prop where
  preserves : ∀ text slot, (resolver text slot).slot.payload = slot.payload
  releases :
    ∀ text slot, (resolver text slot).result = .ok none →
      (resolver text slot).slot.taken = slot.taken
  resolves :
    ∀ slot text value payloads, account slot text value payloads →
      (resolver text slot).result = .ok (some value)
  unique :
    ∀ slot text value payloads others, account slot text value payloads →
      account slot text value others → payloads = others
  handsOut :
    ∀ text slot value, (resolver text slot).result = .ok (some value) →
      ∃ payloads, account slot text value payloads ∧
        payloads = slot.shares payloads.length ∧ (resolver text slot).slot = slot.after payloads

theorem Account.IsKeptBy.slot_eq {account : Account} {resolver : Resolver} {text : Text}
    {slot : Slot Value} (kept : account.IsKeptBy resolver)
    (unresolved : (resolver text slot).result = .ok none) :
    (resolver text slot).slot = slot := by
  have payload := kept.preserves text slot
  have taken := kept.releases text slot unresolved
  generalize (resolver text slot).slot = final at payload taken
  obtain ⟨_, _⟩ := final
  obtain ⟨_, _⟩ := slot
  cases payload
  cases taken
  rfl

/-- Accounts and resolvers that are there for the same classes, and agree. -/
inductive Agrees : Option Account → Option Resolver → Prop where
  | none : Agrees none none
  | some {account : Account} {resolver : Resolver} (kept : account.IsKeptBy resolver) :
      Agrees (some account) (some resolver)

section

variable
  {nested : ClassRef → Option Resolver}
  {accounts : ClassRef → Option Account}
  {produce : Producer}

/-! ## Fields -/

theorem exists_of_nestedResolver? {kind : FieldType} {resolver : Resolver}
    (agree : ∀ cls, Agrees (accounts cls) (nested cls))
    (found : nestedResolver? nested kind = some resolver) :
    ∃ cls account, kind = .declared cls ∧ nested cls = some resolver ∧
      accounts cls = some account ∧ account.IsKeptBy resolver := by
  cases kind with
  | declared cls =>
    have known : nested cls = some resolver := found
    have both := agree cls
    rw [known] at both
    cases both' : accounts cls with
    | none =>
      rw [both'] at both
      cases both
    | some account =>
      rw [both'] at both
      cases both with
      | some kept => exact ⟨cls, account, rfl, known, both', kept⟩
  | _ => cases found

theorem payload_fillField (agree : ∀ cls, Agrees (accounts cls) (nested cls)) (produce : Producer)
    (field : Field) (captured : Option Text) (slot : Slot Value) :
    (fillField nested produce field captured slot).slot.payload = slot.payload := by
  unfold fillField
  split
  · exact Slot.payload_take slot
  · cases captured with
    | none => rfl
    | some text =>
      dsimp only
      unfold readField
      split
      · rename_i resolver found
        obtain ⟨_, _, _, _, _, kept⟩ := exists_of_nestedResolver? agree found
        exact kept.preserves text slot
      · split <;> rfl

theorem Field.eq_absent_of_orAbsent {field : Field} {value : Value}
    (filled : field.orAbsent none = some value) :
    value = .absent := by
  by_cases optional : field.isOptional = true
  · simpa [orAbsent, optional] using filled.symm
  · simp [orAbsent, optional] at filled

/-- A field that is read from text takes the share of the nested route in its place. -/
theorem exists_payloads_of_readField {field : Field} {text : Text} {slot : Slot Value}
    {value : Value} (agree : ∀ cls, Agrees (accounts cls) (nested cls))
    (other : field.isState = false)
    (filled : (readField nested field text slot).result = .ok (some value)) :
    ∃ payloads, field.Accounts nested accounts slot (some text) value payloads ∧
      payloads = slot.shares payloads.length ∧
        (readField nested field text slot).slot = slot.after payloads := by
  unfold readField at filled ⊢
  cases found : nestedResolver? nested field.kind with
  | none =>
    rw [found] at filled
    dsimp only at filled ⊢
    refine ⟨[], .plain other (.inr found), rfl, ?_⟩
    split <;> exact slot.after_nil.symm
  | some resolver =>
    rw [found] at filled
    dsimp only at filled ⊢
    obtain ⟨cls, account, kind, known, accounted, kept⟩ := exists_of_nestedResolver? agree found
    obtain ⟨inner, resolved, same⟩ := map_eq_ok_iff.1 filled
    cases inner with
    | none =>
      have absent : value = .absent := Field.eq_absent_of_orAbsent same
      rw [absent, kept.slot_eq resolved]
      exact ⟨[], .absent other kind known resolved, rfl, slot.after_nil.symm⟩
    | some inner =>
      have given : inner = value := by simpa [Field.orAbsent] using same
      subst given
      obtain ⟨payloads, entry, shared, after⟩ := kept.handsOut text slot inner resolved
      exact ⟨payloads, .nested other kind accounted entry, shared, after⟩

theorem exists_payloads_of_fillField {field : Field} {captured : Option Text} {slot : Slot Value}
    {value : Value} (agree : ∀ cls, Agrees (accounts cls) (nested cls))
    (filled : (fillField nested produce field captured slot).result = .ok (some value)) :
    ∃ payloads, field.Accounts nested accounts slot captured value payloads ∧
      payloads = slot.shares payloads.length ∧
        (fillField nested produce field captured slot).slot = slot.after payloads := by
  unfold fillField at filled ⊢
  by_cases state : field.isState = true
  · rw [if_pos state] at filled ⊢
    dsimp only at filled ⊢
    cases filled
    exact ⟨_, .payload state, slot.take_fst, slot.take_snd _⟩
  · rw [if_neg state] at filled ⊢
    rw [Bool.not_eq_true] at state
    cases captured with
    | none => exact ⟨[], .plain state (.inl rfl), rfl, slot.after_nil.symm⟩
    | some text => exact exists_payloads_of_readField agree state filled

theorem kept_of_agrees {cls : ClassRef} {account : Account}
    (agree : ∀ cls, Agrees (accounts cls) (nested cls)) (known : accounts cls = some account) :
    ∃ resolver, nested cls = some resolver ∧ account.IsKeptBy resolver := by
  have both := agree cls
  rw [known] at both
  generalize nested cls = found at both
  cases both with
  | some kept => exact ⟨_, rfl, kept⟩

/-- A nested route and anything else do not account for one and the same field. -/
theorem Field.Accounts.of_nested {field : Field} {slot : Slot Value} {text : Text} {cls : ClassRef}
    {account : Account} {value other : Value} {payloads others : List Value}
    (agree : ∀ cls, Agrees (accounts cls) (nested cls)) (kind : field.kind = .declared cls)
    (known : accounts cls = some account) (resolved : account slot text value payloads)
    (state : field.isState = false)
    (another : field.Accounts nested accounts slot (some text) other others) :
    payloads = others := by
  obtain ⟨resolver, found, kept⟩ := kept_of_agrees agree known
  have result := kept.resolves slot text value payloads resolved
  cases another with
  | payload payload =>
    rw [state] at payload
    cases payload
  | nested _ kindAgain knownAgain resolvedAgain =>
    rw [kind] at kindAgain
    cases kindAgain
    rw [known] at knownAgain
    cases knownAgain
    have again := kept.resolves slot text other others resolvedAgain
    rw [result] at again
    cases again
    exact kept.unique slot text value payloads others resolved resolvedAgain
  | absent _ kindAgain foundAgain unresolved =>
    rw [kind] at kindAgain
    cases kindAgain
    rw [found] at foundAgain
    cases foundAgain
    rw [result] at unresolved
    cases unresolved
  | plain _ unnested =>
    rcases unnested with missing | unnested
    · cases missing
    · rw [kind] at unnested
      have missing : nested cls = none := unnested
      rw [found] at missing
      cases missing

/-- What filling a field accounts for is settled by the slot, the text and the value. -/
theorem Field.Accounts.unique {field : Field} {slot : Slot Value} {captured : Option Text}
    {value other : Value} {payloads others : List Value}
    (agree : ∀ cls, Agrees (accounts cls) (nested cls))
    (one : field.Accounts nested accounts slot captured value payloads)
    (another : field.Accounts nested accounts slot captured other others)
    (same : field.isState = true → value = other) :
    payloads = others := by
  cases one with
  | payload state =>
    cases another with
    | payload => rw [same state]
    | nested other => exact absurd state (by simp [other])
    | absent other => exact absurd state (by simp [other])
    | plain other => exact absurd state (by simp [other])
  | nested state kind known resolved =>
    exact Field.Accounts.of_nested agree kind known resolved state another
  | absent state kind found unresolved =>
    cases another with
    | payload payload => exact absurd payload (by simp [state])
    | nested state kind known resolved =>
      exact (Field.Accounts.of_nested agree kind known resolved state
        (.absent state ‹_› found unresolved)).symm
    | absent => rfl
    | plain => rfl
  | plain state unnested =>
    cases another with
    | payload payload => exact absurd payload (by simp [state])
    | nested state kind known resolved =>
      have plainly : field.Accounts nested accounts slot _ value [] := .plain state unnested
      exact (Field.Accounts.of_nested agree kind known resolved state plainly).symm
    | absent => rfl
    | plain => rfl

/-! ## Filling -/

theorem payload_fill (agree : ∀ cls, Agrees (accounts cls) (nested cls))
    (fields : List (Field × Option Text)) (slot : Slot Value) :
    (fill nested produce fields slot).slot.payload = slot.payload := by
  induction fields generalizing slot with
  | nil => rfl
  | cons entry rest inductionHypothesis =>
    obtain ⟨field, captured⟩ := entry
    have first := payload_fillField agree produce field captured slot
    unfold fill
    dsimp only
    split
    · exact first
    · exact first
    · exact (inductionHypothesis _).trans first

/-- Fields that are filled in order share the payload in order. -/
theorem exists_payloads_of_fill {fields : List (Field × Option Text)} {slot : Slot Value}
    {values : List (Text × Value)} {whole : Value}
    (agree : ∀ cls, Agrees (accounts cls) (nested cls))
    (filled : (fill nested produce fields slot).result = .ok values)
    (held : ∀ entry ∈ fields, ∀ value, (entry.1.name, value) ∈ values →
      entry.1.Keeps value → heldBy? whole entry.1.name = some value) :
    ∃ payloads, FillingAccounts nested accounts whole slot fields payloads ∧
      payloads = slot.shares payloads.length ∧
        (fill nested produce fields slot).slot = slot.after payloads := by
  induction fields generalizing slot values with
  | nil => exact ⟨[], .nil, rfl, slot.after_nil.symm⟩
  | cons entry rest inductionHypothesis =>
    obtain ⟨field, captured⟩ := entry
    unfold fill at filled ⊢
    dsimp only at filled ⊢
    split at filled
    · cases filled
    · cases filled
    · rename_i value first
      obtain ⟨others, further, rfl⟩ := map_eq_ok_iff.1 filled
      obtain ⟨ownHeld, laterHeld⟩ := List.forall_mem_cons.1 held
      obtain ⟨payloads, own, shared, after⟩ := exists_payloads_of_fillField agree first
      rw [after] at further ⊢
      have later : ∀ entry ∈ rest, ∀ value, (entry.1.name, value) ∈ others →
          entry.1.Keeps value → heldBy? whole entry.1.name = some value :=
        fun entry member value among =>
          laterHeld entry member value (List.mem_cons_of_mem _ among)
      obtain ⟨more, accounted, sharedMore, afterMore⟩ := inductionHypothesis further later
      refine ⟨payloads ++ more, .cons own (ownHeld value List.mem_cons_self) accounted, ?_, ?_⟩
      · exact Slot.shares_append shared sharedMore
      · rw [afterMore, Slot.after_append]

theorem FillingAccounts.unique {whole : Value} {slot : Slot Value}
    {fields : List (Field × Option Text)} {payloads others : List Value}
    (agree : ∀ cls, Agrees (accounts cls) (nested cls))
    (one : FillingAccounts nested accounts whole slot fields payloads)
    (another : FillingAccounts nested accounts whole slot fields others) :
    payloads = others := by
  induction one generalizing others with
  | nil =>
    cases another
    rfl
  | cons own held _ inductionHypothesis =>
    cases another with
    | cons ownAgain heldAgain laterAgain =>
      have same := own.unique agree ownAgain fun state => by
        have first := held (.inl state)
        rw [heldAgain (.inl state)] at first
        cases first
        rfl
      subst same
      rw [inductionHypothesis laterAgain]

/-! ## Instances -/

theorem Field.settle_of_keeps {arguments : List Field} {given : Mapping Value} {field : Field}
    {value : Value} (argument : field.isArgument = true)
    (found : Mapping.get? given field.name = some value) (keeps : field.Keeps value) :
    field.settle produce arguments given = .ok (some value) := by
  rcases keeps with state | none | ⟨plain, other⟩
  · have absent : field.default? = some .absent := if_pos state
    unfold Field.settle
    rw [absent, if_pos argument, found]
    rfl
  · unfold Field.settle
    rw [none, if_pos argument, found]
    cases field.default? <;> rfl
  · exact Field.settle_of_given argument found plain fun same => absurd same other

/-- The fields that settle on values are among all fields, and in their order. -/
theorem sublist_names_of_settleAll {arguments fields : List Field} {given settled : Mapping Value}
    {unset : List Text} (done : settleAll produce arguments given fields = .ok (settled, unset)) :
    (settled.map (·.1)).Sublist (fields.map (·.name)) := by
  induction fields generalizing settled unset with
  | nil =>
    cases done
    exact .slnil
  | cons field rest inductionHypothesis =>
    unfold settleAll at done
    split at done
    · cases done
    · rename_i found settling
      obtain ⟨⟨others, unsetOthers⟩, further, same⟩ := map_eq_ok_iff.1 done
      have later := inductionHypothesis further
      cases found with
      | none =>
        cases same
        exact later.cons _
      | some value =>
        cases same
        exact later.cons_cons _

theorem mem_of_settleAll {arguments fields : List Field} {given settled : Mapping Value}
    {unset : List Text} {field : Field} {value : Value}
    (done : settleAll produce arguments given fields = .ok (settled, unset))
    (member : field ∈ fields) (settles : field.settle produce arguments given = .ok (some value)) :
    (field.name, value) ∈ settled := by
  induction fields generalizing settled unset with
  | nil => cases member
  | cons head rest inductionHypothesis =>
    unfold settleAll at done
    split at done
    · cases done
    · rename_i found settling
      obtain ⟨⟨others, unsetOthers⟩, further, same⟩ := map_eq_ok_iff.1 done
      rcases List.mem_cons.1 member with rfl | inside
      · rw [settles] at settling
        cases settling
        cases same
        exact List.mem_cons_self
      · have later := inductionHypothesis further inside
        cases found with
        | none =>
          cases same
          exact later
        | some other =>
          cases same
          exact List.mem_cons_of_mem _ later

theorem RouteClass.arguments_sublist (route : RouteClass) :
    route.arguments.Sublist route.fields := by
  unfold arguments
  split
  · exact List.nil_sublist _
  · exact List.filter_sublist

theorem RouteClass.isArgument_of_mem {route : RouteClass} {field : Field}
    (member : field ∈ route.arguments) :
    field.isArgument = true := by
  unfold arguments at member
  split at member
  · cases member
  · exact (List.mem_filter.1 member).2

theorem heldBy?_of_make {route : RouteClass} {values : List (Text × Value)} {whole : Value}
    {field : Field} {value : Value} (distinct : route.HasOwnNames)
    (names : values.map (·.1) = route.arguments.map (·.name))
    (made : route.make produce values = .ok whole) (argument : field ∈ route.arguments)
    (filled : (field.name, value) ∈ values) (keeps : field.Keeps value) :
    heldBy? whole field.name = some value := by
  obtain ⟨_, _, _, settled, unset, done, rfl⟩ := RouteClass.make_eq_ok_iff.1 made
  have givenDistinct : (values.map (·.1)).Nodup := by
    rw [names]
    exact List.Nodup.sublist (route.arguments_sublist.map _) distinct
  have found := Mapping.get?_eq_some_of_mem givenDistinct filled
  have settles : field.settle produce route.arguments values = .ok (some value) :=
    Field.settle_of_keeps (RouteClass.isArgument_of_mem argument) found keeps
  have settledDistinct := List.Nodup.sublist (sublist_names_of_settleAll done) distinct
  have member := mem_of_settleAll done (route.arguments_sublist.subset argument) settles
  exact Mapping.get?_eq_some_of_mem settledDistinct member

/-! ## Classes and tables -/

theorem names_of_fill {fields : List (Field × Option Text)} {slot : Slot Value}
    {values : List (Text × Value)}
    (filled : (fill nested produce fields slot).result = .ok values) :
    values.map (·.1) = fields.map (·.1.name) := by
  induction fields generalizing slot values with
  | nil =>
    cases filled
    rfl
  | cons entry rest inductionHypothesis =>
    obtain ⟨field, captured⟩ := entry
    unfold fill at filled
    dsimp only at filled
    split at filled
    · cases filled
    · cases filled
    · obtain ⟨others, further, rfl⟩ := map_eq_ok_iff.1 filled
      rw [List.map_cons, List.map_cons, inductionHypothesis further]

theorem RouteClass.map_fst_captured (route : RouteClass) (captures : Captures) :
    (route.captured captures).map (·.1) = route.arguments := by
  unfold captured layout
  split
  · simp [Function.comp_def]
  · exact map_fst_pairInOrder _ _
  · rename_i unit
    split at unit
    · rename_i none
      simpa using none.symm
    · cases shape : route.shape with
      | bare => simp [arguments, shape]
      | record => simp [shape] at unit
      | tuple => simp [shape] at unit

theorem Variant.isKeptBy {variant : Variant} (agree : ∀ cls, Agrees (accounts cls) (nested cls))
    (distinct : variant.route.HasOwnNames) :
    (variant.account nested accounts produce).IsKeptBy (variant.resolve nested produce) where
  preserves text slot := by
    unfold resolve
    split
    · rfl
    · rfl
    · dsimp only
      split
      · exact payload_fill agree _ slot
      · exact payload_fill agree _ slot
      · exact payload_fill agree _ slot
  releases text slot unresolved := by
    cases matched : variant.matcher.verdict text with
    | failed =>
      unfold resolve
      rw [matched]
    | leftOver rest =>
      unfold resolve
      rw [matched]
    | matched captures =>
      obtain ⟨name, filled⟩ := exists_field_of_unresolved matched unresolved
      unfold resolve
      rw [matched]
      dsimp only
      rw [filled]
      rfl
  resolves slot text value payloads entry := entry.1
  unique slot text value payloads others one another := by
    obtain ⟨_, captures, matched, own⟩ := one
    obtain ⟨_, capturesAgain, matchedAgain, other⟩ := another
    rw [matched] at matchedAgain
    cases matchedAgain
    exact own.unique agree other
  handsOut text slot value resolved := by
    obtain ⟨captures, values, matched, filled, making⟩ := exists_values_of_resolve resolved
    have fields := variant.route.map_fst_captured captures
    have names : values.map (·.1) = variant.route.arguments.map (·.name) := by
      rw [names_of_fill filled, ← fields, List.map_map]
      rfl
    obtain ⟨payloads, accounted, shared, after⟩ :=
      exists_payloads_of_fill agree filled fun entry member value among keeps => by
        have argument : entry.1 ∈ variant.route.arguments := by
          rw [← fields]
          exact List.mem_map_of_mem member
        exact heldBy?_of_make distinct names making argument among keeps
    refine ⟨payloads, ⟨resolved, captures, matched, accounted⟩, shared, ?_⟩
    unfold resolve
    rw [matched]
    dsimp only
    rw [filled]
    exact after

/-- If one resolver is asked first and another one when that comes to nothing, the account of the
first one comes first as well. -/
theorem Account.IsKeptBy.orElse {first second : Account}
    {firstResolver secondResolver both : Resolver} (own : first.IsKeptBy firstResolver)
    (other : second.IsKeptBy secondResolver)
    (resolved : ∀ text slot, (firstResolver text slot).result ≠ .ok none →
      (both text slot).result = (firstResolver text slot).result ∧
        (both text slot).slot = (firstResolver text slot).slot)
    (unresolved : ∀ text slot, (firstResolver text slot).result = .ok none →
      (both text slot).result = (secondResolver text slot).result ∧
        (both text slot).slot = (secondResolver text slot).slot) :
    Account.IsKeptBy
      (fun slot text value payloads =>
        first slot text value payloads ∨
          (firstResolver text slot).result = .ok none ∧ second slot text value payloads)
      both where
  preserves text slot := by
    by_cases fails : (firstResolver text slot).result = .ok none
    · rw [(unresolved text slot fails).2]
      exact other.preserves text slot
    · rw [(resolved text slot fails).2]
      exact own.preserves text slot
  releases text slot nothing := by
    by_cases fails : (firstResolver text slot).result = .ok none
    · obtain ⟨result, same⟩ := unresolved text slot fails
      rw [same]
      exact other.releases text slot (result.symm.trans nothing)
    · exact absurd ((resolved text slot fails).1.symm.trans nothing) fails
  resolves slot text value payloads entry := by
    rcases entry with entry | ⟨fails, entry⟩
    · have result := own.resolves slot text value payloads entry
      have found : (firstResolver text slot).result ≠ .ok none := by
        rw [result]
        nofun
      exact (resolved text slot found).1.trans result
    · have result := other.resolves slot text value payloads entry
      exact (unresolved text slot fails).1.trans result
  unique slot text value payloads others entry again := by
    have apart {payloads : List Value} (entry : first slot text value payloads) :
        (firstResolver text slot).result ≠ .ok none := by
      rw [own.resolves slot text value payloads entry]
      nofun
    rcases entry with entry | ⟨fails, entry⟩
    · rcases again with again | ⟨fails, _⟩
      · exact own.unique slot text value payloads others entry again
      · exact absurd fails (apart entry)
    · rcases again with again | ⟨_, again⟩
      · exact absurd fails (apart again)
      · exact other.unique slot text value payloads others entry again
  handsOut text slot value found := by
    by_cases fails : (firstResolver text slot).result = .ok none
    · obtain ⟨result, same⟩ := unresolved text slot fails
      obtain ⟨payloads, entry, shared, after⟩ :=
        other.handsOut text slot value (result.symm.trans found)
      exact ⟨payloads, .inr ⟨fails, entry⟩, shared, same.trans after⟩
    · obtain ⟨result, same⟩ := resolved text slot fails
      obtain ⟨payloads, entry, shared, after⟩ :=
        own.handsOut text slot value (result.symm.trans found)
      exact ⟨payloads, .inl entry, shared, same.trans after⟩

/-- Classes that are tried in order keep to the account of the first one that succeeds. -/
theorem isKeptBy_resolveFirst {variants : List Variant}
    (agree : ∀ cls, Agrees (accounts cls) (nested cls))
    (distinct : ∀ variant ∈ variants, variant.route.HasOwnNames) :
    (accountFirst nested accounts produce variants).IsKeptBy
      (resolveFirst nested produce variants) := by
  induction variants with
  | nil =>
    exact
      { preserves := fun _ _ => rfl
        releases := fun _ _ _ => rfl
        resolves := fun _ _ _ _ entry => entry.elim
        unique := fun _ _ _ _ _ entry => entry.elim
        handsOut := fun _ _ _ resolved => nomatch resolved }
  | cons variant rest inductionHypothesis =>
    obtain ⟨ownDistinct, othersDistinct⟩ := List.forall_mem_cons.1 distinct
    have own : (variant.account nested accounts produce).IsKeptBy
        (variant.resolve nested produce) :=
      Variant.isKeptBy agree ownDistinct
    apply own.orElse (inductionHypothesis othersDistinct)
    · intro text slot resolved
      unfold resolveFirst
      dsimp only
      split
      · exact ⟨rfl, rfl⟩
      · exact ⟨rfl, rfl⟩
      · rename_i unresolved
        exact absurd unresolved resolved
    · intro text slot unresolved
      have same := own.slot_eq unresolved
      rw [resolveFirst]
      dsimp only
      rw [unresolved, same]
      exact ⟨rfl, rfl⟩

theorem RouteTable.isKeptBy {table : RouteTable} (agree : ∀ cls, Agrees (accounts cls) (nested cls))
    (distinct : table.HasOwnNames) (declared? : ClassRef → Option Declared) :
    (table.account nested accounts produce declared?).IsKeptBy
      (table.resolver nested declared? produce) := by
  unfold account resolver
  cases (Mapping.get? table.parts "_resolve".toList).bind declared? with
  | none => exact isKeptBy_resolveFirst agree distinct
  | some declared =>
    exact
      { preserves := fun _ _ => rfl
        releases := fun _ _ _ => rfl
        resolves := fun _ _ _ _ entry => entry.1
        unique := fun _ _ _ _ _ entry entryAgain => entry.2.trans entryAgain.2.symm
        handsOut := fun _ slot _ resolved =>
          ⟨[], ⟨resolved, rfl⟩, rfl, slot.after_nil.symm⟩ }

/-- A declaration keeps to its account, if it is a table or a route class. -/
theorem Declared.agrees {declared : Declared} (agree : ∀ cls, Agrees (accounts cls) (nested cls))
    (ofRoute : ∀ route form, declared = .route route (some form) → route.HasOwnNames)
    (ofTable : ∀ table, declared = .table table → table.HasOwnNames)
    (declared? : ClassRef → Option Declared) :
    Agrees (declared.account? nested accounts produce declared?)
      (declared.resolver? nested declared? produce) := by
  cases declared with
  | enumeration choices => exact .none
  | table chosen => exact .some (RouteTable.isKeptBy agree (ofTable chosen rfl) declared?)
  | route chosen form =>
    cases form with
    | none => exact .none
    | some form =>
      have own : (Variant.mk chosen form.matcher).route.HasOwnNames := ofRoute chosen form rfl
      exact .some (Variant.isKeptBy agree own)

end

end TypedRoutes.Table
