import TypedRoutes.Proofs.Number.Numeral
import TypedRoutes.Value.Conversion

/-!
Contract: values come back from their texts in routes.

What is read from the text of a value is the value again, for the types whose texts say all that
there is to say: texts, truth values, identifiers, integers that are not too long, and enumerations
no two members of which are written alike. In any other enumeration the text of a member is read as
the first member that is written so, if nothing is in the way of writing those before it.

Owns: the values of such types, their round trip through the converter of the type, and the member
that a text is read as.
-/

set_option autoImplicit false

namespace TypedRoutes

open TypedRoutes.Number TypedRoutes.Text

/-! ## Identifiers -/

theorem Text.removeAll_eq_self {c : Char} {more text : Text} (absent : c ∉ text) :
    removeAll (c :: more) text = text := by
  induction text with
  | nil => rw [removeAll]
  | cons first rest inductionHypothesis =>
    rw [List.mem_cons, not_or] at absent
    rw [removeAll, inductionHypothesis absent.2]
    simp [absent.1]

theorem Text.strip_eq_self {inSet : Char → Bool} {text : Text}
    (outside : ∀ c ∈ text, inSet c = false) :
    strip inSet text = text := by
  have kept {text : Text} (outside : ∀ c ∈ text, inSet c = false) :
      text.dropWhile inSet = text := by
    cases text with
    | nil => rfl
    | cons c rest => simp [outside c List.mem_cons_self]
  unfold strip
  rw [kept outside, kept fun c member => outside c (List.mem_reverse.1 member),
    List.reverse_reverse]

/-- No digit of an identifier is one of the characters that are dropped when it is read. -/
theorem hexDigit_not_dropped :
    ∀ value : Fin 16, hexDigit value ∉ ['u', '{', '}', '-'] := by
  decide +kernel

theorem not_dropped_of_mem_hexDigits {width value : Nat} (fits : value < 16 ^ width) {c : Char}
    (member : c ∈ hexDigits width value) :
    c ∉ ['u', '{', '}', '-'] := by
  obtain ⟨digits, written, _, valid, _⟩ := exists_digits_hexDigits width fits
  rw [written] at member
  obtain ⟨digit, inside, rfl⟩ := List.mem_map.1 member
  exact hexDigit_not_dropped ⟨digit, valid digit inside⟩

theorem runs_append (digits : Text) :
    digits.take 8 ++ (digits.drop 8).take 4 ++ (digits.drop 12).take 4 ++ (digits.drop 16).take 4 ++
      digits.drop 20 = digits := by
  have cut (place : Nat) :
      (digits.drop place).take 4 ++ digits.drop (place + 4) = digits.drop place := by
    rw [← List.drop_drop, List.take_append_drop]
  rw [List.append_assoc, cut 16, List.append_assoc, cut 12, List.append_assoc, cut 8,
    List.take_append_drop]

theorem filter_runs {digits : Text} (bare : ∀ c ∈ digits, c ≠ '-') :
    (Text.join ['-']
        [digits.take 8, (digits.drop 8).take 4, (digits.drop 12).take 4, (digits.drop 16).take 4,
          digits.drop 20]).filter (· ≠ '-') = digits := by
  have kept {part : Text} (inside : part ⊆ digits) : part.filter (· ≠ '-') = part :=
    List.filter_eq_self.2 fun c member => by simpa using bare c (inside member)
  have run (place : Nat) :
      ((digits.drop place).take 4).filter (· ≠ '-') = (digits.drop place).take 4 :=
    kept fun c member => List.drop_subset _ _ (List.take_subset _ _ member)
  have hyphen : ['-'].filter (· ≠ '-') = [] := rfl
  simp only [Text.join, List.filter_append, hyphen, run, kept (List.take_subset 8 digits),
    kept (List.drop_subset 20 digits), List.append_nil]
  simpa only [List.append_assoc] using runs_append digits

theorem Uuid.bareDigits_text {number : Nat} (fits : number < 16 ^ 32) (bound : number < uuidBound) :
    bareDigits (Uuid.text ⟨number, bound⟩) = hexDigits 32 number := by
  have dropped (c : Char) (member : c ∈ hexDigits 32 number) :
      c ≠ 'u' ∧ c ≠ '{' ∧ c ≠ '}' ∧ c ≠ '-' := by
    simpa using not_dropped_of_mem_hexDigits fits member
  have filtered : (Uuid.text ⟨number, bound⟩).filter (· ≠ '-') = hexDigits 32 number :=
    filter_runs fun c member => (dropped c member).2.2.2
  have outside (c : Char) (member : c ∈ Uuid.text ⟨number, bound⟩) :
      c ≠ 'u' ∧ c ≠ '{' ∧ c ≠ '}' := by
    by_cases hyphen : c = '-'
    · rw [hyphen]
      decide
    · have digit : c ∈ hexDigits 32 number := by
        rw [← filtered]
        exact List.mem_filter.2 ⟨member, by simpa using hyphen⟩
      exact ⟨(dropped c digit).1, (dropped c digit).2.1, (dropped c digit).2.2.1⟩
  have unmarked : 'u' ∉ Uuid.text ⟨number, bound⟩ := fun member => (outside 'u' member).1 rfl
  have unbraced : ∀ c ∈ Uuid.text ⟨number, bound⟩, (c = '{' || c = '}') = false := by
    intro c member
    simp [(outside c member).2.1, (outside c member).2.2]
  unfold bareDigits
  have urn : "urn:".toList = 'u' :: ['r', 'n', ':'] := rfl
  have uuid : "uuid:".toList = 'u' :: ['u', 'i', 'd', ':'] := rfl
  rw [urn, uuid, Text.removeAll_eq_self unmarked, Text.removeAll_eq_self unmarked]
  dsimp only
  rw [Text.strip_eq_self unbraced, filtered]

/-- An identifier is read back from its text. -/
theorem Uuid.read_text (uuid : Uuid) : Uuid.read uuid.text = .ok uuid := by
  obtain ⟨number, bound⟩ := uuid
  have fits : number < 16 ^ 32 := by
    unfold uuidBound at bound
    exact bound
  obtain ⟨digits, written, count, _, _⟩ := exists_digits_hexDigits 32 fits
  have length : (hexDigits 32 number).length = 32 := by
    rw [written, List.length_map, count]
  unfold Uuid.read
  rw [bareDigits_text fits bound]
  dsimp only
  rw [if_pos length, readInteger_hexDigits (by decide) fits]
  simp [bound]

/-! ## Enumerations -/

/-- What is in the way of writing the value of a member. -/
def Member.obstacle? (member : Member) : Option Obstacle :=
  match member.content.text with
  | .ok _ => none
  | .error error => some error

theorem Member.obstacle?_eq_none_iff {member : Member} :
    member.obstacle? = none ↔ ∃ text, member.content.text = .ok text := by
  unfold obstacle?
  cases member.content.text <;> simp

/-- The members of an enumeration are all written, and no two of them alike. -/
def Enumeration.HasDistinctTexts (choices : Enumeration) : Prop :=
  (∀ member ∈ choices.members, member.obstacle? = none) ∧
    ∀ first ∈ choices.members, ∀ second ∈ choices.members, ∀ text ∈ first.content.text.toOption,
      second.content.text.toOption = some text → first = second

instance (choices : Enumeration) : Decidable choices.HasDistinctTexts :=
  inferInstanceAs (Decidable (_ ∧ ∀ first ∈ choices.members, _))

/-- A text is read as the first member that is written so, if nothing is in the way of writing
those before it. -/
theorem Enumeration.firstWritten_append {earlier later : List Member} {first : Member} {text : Text}
    (others : ∀ other ∈ earlier, other.content.text ≠ .ok text)
    (own : first.content.text = .ok text) :
    firstWritten text (earlier ++ first :: later) =
      match earlier.findSome? Member.obstacle? with
      | some error => .error error
      | none => .ok (some first) := by
  induction earlier with
  | nil =>
    rw [List.nil_append, firstWritten, own, List.findSome?_nil]
    exact if_pos rfl
  | cons other rest inductionHypothesis =>
    obtain ⟨different, more⟩ := List.forall_mem_cons.1 others
    rw [List.cons_append, firstWritten, List.findSome?_cons]
    unfold Member.obstacle?
    cases spelled : other.content.text with
    | error error => rfl
    | ok written =>
      dsimp only
      rw [if_neg (by rintro rfl; exact different spelled)]
      exact inductionHypothesis more

theorem Enumeration.exists_first {members : List Member} {member : Member} {text : Text}
    (inside : member ∈ members) (written : member.content.text = .ok text) :
    ∃ earlier first later, members = earlier ++ first :: later ∧
      first.content.text = .ok text ∧ ∀ other ∈ earlier, other.content.text ≠ .ok text := by
  induction members with
  | nil => cases inside
  | cons head rest inductionHypothesis =>
    by_cases own : head.content.text = .ok text
    · exact ⟨[], head, rest, rfl, own, by simp⟩
    · have later : member ∈ rest := by
        rcases List.mem_cons.1 inside with rfl | later
        · exact absurd written own
        · exact later
      obtain ⟨earlier, first, after, split, spelled, others⟩ := inductionHypothesis later
      exact ⟨head :: earlier, first, after, by rw [split, List.cons_append], spelled,
        List.forall_mem_cons.2 ⟨own, others⟩⟩

theorem Enumeration.withText_eq_some {choices : Enumeration} {member : Member} {text : Text}
    (distinct : choices.HasDistinctTexts) (inside : member ∈ choices.members)
    (written : member.content.text = .ok text) :
    choices.withText text = .ok (some member) := by
  obtain ⟨earlier, first, later, split, spelled, others⟩ := exists_first inside written
  have among : ∀ other ∈ earlier ++ [first], other ∈ choices.members := by
    intro other before
    rw [split, List.append_cons]
    exact List.mem_append_left _ before
  have unhindered : earlier.findSome? Member.obstacle? = none :=
    List.findSome?_eq_none_iff.2 fun other before =>
      distinct.1 other (among other (List.mem_append_left _ before))
  have same : first = member := by
    refine distinct.2 first (among first (by simp)) member inside text ?_ ?_
    · rw [spelled]
      rfl
    · rw [written]
      rfl
  unfold withText
  rw [split, firstWritten_append others spelled, unhindered, same]

/-! ## Values of a type -/

/-- The values of a type that come back from their texts. -/
def FieldType.Holds : FieldType → Value → Prop
  | .text, .scalar (.text _) => True
  | .integer, .scalar (.integer number) => number.natAbs < 10 ^ digitLimit
  | .boolean, .scalar (.boolean _) => True
  | .uuid, .scalar (.uuid _) => True
  | .enumeration choices, value =>
    choices.HasDistinctTexts ∧ ∃ member ∈ choices.members, member.value = value
  | _, _ => False

instance (type : FieldType) (value : Value) : Decidable (type.Holds value) := by
  unfold FieldType.Holds
  split <;> infer_instance

theorem readBoolean?_routeText :
    ∀ truth : Bool, readBoolean? (Scalar.boolean truth).routeText = some truth := by
  decide +kernel

/-- Only integers of too many digits have no text. -/
theorem Value.routeText_scalar_eq_ok_iff {plain : Scalar} {text : Text} :
    (Value.scalar plain).routeText = .ok text ↔
      plain.routeText = text ∧
        ∀ number, plain = .integer number → number.natAbs < 10 ^ digitLimit := by
  have power (base exponent : Nat) : Nat.pow base exponent = base ^ exponent := rfl
  unfold Value.routeText Scalar.written
  cases plain with
  | integer number =>
    dsimp only
    rw [power]
    by_cases short : number.natAbs < 10 ^ digitLimit
    · rw [if_pos short]
      exact ⟨fun same => ⟨Except.ok.inj same, fun _ own => Scalar.integer.inj own ▸ short⟩,
        fun ⟨same, _⟩ => congrArg _ same⟩
    · rw [if_neg short]
      exact ⟨nofun, fun ⟨_, bound⟩ => absurd (bound _ rfl) short⟩
  | _ => simp

theorem FieldType.exists_converter {type : FieldType} {value : Value} {text : Text}
    (holds : type.Holds value) (written : value.routeText = .ok text) :
    ∃ converter, type.converter? = some converter ∧ converter.read text = .ok value := by
  unfold Holds at holds
  split at holds
  · obtain ⟨rfl, _⟩ := Value.routeText_scalar_eq_ok_iff.1 written
    exact ⟨.text, rfl, rfl⟩
  · rename_i number
    obtain ⟨rfl, _⟩ := Value.routeText_scalar_eq_ok_iff.1 written
    refine ⟨.integer, rfl, ?_⟩
    have spelled : (Scalar.integer number).routeText = integerText number := rfl
    rw [spelled, Converter.read, readInteger_integerText holds]
    rfl
  · rename_i truth
    obtain ⟨rfl, _⟩ := Value.routeText_scalar_eq_ok_iff.1 written
    refine ⟨.boolean, rfl, ?_⟩
    rw [Converter.read, readBoolean?_routeText]
    rfl
  · rename_i uuid
    obtain ⟨rfl, _⟩ := Value.routeText_scalar_eq_ok_iff.1 written
    refine ⟨.uuid, rfl, ?_⟩
    have spelled : (Scalar.uuid uuid).routeText = uuid.text := rfl
    rw [spelled, Converter.read, Uuid.read_text]
    rfl
  · rename_i choices
    obtain ⟨distinct, member, inside, rfl⟩ := holds
    refine ⟨.member choices, rfl, ?_⟩
    rw [Converter.read, choices.withText_eq_some distinct inside written]
    rfl
  · cases holds

/-- What the converter of a type makes of a text, if the type has one. -/
def FieldType.read? (type : FieldType) (text : Text) : Option (Except ConversionError Value) :=
  type.converter?.map (·.read text)

/-- A value has a text, and what is read from it is the value again. -/
def FieldType.ReadsBack (type : FieldType) (value : Value) : Prop :=
  ∃ text, value.routeText = .ok text ∧ type.read? text = some (.ok value)

theorem FieldType.exists_routeText {type : FieldType} {value : Value} (holds : type.Holds value) :
    ∃ text, value.routeText = .ok text := by
  unfold Holds at holds
  split at holds
  · exact ⟨_, Value.routeText_scalar_eq_ok_iff.2 ⟨rfl, nofun⟩⟩
  · refine ⟨_, Value.routeText_scalar_eq_ok_iff.2 ⟨rfl, fun _ own => ?_⟩⟩
    exact Scalar.integer.inj own ▸ holds
  · exact ⟨_, Value.routeText_scalar_eq_ok_iff.2 ⟨rfl, nofun⟩⟩
  · exact ⟨_, Value.routeText_scalar_eq_ok_iff.2 ⟨rfl, nofun⟩⟩
  · obtain ⟨distinct, member, inside, rfl⟩ := holds
    exact Member.obstacle?_eq_none_iff.1 (distinct.1 member inside)
  · cases holds

theorem FieldType.readsBack_of_holds {type : FieldType} {value : Value} (holds : type.Holds value) :
    type.ReadsBack value := by
  obtain ⟨text, written⟩ := exists_routeText holds
  obtain ⟨converter, converts, read⟩ := exists_converter holds written
  exact ⟨text, written, by rw [read?, converts, Option.map_some, read]⟩

/-! ## Members and their texts -/

theorem Member.eq_of_value {first second : Member} (same : first.value = second.value) :
    first = second := by
  cases first
  cases second
  cases same
  rfl

/-- A text is read as the first member that is written so. If a member before it cannot be written,
that is complained about instead. -/
def Enumeration.ReadsFirst (choices : Enumeration) (text : Text) : Prop :=
  ∃ earlier first later,
    choices.members = earlier ++ first :: later ∧
      first.value.routeText = .ok text ∧
        (∀ other ∈ earlier, other.value.routeText ≠ .ok text) ∧
          (FieldType.enumeration choices).read? text =
            some
              (match earlier.findSome? Member.obstacle? with
              | some error => .error (.obstacle error)
              | none => .ok first.value)

theorem Enumeration.readsFirst_of_written {choices : Enumeration} {member : Member} {text : Text}
    (inside : member ∈ choices.members) (written : member.value.routeText = .ok text) :
    choices.ReadsFirst text := by
  obtain ⟨earlier, first, later, split, spelled, others⟩ := exists_first inside written
  refine ⟨earlier, first, later, split, spelled, others, ?_⟩
  have found : choices.withText text = _ :=
    (congrArg (firstWritten text) split).trans (firstWritten_append others spelled)
  have reads :
      (FieldType.enumeration choices).read? text =
        some ((Converter.member choices).read text) := rfl
  rw [reads, Converter.read, found]
  cases earlier.findSome? Member.obstacle? <;> rfl

/-- All members come back from their texts just if all are written and no two of them alike. -/
theorem Enumeration.readsBack_iff {choices : Enumeration} :
    (∀ member ∈ choices.members, (FieldType.enumeration choices).ReadsBack member.value) ↔
      choices.HasDistinctTexts := by
  constructor
  · intro back
    refine ⟨fun member inside => ?_, ?_⟩
    · obtain ⟨text, written, _⟩ := back member inside
      exact Member.obstacle?_eq_none_iff.2 ⟨text, written⟩
    · intro first among second inside text spelled written
      obtain ⟨own, ownText, ownRead⟩ := back first among
      obtain ⟨other, otherText, otherRead⟩ := back second inside
      have here : first.content.text.toOption = some own := by
        rw [show first.content.text = .ok own from ownText]
        rfl
      have there : second.content.text.toOption = some other := by
        rw [show second.content.text = .ok other from otherText]
        rfl
      obtain rfl : text = own := Option.some.inj (spelled.symm.trans here)
      obtain rfl : text = other := Option.some.inj (written.symm.trans there)
      rw [ownRead] at otherRead
      exact Member.eq_of_value (Except.ok.inj (Option.some.inj otherRead))
  · intro distinct member inside
    have holds : (FieldType.enumeration choices).Holds member.value :=
      ⟨distinct, member, inside, rfl⟩
    exact FieldType.readsBack_of_holds holds

/-- Converters undo the writing of values. Texts, truth values, identifiers, integers that are not too
long and the members of an enumeration whose members are all written differently come back from
their texts, so no two of them are written alike. In any enumeration the text of a member is read as
the first member that is written so, if nothing is in the way of writing those before it. -/
theorem FieldType.undoes_routeText :
    (∀ (type : FieldType) (value : Value), type.Holds value → type.ReadsBack value) ∧
      (∀ (choices : Enumeration) (member : Member) (text : Text),
        member ∈ choices.members →
          member.value.routeText = .ok text →
            choices.ReadsFirst text) ∧
        (∀ choices : Enumeration,
          (∀ member ∈ choices.members, (FieldType.enumeration choices).ReadsBack member.value) ↔
            choices.HasDistinctTexts) ∧
          ∀ (type : FieldType) (value other : Value),
            type.Holds value →
              type.Holds other →
                value.routeText = other.routeText →
                  value = other := by
  refine ⟨fun type value => readsBack_of_holds,
    fun choices member text => Enumeration.readsFirst_of_written,
    fun choices => Enumeration.readsBack_iff, ?_⟩
  intro type value other holds otherHolds same
  obtain ⟨text, written, read⟩ := readsBack_of_holds holds
  obtain ⟨otherText, otherWritten, otherRead⟩ := readsBack_of_holds otherHolds
  obtain rfl : text = otherText :=
    Except.ok.inj (written.symm.trans (same.trans otherWritten))
  exact Except.ok.inj (Option.some.inj (read.symm.trans otherRead))

/-- An enumeration with a name more for its first member, and a second member that is written like
the first. -/
def sharedText : Enumeration where
  cls := ⟨0, "Level".toList, []⟩
  kind := .any
  entries :=
    [("LOW".toList, .scalar (.integer 1)), ("LEAST".toList, .scalar (.boolean true)),
      ("WORD".toList, .scalar (.text "1".toList)), ("HIGH".toList, .scalar (.integer 2))]

/-- The law at values of two types and at an enumeration that one of its members does not come back
in. -/
theorem FieldType.undoes_routeText_shared :
    FieldType.ReadsBack .integer (.scalar (.integer (-70))) ∧
      (∃ member ∈ sharedText.members,
        member.name = "WORD".toList ∧
          member.value.routeText = .ok "1".toList ∧
            sharedText.ReadsFirst "1".toList ∧
              ¬(FieldType.enumeration sharedText).ReadsBack member.value) ∧
        ¬sharedText.HasDistinctTexts := by
  obtain ⟨back, first, all, _⟩ := undoes_routeText
  let word : Member := ⟨sharedText.cls, .any, "WORD".toList, .scalar (.text "1".toList)⟩
  have inside : word ∈ sharedText.members := by decide +kernel
  have lost : ¬(FieldType.enumeration sharedText).ReadsBack word.value := by
    rintro ⟨text, written, read⟩
    obtain rfl : "1".toList = text := Except.ok.inj written
    have other : (FieldType.enumeration sharedText).read? "1".toList ≠ some (.ok word.value) := by
      decide +kernel
    exact other read
  exact ⟨back .integer _ (by decide +kernel),
    ⟨word, inside, rfl, rfl, first sharedText word _ inside rfl, lost⟩,
    fun distinct => lost ((all sharedText).2 distinct word inside)⟩

/-- Whether the text of each member of an enumeration is read as the first member that is written
so. -/
def Enumeration.FindsFirst (choices : Enumeration) : Prop :=
  ∀ member ∈ choices.members, ∀ text, member.value.routeText = .ok text →
    ∃ earlier first later,
      choices.members = earlier ++ first :: later ∧
        first.value.routeText = .ok text ∧
          (∀ other ∈ earlier, other.value.routeText ≠ .ok text) ∧
            (FieldType.enumeration choices).read? text = some (.ok first.value)

/-- The value of a member that cannot be written is in the way of the members behind it. -/
theorem Enumeration.not_findsFirst : ¬ ∀ choices : Enumeration, choices.FindsFirst := by
  intro finds
  let unit : Value :=
    .record ⟨0, "Unit".toList, [("__str__".toList, "str".toList)]⟩ .record
      [("__str__".toList, .scalar (.text "x".toList))] []
  let choices : Enumeration :=
    ⟨⟨1, "Scale".toList, []⟩, .any,
      [("UNIT".toList, unit), ("OTHER".toList, .scalar (.text "b".toList))]⟩
  let other : Member := ⟨choices.cls, .any, "OTHER".toList, .scalar (.text "b".toList)⟩
  have inside : other ∈ choices.members := by decide +kernel
  obtain ⟨_, first, _, _, _, _, read⟩ := finds choices other inside "b".toList rfl
  have refused :
      (FieldType.enumeration choices).read? "b".toList =
        some (.error (.obstacle (.uncallable "str".toList))) := by
    decide +kernel
  rw [refused] at read
  cases read

theorem FieldType.splitOptional_of_holds {type : FieldType} {value : Value}
    (holds : type.Holds value) :
    type.splitOptional = (type, false) := by
  unfold Holds at holds
  split at holds
  all_goals first | rfl | cases holds

end TypedRoutes
