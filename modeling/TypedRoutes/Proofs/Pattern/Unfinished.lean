import TypedRoutes.Proofs.Pattern.Locality

/-!
Contract: what a reader of lexemes has taken when it refuses its text.

A reader refuses at the first character that does not fit. What it has taken by then is the
beginning of something that it accepts, so it can be finished. The beginning does not always tell
what it will be: once a capture has a count, it stays one of more segments.

Owns: one law for each reader, up to tokens.
-/

set_option autoImplicit false

namespace TypedRoutes.Pattern

open TypedRoutes.Text TypedRoutes.Number

/-! ## Names, lists and numbers -/

theorem exists_part_of_nameFault? {name rest : Text} {fault : Fault}
    (faulty : nameFault? name rest = some fault) :
    ∃ part, name ++ rest = part ++ fault.rest ∧ ∃ more, isIdentifier (part ++ more) = true := by
  have letter : isIdentifier ['a'] = true := by decide
  unfold nameFault? at faulty
  split at faulty
  · cases faulty
    exact ⟨[], rfl, ['a'], letter⟩
  · rename_i first more
    split at faulty
    · rename_i starts
      split at faulty
      · cases faulty
      · rename_i bad after remains
        cases faulty
        refine ⟨first :: more.takeWhile continuesIdentifier, ?_, [], ?_⟩
        · show first :: (more ++ rest) = first :: (_ ++ (bad :: after ++ rest))
          rw [← remains, ← List.append_assoc, List.takeWhile_append_dropWhile]
        · rw [List.append_nil, isIdentifier, starts, Bool.true_and]
          exact List.all_takeWhile
    · cases faulty
      exact ⟨[], rfl, ['a'], letter⟩

theorem exists_part_of_scanName {input : Text} {refusal : Refusal}
    (refused : scanName input = .error refusal) :
    ∃ fault part, refusal = .fault fault ∧ input = part ++ fault.rest ∧
      ∃ more, isIdentifier (part ++ more) = true := by
  unfold scanName at refused
  dsimp only at refused
  split at refused
  · rename_i fault faulty
    cases refused
    obtain ⟨part, whole, more, identifier⟩ := exists_part_of_nameFault? faulty
    rw [List.takeWhile_append_dropWhile] at whole
    exact ⟨fault, part, rfl, whole, more, identifier⟩
  · cases refused

theorem exists_part_of_scanColonName {input : Text} {refusal : Refusal}
    (refused : scanColonName input = .error refusal) :
    ∃ fault part, refusal = .fault fault ∧ input = part ++ fault.rest ∧
      ∃ more name, part ++ more = colonText name ∧ ∀ text ∈ name, isIdentifier text = true := by
  unfold scanColonName at refused
  split at refused
  · rename_i rest
    rcases bind_eq_error_iff.1 refused with named | ⟨_, _, returned⟩
    · obtain ⟨fault, part, rfl, rfl, more, identifier⟩ := exists_part_of_scanName named
      refine ⟨fault, ':' :: part, rfl, rfl, more, some (part ++ more), rfl, ?_⟩
      rintro _ ⟨⟩
      exact identifier
    · cases returned
  · cases refused

/-- A list of allowed texts ends from anywhere, behind one more text if it is not in one. -/
theorem exists_end_of_scanAllowed (values : List Text) (current : Text) :
    ∃ more allowed, ∀ other, scanAllowed values current (more ++ other) = .ok (allowed, other) := by
  by_cases empty : current = []
  · refine ⟨['a', ')'], values ++ [['a']], fun other => ?_⟩
    simp [scanAllowed, empty]
  · refine ⟨[')'], values ++ [current], fun other => ?_⟩
    simp [scanAllowed, empty]

theorem exists_part_of_scanAllowed {values : List Text} {current input : Text} {refusal : Refusal}
    (refused : scanAllowed values current input = .error refusal) :
    ∃ fault part, refusal = .fault fault ∧ input = part ++ fault.rest ∧
      ∃ more allowed, ∀ other, scanAllowed values current (part ++ (more ++ other)) =
        .ok (allowed, other) := by
  induction input generalizing values current with
  | nil =>
    cases refused
    exact ⟨_, [], rfl, rfl, exists_end_of_scanAllowed values current⟩
  | cons c rest inductionHypothesis =>
    unfold scanAllowed at refused
    split at refused
    · cases refused
    · rename_i goesOn
      split at refused
      · cases refused
        exact ⟨_, [], rfl, rfl, exists_end_of_scanAllowed values current⟩
      · rename_i unbracketed
        split at refused
        · rename_i bar
          split at refused
          · cases refused
            exact ⟨_, [], rfl, rfl, exists_end_of_scanAllowed values current⟩
          · rename_i complete
            obtain ⟨fault, part, rfl, rfl, more, allowed, law⟩ := inductionHypothesis refused
            refine ⟨fault, c :: part, rfl, rfl, more, allowed, fun other => ?_⟩
            rw [List.cons_append, scanAllowed, if_neg goesOn, if_neg unbracketed, if_pos bar,
              if_neg complete]
            exact law other
        · rename_i within
          obtain ⟨fault, part, rfl, rfl, more, allowed, law⟩ := inductionHypothesis refused
          refine ⟨fault, c :: part, rfl, rfl, more, allowed, fun other => ?_⟩
          rw [List.cons_append, scanAllowed, if_neg goesOn, if_neg unbracketed, if_neg within]
          exact law other

theorem exists_part_of_scanOptionalAllowed {input : Text} {refusal : Refusal}
    (refused : scanOptionalAllowed input = .error refusal) :
    ∃ fault part, refusal = .fault fault ∧ input = '(' :: (part ++ fault.rest) ∧
      ∃ more allowed, ∀ other, scanOptionalAllowed ('(' :: (part ++ (more ++ other))) =
        .ok (allowed, other) := by
  unfold scanOptionalAllowed at refused
  split at refused
  · rcases bind_eq_error_iff.1 refused with listed | ⟨_, _, returned⟩
    · obtain ⟨fault, part, rfl, rfl, more, allowed, law⟩ := exists_part_of_scanAllowed listed
      refine ⟨fault, part, rfl, rfl, more, some allowed, fun other => ?_⟩
      rw [scanOptionalAllowed, law other]
      rfl
    · cases returned
  · cases refused

theorem eq_of_closeCapture {input : Text} {refusal : Refusal}
    (refused : closeCapture input = .error refusal) :
    ∃ fault, refusal = .fault fault ∧ fault.rest = input := by
  unfold closeCapture at refused
  split at refused
  · cases refused
  · cases refused
    exact ⟨_, rfl, rfl⟩

theorem eq_of_scanSegments {body : Text} {fault : Fault}
    (refused : scanSegments body = .error (.fault fault)) :
    fault.rest = body := by
  unfold scanSegments at refused
  dsimp only at refused
  split at refused
  · cases refused
    rfl
  · split at refused
    · cases refused
    · cases refused
      rfl
    · cases refused

/-! ## The inside of a capture -/

/-- Whether the inside of a capture begins with a count of its segments. -/
def IsCounted (inside : Text) : Prop :=
  ∃ c ∈ inside.head?, c = '*' ∨ isDigit c = true

theorem isCounted_append {part : Text} (counted : IsCounted part) (other : Text) :
    IsCounted (part ++ other) := by
  cases part with
  | nil => simp [IsCounted] at counted
  | cons c more => exact counted

theorem startsWithCapture_of_isCounted {part : Text} (counted : IsCounted part) (other : Text) :
    startsWithCapture ('{' :: (part ++ other)) = true := by
  have uncounted : ¬ ('{' = '*' ∨ isDigit '{' = true) := by decide
  obtain ⟨c, same, counts⟩ := isCounted_append counted other
  apply startsWithCapture_cons
  rw [Option.mem_def.1 same]
  rintro ⟨⟩
  exact uncounted counts

theorem isCounted_of_append_brace {part : Text} (counted : IsCounted (part ++ ['}'])) :
    IsCounted part := by
  cases part with
  | nil =>
    obtain ⟨c, same, counts⟩ := counted
    cases same
    have uncounted : ¬ ('}' = '*' ∨ isDigit '}' = true) := by decide
    exact absurd counts uncounted
  | cons c more => exact counted

/-- Captures of one segment are those without a count. -/
theorem scanInside_extent {body rest : Text} {block : Capture}
    (scanned : scanInside body = .ok (block, rest)) :
    block.extent = .one ↔ ¬ IsCounted body := by
  cases body with
  | nil => cases scanned
  | cons first more =>
    have counted : IsCounted (first :: more) ↔ first = '*' ∨ isDigit first = true := by
      simp [IsCounted]
    rw [counted]
    rw [scanInside] at scanned
    by_cases star : first = '*'
    · rw [if_pos star] at scanned
      obtain ⟨_, _, returned⟩ := bind_eq_ok_iff.1 scanned
      cases returned
      simp [star]
    · rw [if_neg star] at scanned
      by_cases digit : isDigit first = true
      · rw [if_pos digit] at scanned
        obtain ⟨_, _, scanned⟩ := bind_eq_ok_iff.1 scanned
        obtain ⟨_, _, returned⟩ := bind_eq_ok_iff.1 scanned
        cases returned
        simp [digit]
      · rw [if_neg digit] at scanned
        have one : block.extent = .one := by
          by_cases inName : isNameChar first = true
          · rw [if_pos inName] at scanned
            obtain ⟨_, _, scanned⟩ := bind_eq_ok_iff.1 scanned
            obtain ⟨_, _, returned⟩ := bind_eq_ok_iff.1 scanned
            cases returned
            rfl
          · rw [if_neg inName] at scanned
            obtain ⟨_, _, returned⟩ := bind_eq_ok_iff.1 scanned
            cases returned
            rfl
        simp [one, star, digit]

/-- Whether the inside of a capture can be finished as far as it has been taken before a fault. -/
def IsFinishable (body : Text) (fault : Fault) : Prop :=
  ∃ part, body = part ++ fault.rest ∧
    ∃ more block, (block.extent = .one ∨ IsCounted part) ∧
      scanInside (part ++ (more ++ ['}'])) = .ok (block, ['}'])

/-- Where nothing has been taken, a letter finishes the inside of a capture. -/
theorem isFinishable_start {body : Text} {fault : Fault} (unread : fault.rest = body) :
    IsFinishable body fault := by
  have letter : scanInside ['a', '}'] =
      .ok ({ extent := .one, name := some ['a'], allowed := none }, ['}']) := by
    decide
  exact ⟨[], unread.symm, ['a'], _, .inl rfl, letter⟩

section

variable
  {first : Char}
  {rest : Text}
  {fault : Fault}

theorem isFinishable_star (refused : scanColonName rest = .error (.fault fault)) :
    IsFinishable ('*' :: rest) fault := by
  obtain ⟨_, part, same, whole, more, name, written, identifier⟩ :=
    exists_part_of_scanColonName refused
  cases same
  refine ⟨'*' :: part, by rw [whole]; rfl, more, { extent := .many, name },
    .inr ⟨'*', rfl, .inl rfl⟩, ?_⟩
  have again := scanColonName_of_isClosed identifier (rfl : IsClosed ['}'])
  rw [List.cons_append, scanInside, if_pos rfl, ← List.append_assoc, written, again]
  rfl

theorem isFinishable_number {segments : Int} {after : Text} (star : first ≠ '*')
    (digit : isDigit first = true) (numbered : scanSegments (first :: rest) = .ok (segments, after))
    (refused : scanColonName after = .error (.fault fault)) :
    IsFinishable (first :: rest) fault := by
  obtain ⟨_, part, same, whole, more, name, written, identifier⟩ :=
    exists_part_of_scanColonName refused
  cases same
  obtain ⟨digits, rfl, law⟩ := exists_lexeme_of_scanSegments digit numbered
  refine ⟨first :: (digits ++ part), by rw [whole]; simp, more,
    { extent := .exactly segments, name }, .inr ⟨first, rfl, .inr digit⟩, ?_⟩
  have closed : IsClosed ['}'] := rfl
  have again := scanColonName_of_isClosed identifier closed
  rw [List.cons_append, List.append_assoc, ← List.append_assoc part, written, scanInside,
    if_neg star, if_pos digit, law _ (endsNumber_colonText name closed)]
  simp only [bind, Except.bind, again]
  rfl

theorem isFinishable_name (star : first ≠ '*') (uncounted : ¬ isDigit first = true)
    (inName : isNameChar first = true)
    (refused : scanName (first :: rest) = .error (.fault fault)) :
    IsFinishable (first :: rest) fault := by
  obtain ⟨_, part, same, whole, more, identifier⟩ := exists_part_of_scanName refused
  cases same
  cases part with
  | nil => exact isFinishable_start whole.symm
  | cons start others =>
    obtain ⟨rfl, _⟩ := List.cons.inj whole
    refine ⟨first :: others, whole, more,
      { extent := .one, name := some (first :: others ++ more) }, .inl rfl, ?_⟩
    have again := scanName_of_endsName identifier ⟨'}', [], rfl, by simp⟩
    rw [List.append_assoc] at again
    rw [List.cons_append, scanInside, if_neg star, if_neg uncounted, if_pos inName,
      ← List.cons_append, again]
    rfl

theorem isFinishable_namedList {name after : Text} (star : first ≠ '*')
    (uncounted : ¬ isDigit first = true) (inName : isNameChar first = true)
    (named : scanName (first :: rest) = .ok (name, after))
    (refused : scanOptionalAllowed after = .error (.fault fault)) :
    IsFinishable (first :: rest) fault := by
  obtain ⟨_, part, same, rfl, more, allowed, law⟩ := exists_part_of_scanOptionalAllowed refused
  cases same
  have identifier := scanName_isIdentifier named
  have whole := scanName_eq named
  cases name with
  | nil => cases identifier
  | cons start others =>
    obtain ⟨rfl, _⟩ := List.cons.inj whole
    refine ⟨first :: others ++ '(' :: part, by rw [whole]; simp, more,
      { extent := .one, name := some (first :: others), allowed }, .inl rfl, ?_⟩
    have again := scanName_of_endsName identifier ⟨'(', part ++ (more ++ ['}']), rfl, by simp⟩
    rw [List.append_assoc, List.cons_append, List.cons_append, scanInside, if_neg star,
      if_neg uncounted, if_pos inName, ← List.cons_append, again]
    simp only [bind, Except.bind, law ['}']]
    rfl

theorem isFinishable_list (star : first ≠ '*') (uncounted : ¬ isDigit first = true)
    (unnamed : ¬ isNameChar first = true)
    (refused : scanOptionalAllowed (first :: rest) = .error (.fault fault)) :
    IsFinishable (first :: rest) fault := by
  obtain ⟨_, part, same, whole, more, allowed, law⟩ := exists_part_of_scanOptionalAllowed refused
  cases same
  obtain ⟨rfl, rfl⟩ := List.cons.inj whole
  refine ⟨'(' :: part, rfl, more, { extent := .one, name := none, allowed }, .inl rfl, ?_⟩
  rw [List.cons_append, scanInside, if_neg star, if_neg uncounted, if_neg unnamed, law ['}']]
  rfl

end

/-- The inside of a capture that is refused can be finished as far as it has been taken. -/
theorem isFinishable_of_scanInside {body : Text} {fault : Fault}
    (refused : scanInside body = .error (.fault fault)) :
    IsFinishable body fault := by
  cases body with
  | nil =>
    cases refused
    exact isFinishable_start rfl
  | cons first rest =>
    rw [scanInside] at refused
    by_cases star : first = '*'
    · rw [if_pos star] at refused
      rcases bind_eq_error_iff.1 refused with named | ⟨_, _, returned⟩
      · rw [star]
        exact isFinishable_star named
      · cases returned
    · rw [if_neg star] at refused
      by_cases digit : isDigit first = true
      · rw [if_pos digit] at refused
        rcases bind_eq_error_iff.1 refused with numbered | ⟨_, numbered, refused⟩
        · exact isFinishable_start (eq_of_scanSegments numbered)
        · rcases bind_eq_error_iff.1 refused with named | ⟨_, _, returned⟩
          · exact isFinishable_number star digit numbered named
          · cases returned
      · rw [if_neg digit] at refused
        by_cases inName : isNameChar first = true
        · rw [if_pos inName] at refused
          rcases bind_eq_error_iff.1 refused with named | ⟨_, named, refused⟩
          · exact isFinishable_name star digit inName named
          · rcases bind_eq_error_iff.1 refused with listed | ⟨_, _, returned⟩
            · exact isFinishable_namedList star digit inName named listed
            · cases returned
        · rw [if_neg inName] at refused
          rcases bind_eq_error_iff.1 refused with listed | ⟨_, _, returned⟩
          · exact isFinishable_list star digit inName listed
          · cases returned

theorem exists_part_of_scanCaptureBody {body : Text} {fault : Fault}
    (refused : scanCaptureBody body = .error (.fault fault)) :
    ∃ part, body = part ++ fault.rest ∧
      ∃ more block, (block.extent = .one ∨ IsCounted part) ∧
        scanCaptureBody (part ++ more) = .ok (block, []) := by
  rw [scanCaptureBody_eq] at refused
  rcases bind_eq_error_iff.1 refused with inside | ⟨⟨block, after⟩, inside, refused⟩
  · obtain ⟨part, whole, more, block, extent, again⟩ := isFinishable_of_scanInside inside
    refine ⟨part, whole, more ++ ['}'], block, extent, ?_⟩
    rw [scanCaptureBody_eq, again]
    rfl
  · rcases bind_eq_error_iff.1 refused with unclosed | ⟨_, _, returned⟩
    · obtain ⟨_, same, unread⟩ := eq_of_closeCapture unclosed
      cases same
      obtain ⟨lexeme, rfl, law⟩ := exists_lexeme_of_scanInside inside
      have again := law ['}'] rfl
      refine ⟨lexeme, by rw [unread], ['}'], block, ?_, ?_⟩
      · by_cases counted : IsCounted (lexeme ++ ['}'])
        · exact .inr (isCounted_of_append_brace counted)
        · exact .inl ((scanInside_extent again).2 counted)
      · rw [scanCaptureBody_eq, again]
        rfl
    · cases returned

theorem scanCaptureBody_extent {body rest : Text} {block : Capture}
    (scanned : scanCaptureBody body = .ok (block, rest)) :
    block.extent = .one ↔ ¬ IsCounted body := by
  rw [scanCaptureBody_eq] at scanned
  obtain ⟨⟨found, after⟩, inside, scanned⟩ := bind_eq_ok_iff.1 scanned
  obtain ⟨_, _, returned⟩ := bind_eq_ok_iff.1 scanned
  cases returned
  exact scanInside_extent inside

/-! ## Query pairs -/

/-- Texts that are the key of a query pair. -/
def IsKey (text : Text) : Prop :=
  (scanLiteral text).1 ≠ [] ∧ (scanLiteral text).2 = []

theorem IsKey.exists_cons {text : Text} (isKey : IsKey text) : ∃ c more, text = c :: more := by
  apply List.exists_cons_of_ne_nil
  rintro rfl
  exact isKey.1 rfl

theorem IsKey.scanLiteral_append {text rest : Text} (isKey : IsKey text)
    (ended : (scanLiteral rest).1 = []) :
    scanLiteral (text ++ rest) = ((scanLiteral text).1, rest) := by
  obtain ⟨lexeme, whole, _, law⟩ := exists_lexeme_of_scanLiteral text
  rw [isKey.2, List.append_nil] at whole
  rw [← whole] at law
  rw [law rest, scanLiteral_eq_of_fst_eq_nil rest ended, List.append_nil]

theorem exists_key_of_scanLiteral {input : Text} (nonempty : (scanLiteral input).1 ≠ []) :
    ∃ text, IsKey text ∧ input = text ++ (scanLiteral input).2 := by
  obtain ⟨lexeme, whole, _, law⟩ := exists_lexeme_of_scanLiteral input
  have itself := law []
  rw [List.append_nil] at itself
  refine ⟨lexeme, ⟨?_, ?_⟩, whole⟩
  · rw [itself]
    simp [nonempty]
  · rw [itself]
    rfl

theorem IsKey.scanPair_letter {text : Text} (isKey : IsKey text) :
    scanPair (text ++ ['=', 'a']) = .ok (.pair (scanLiteral text).1 (.literal ['a']), []) := by
  have keyed : scanLiteral (text ++ ['=', 'a']) = ((scanLiteral text).1, ['=', 'a']) :=
    isKey.scanLiteral_append rfl
  rw [scanPair_of_scanLiteral keyed isKey.1]
  rfl

/-- A query pair that is refused can be finished, unless its value has begun as a capture with a
count. -/
theorem exists_part_of_scanPair {input : Text} {fault : Fault}
    (refused : scanPair input = .error (.fault fault)) :
    fault.rest = input ∨
      ∃ part, input = part ++ fault.rest ∧
        ((∃ more key value, scanPair (part ++ more) = .ok (.pair key value, [])) ∨
          ∃ key counted, IsKey key ∧ IsCounted counted ∧ part = key ++ '=' :: '{' :: counted) := by
  by_cases empty : (scanLiteral input).1 = []
  · left
    rw [scanPair, scanLiteral_eq_of_fst_eq_nil input empty] at refused
    dsimp only at refused
    split at refused
    · rw [if_pos rfl] at refused
      cases refused
      rfl
    · cases refused
      rfl
  · right
    obtain ⟨key, isKey, whole⟩ := exists_key_of_scanLiteral empty
    have valued :
        ∃ more found value, scanPair (key ++ ['='] ++ more) = .ok (.pair found value, []) := by
      refine ⟨['a'], (scanLiteral key).1, .literal ['a'], ?_⟩
      rw [List.append_assoc]
      exact isKey.scanPair_letter
    unfold scanPair at refused
    dsimp only at refused
    split at refused
    · rename_i value afterKey
      rw [if_neg empty] at refused
      rw [afterKey] at whole
      split at refused
      · rename_i capture
        obtain ⟨body, rfl⟩ := exists_of_startsWithCapture capture
        rw [List.tail_cons] at refused
        rcases bind_eq_error_iff.1 refused with within | ⟨⟨block, _⟩, _, refused⟩
        · obtain ⟨part, rfl, more, block, extent, again⟩ := exists_part_of_scanCaptureBody within
          refine ⟨key ++ '=' :: '{' :: part, by rw [whole]; simp, ?_⟩
          rcases extent with single | counted
          · left
            refine ⟨more, (scanLiteral key).1, .capture block, ?_⟩
            have keyed : scanLiteral (key ++ '=' :: '{' :: (part ++ more)) =
                ((scanLiteral key).1, '=' :: '{' :: (part ++ more)) :=
              isKey.scanLiteral_append rfl
            have begins := startsWithCapture_of_scanCaptureBody again
            rw [List.append_assoc, List.cons_append, List.cons_append,
              scanPair_of_scanLiteral keyed isKey.1, if_pos begins, List.tail_cons, again]
            simp only [bind, Except.bind, if_pos single]
            rfl
          · exact .inr ⟨key, part, isKey, counted, rfl⟩
        · dsimp only at refused
          split at refused
          · cases refused
          · cases refused
            exact ⟨key ++ ['='], by rw [whole]; simp, .inl valued⟩
      · split at refused
        · rename_i bare
          cases refused
          rw [scanLiteral_eq_of_fst_eq_nil value bare]
          exact ⟨key ++ ['='], by rw [whole]; simp, .inl valued⟩
        · cases refused
    · cases refused
      exact ⟨key, whole, .inl ⟨['=', 'a'], _, _, isKey.scanPair_letter⟩⟩

/-! ## Tokens -/

/-- A token that is refused can be finished, unless it is a pair whose value has begun as a capture
with a count. -/
theorem exists_part_of_scanToken {state : State} {c : Char} {input : Text} {fault : Fault}
    (refused : scanToken state (c :: input) = .error (.fault fault)) :
    fault.rest = c :: input ∨
      ∃ part, input = part ++ fault.rest ∧
        ((state.inQuery && state.awaitsPair) = true ∧
            ((∃ more key value,
                scanToken state (c :: (part ++ more)) = .ok (.pair key value, [])) ∨
              ∃ key counted, IsKey key ∧ IsCounted counted ∧
                c :: part = key ++ '=' :: '{' :: counted) ∨
          (state.inQuery && state.awaitsPair) = false ∧ c = '{' ∧
            ∃ more block, scanToken state (c :: (part ++ more)) = .ok (.capture block, [])) := by
  rcases scanToken_cons state c with
    ⟨_, _, _, _, law, _⟩ | ⟨awaits, law⟩ | ⟨elsewhere, law⟩
  · rw [law] at refused
    cases refused
  · rw [law] at refused
    rcases exists_part_of_scanPair refused with unread | ⟨part, whole, finished⟩
    · exact .inl unread
    · cases part with
      | nil => exact .inl whole.symm
      | cons first part =>
        obtain ⟨rfl, remains⟩ := List.cons.inj whole
        refine .inr ⟨part, remains, .inl ⟨awaits, ?_⟩⟩
        rcases finished with ⟨more, key, value, again⟩ | counted
        · exact .inl ⟨more, key, value, by rw [law]; exact again⟩
        · exact .inr counted
  · rw [law] at refused
    split at refused
    · rename_i capture
      obtain ⟨rest, same⟩ := exists_of_startsWithCapture capture
      obtain ⟨rfl, rfl⟩ := List.cons.inj same
      rcases bind_eq_error_iff.1 refused with within | ⟨_, _, returned⟩
      · obtain ⟨part, whole, more, block, _, again⟩ := exists_part_of_scanCaptureBody within
        refine .inr ⟨part, whole, .inr ⟨elsewhere, rfl, more, block, ?_⟩⟩
        rw [law, if_pos (startsWithCapture_of_scanCaptureBody again), again]
        rfl
      · cases returned
    · split at refused
      · cases refused
        exact .inl rfl
      · cases refused

end TypedRoutes.Pattern
