import TypedRoutes.Proofs.Pattern.Printed

/-!
Contract: what a reader of lexemes takes, it takes whatever is behind it.

A reader looks no further than one character past what it takes. So a lexeme that has been taken
once is taken again in front of any other text that begins in the same way: a closing brace behind
the inside of a capture, and anything at all behind a whole token. Only a literal goes on into what
is behind it, and then takes the literal there as its own end.

Owns: the inside of captures apart from their closing braces, and one law for each reader.
-/

set_option autoImplicit false

namespace TypedRoutes.Pattern

open TypedRoutes.Text TypedRoutes.Number

/-! ## Literals -/

/-- A literal goes on into the text behind it. -/
theorem exists_lexeme_of_scanLiteral (input : Text) :
    ∃ lexeme, input = lexeme ++ (scanLiteral input).2 ∧
      (lexeme = [] ↔ (scanLiteral input).1 = []) ∧
        ∀ rest, scanLiteral (lexeme ++ rest) =
          ((scanLiteral input).1 ++ (scanLiteral rest).1, (scanLiteral rest).2) := by
  fun_induction scanLiteral input with
  | case1 rest literal after scanned inductionHypothesis =>
    rw [scanned] at inductionHypothesis
    obtain ⟨lexeme, whole, _, law⟩ := inductionHypothesis
    refine ⟨'{' :: '{' :: lexeme, by rw [whole]; rfl, by simp, ?_⟩
    intro other
    simp [scanLiteral, law other]
  | case2 rest literal after scanned inductionHypothesis =>
    rw [scanned] at inductionHypothesis
    obtain ⟨lexeme, whole, _, law⟩ := inductionHypothesis
    refine ⟨'}' :: '}' :: lexeme, by rw [whole]; rfl, by simp, ?_⟩
    intro other
    simp [scanLiteral, law other]
  | case3 c rest => exact ⟨[], rfl, by simp, fun _ => rfl⟩
  | case4 c rest notOpening notClosing free literal after scanned inductionHypothesis =>
    rw [scanned] at inductionHypothesis
    obtain ⟨lexeme, whole, _, law⟩ := inductionHypothesis
    refine ⟨c :: lexeme, by rw [whole]; rfl, by simp, ?_⟩
    intro other
    have opening : c ≠ '{' := by
      rintro rfl
      exact free rfl
    have closing : c ≠ '}' := by
      rintro rfl
      exact free rfl
    rw [List.cons_append, scanLiteral]
    · simp [free, law other]
    · exact fun _ same => absurd same opening
    · exact fun _ same => absurd same closing
  | case5 => exact ⟨[], rfl, by simp, fun _ => rfl⟩

theorem scanLiteral_of_startsWithCapture {input : Text} (capture : startsWithCapture input = true) :
    (scanLiteral input).1 = [] := by
  unfold startsWithCapture at capture
  split at capture
  · cases capture
  · rename_i rest notDoubled
    rw [scanLiteral]
    · rfl
    · exact fun more _ same => notDoubled more same
    · simp
  · cases capture

theorem startsWithCapture_cons {rest : Text} (single : rest.head? ≠ some '{') :
    startsWithCapture ('{' :: rest) = true := by
  unfold startsWithCapture
  split
  · rename_i same
    rw [(List.cons.inj same).2] at single
    exact absurd rfl single
  · rfl
  · rename_i notOpening
    exact absurd rfl (notOpening rest)

theorem exists_of_startsWithCapture {input : Text} (capture : startsWithCapture input = true) :
    ∃ rest, input = '{' :: rest := by
  unfold startsWithCapture at capture
  split at capture
  · cases capture
  · exact ⟨_, rfl⟩
  · cases capture

theorem startsWithCapture_of_scanCaptureBody {body : Text} {result : Capture × Text}
    (scanned : scanCaptureBody body = .ok result) :
    startsWithCapture ('{' :: body) = true := by
  apply startsWithCapture_cons
  intro opening
  obtain ⟨more, rfl⟩ := List.head?_eq_some_iff.1 opening
  exact scanCaptureBody_openingBrace more _ scanned

/-! ## The inside of a capture -/

/-- The inside of a capture up to its closing brace, and what follows. -/
def scanInside (body : Text) : Except Refusal (Capture × Text) :=
  match body with
  | [] => unexpected [.identifier, .captureClose] []
  | first :: rest =>
    if first = '*' then do
      let (name, after) ← scanColonName rest
      return ({ extent := .many, name }, after)
    else if isDigit first then do
      let (segments, afterNumber) ← scanSegments body
      let (name, after) ← scanColonName afterNumber
      return ({ extent := .exactly segments, name }, after)
    else if isNameChar first then do
      let (name, afterName) ← scanName body
      let (allowed, after) ← scanOptionalAllowed afterName
      return ({ extent := .one, name := some name, allowed }, after)
    else do
      let (allowed, after) ← scanOptionalAllowed body
      return ({ extent := .one, name := none, allowed }, after)

theorem scanCaptureBody_eq (body : Text) :
    scanCaptureBody body = do
      let (block, after) ← scanInside body
      let rest ← closeCapture after
      return (block, rest) := by
  cases body with
  | nil => rfl
  | cons first rest =>
    rw [scanCaptureBody, scanInside]
    by_cases star : first = '*'
    · rw [if_pos star, if_pos star]
      simp only [bind_assoc, pure_bind]
    · rw [if_neg star, if_neg star]
      by_cases digit : isDigit first = true
      · rw [if_pos digit, if_pos digit]
        simp only [bind_assoc, pure_bind]
      · rw [if_neg digit, if_neg digit]
        by_cases named : isNameChar first = true
        · rw [if_pos named, if_pos named]
          simp only [bind_assoc, pure_bind]
        · rw [if_neg named, if_neg named]
          simp only [bind_assoc, pure_bind]

def IsClosed (text : Text) : Prop :=
  text.head? = some '}'

theorem scanName_eq {input name rest : Text} (scanned : scanName input = .ok (name, rest)) :
    input = name ++ rest := by
  unfold scanName at scanned
  dsimp only at scanned
  split at scanned
  · cases scanned
  · cases scanned
    exact (List.takeWhile_append_dropWhile).symm

theorem scanColonName_eq {input rest : Text} {name : Option Text}
    (scanned : scanColonName input = .ok (name, rest)) :
    input = colonText name ++ rest := by
  unfold scanColonName at scanned
  split at scanned
  · obtain ⟨⟨text, after⟩, found, returned⟩ := bind_eq_ok_iff.1 scanned
    cases returned
    rw [scanName_eq found]
    rfl
  · cases scanned
    rfl

theorem scanColonName_of_isClosed {name : Option Text} {rest : Text}
    (named : ∀ text ∈ name, isIdentifier text = true) (closed : IsClosed rest) :
    scanColonName (colonText name ++ rest) = .ok (name, rest) := by
  obtain ⟨more, rfl⟩ := List.head?_eq_some_iff.1 closed
  exact scanColonName_append named more

theorem exists_lexeme_of_scanAllowed {values allowed : List Text} {current input rest : Text}
    (scanned : scanAllowed values current input = .ok (allowed, rest)) :
    ∃ lexeme, input = lexeme ++ rest ∧
      ∀ other, scanAllowed values current (lexeme ++ other) = .ok (allowed, other) := by
  induction input generalizing values current with
  | nil => cases scanned
  | cons c tail inductionHypothesis =>
    unfold scanAllowed at scanned
    split at scanned
    · rename_i closes
      cases scanned
      refine ⟨[c], rfl, ?_⟩
      intro other
      rw [List.cons_append, scanAllowed, if_pos closes]
      rfl
    · rename_i goesOn
      split at scanned
      · cases scanned
      · rename_i unbracketed
        split at scanned
        · rename_i bar
          split at scanned
          · cases scanned
          · rename_i complete
            obtain ⟨lexeme, rfl, law⟩ := inductionHypothesis scanned
            refine ⟨c :: lexeme, rfl, ?_⟩
            intro other
            rw [List.cons_append, scanAllowed, if_neg goesOn, if_neg unbracketed, if_pos bar,
              if_neg complete]
            exact law other
        · rename_i within
          obtain ⟨lexeme, rfl, law⟩ := inductionHypothesis scanned
          refine ⟨c :: lexeme, rfl, ?_⟩
          intro other
          rw [List.cons_append, scanAllowed, if_neg goesOn, if_neg unbracketed, if_neg within]
          exact law other

/-- Whether a text begins with a closing brace or with a bracket that opens a list. -/
def EndsName (text : Text) : Prop :=
  ∃ mark more, text = mark :: more ∧ mark ∈ ['(', '}']

theorem scanName_of_endsName {name rest : Text} (identifier : isIdentifier name = true)
    (ended : EndsName rest) :
    scanName (name ++ rest) = .ok (name, rest) := by
  obtain ⟨mark, more, rfl, isMark⟩ := ended
  obtain ⟨_, _, noName⟩ := foreign_of_mem isMark
  exact scanName_append identifier (by simp [noName])

theorem exists_lexeme_of_scanOptionalAllowed {input rest : Text} {allowed : Option (List Text)}
    (scanned : scanOptionalAllowed input = .ok (allowed, rest)) :
    ∃ lexeme, input = lexeme ++ rest ∧
      ∀ other, IsClosed other → EndsName (lexeme ++ other) ∧
        scanOptionalAllowed (lexeme ++ other) = .ok (allowed, other) := by
  unfold scanOptionalAllowed at scanned
  split at scanned
  · obtain ⟨⟨texts, after⟩, found, returned⟩ := bind_eq_ok_iff.1 scanned
    cases returned
    obtain ⟨lexeme, rfl, law⟩ := exists_lexeme_of_scanAllowed found
    refine ⟨'(' :: lexeme, rfl, ?_⟩
    intro other _
    refine ⟨⟨'(', _, rfl, by simp⟩, ?_⟩
    rw [List.cons_append, scanOptionalAllowed, law other]
    rfl
  · cases scanned
    refine ⟨[], rfl, ?_⟩
    intro other closed
    obtain ⟨more, rfl⟩ := List.head?_eq_some_iff.1 closed
    exact ⟨⟨'}', more, rfl, by simp⟩, rfl⟩

/-- What stands behind the number of a capture: a colon or a closing brace. -/
def EndsNumber (text : Text) : Prop :=
  ∃ mark more, text = mark :: more ∧ mark ∈ [':', '}']

theorem endsNumber_colonText {rest : Text} (name : Option Text) (closed : IsClosed rest) :
    EndsNumber (colonText name ++ rest) := by
  cases name with
  | none =>
    obtain ⟨more, rfl⟩ := List.head?_eq_some_iff.1 closed
    exact ⟨'}', more, rfl, by simp⟩
  | some text => exact ⟨':', _, rfl, by simp⟩

/-- Whether a letter or an underscore comes first, which no number can have behind it. -/
def runsOn : Text → Bool
  | [] => false
  | c :: _ => isLetter c || c = '_'

theorem scanSegments_cons (first : Char) (more : Text) :
    scanSegments (first :: more) =
      if runsOn ((first :: more).dropWhile isDigit) then
        .error (.fault (identifierFault first more))
      else
        match readInteger 10 ((first :: more).takeWhile isDigit) with
        | .error error => .error (.number error)
        | .ok 0 =>
          .error (.fault
            { reason := some .zeroSegments
              expected := [.numberedCapture]
              rest := first :: more })
        | .ok segments => .ok (segments, (first :: more).dropWhile isDigit) := by
  unfold scanSegments
  dsimp only
  split
  · rename_i same runs
    cases same
    exact (if_pos (show runsOn _ = true from runs)).symm
  · rename_i stops
    exact (if_neg fun runs : runsOn _ = true => stops first more rfl runs).symm

/-- A number is all digits at the start, and is what it is in front of any mark. -/
theorem exists_lexeme_of_scanSegments {first : Char} {more rest : Text} {segments : Int}
    (digit : isDigit first = true) (scanned : scanSegments (first :: more) = .ok (segments, rest)) :
    ∃ digits, more = digits ++ rest ∧
      ∀ other, EndsNumber other →
        scanSegments (first :: (digits ++ other)) = .ok (segments, other) := by
  have digits : ∀ c ∈ first :: more.takeWhile isDigit, isDigit c = true :=
    List.forall_mem_cons.2 ⟨digit, List.all_eq_true.1 List.all_takeWhile⟩
  rw [scanSegments_cons, List.takeWhile_cons_of_pos digit, List.dropWhile_cons_of_pos digit]
    at scanned
  split at scanned
  · cases scanned
  · split at scanned
    · cases scanned
    · cases scanned
    · rename_i number nonzero accepted
      cases scanned
      refine ⟨more.takeWhile isDigit, List.takeWhile_append_dropWhile.symm, ?_⟩
      rintro other ⟨mark, behind, rfl, isMark⟩
      have ended : isDigit mark = false ∧ runsOn (mark :: behind) = false := by
        simp only [List.mem_cons, List.not_mem_nil, or_false] at isMark
        have colon : isDigit ':' = false ∧ (isLetter ':' || decide (':' = '_')) = false := by
          decide
        have brace : isDigit '}' = false ∧ (isLetter '}' || decide ('}' = '_')) = false := by
          decide
        rcases isMark with rfl | rfl
        · exact colon
        · exact brace
      rw [scanSegments_cons, ← List.cons_append, List.takeWhile_append_of_pos digits,
        List.dropWhile_append_of_pos digits, List.takeWhile_cons_of_neg (by simp [ended.1]),
        List.dropWhile_cons_of_neg (by simp [ended.1]), List.append_nil, ended.2, accepted]
      cases segments with
      | ofNat n =>
        cases n with
        | zero => exact absurd rfl nonzero
        | succ n => rfl
      | negSucc n => rfl

theorem exists_lexeme_of_scanInside {body rest : Text} {block : Capture}
    (scanned : scanInside body = .ok (block, rest)) :
    ∃ lexeme, body = lexeme ++ rest ∧
      ∀ other, IsClosed other → scanInside (lexeme ++ other) = .ok (block, other) := by
  cases body with
  | nil => cases scanned
  | cons first more =>
    rw [scanInside] at scanned
    by_cases star : first = '*'
    · rw [if_pos star] at scanned
      obtain ⟨⟨name, after⟩, named, returned⟩ := bind_eq_ok_iff.1 scanned
      cases returned
      refine ⟨first :: colonText name, by rw [scanColonName_eq named]; rfl, ?_⟩
      intro other closed
      have again := scanColonName_of_isClosed (scanColonName_isIdentifier named) closed
      rw [List.cons_append, scanInside, if_pos star, again]
      rfl
    · rw [if_neg star] at scanned
      by_cases digit : isDigit first = true
      · rw [if_pos digit] at scanned
        obtain ⟨⟨segments, afterNumber⟩, numbered, scanned⟩ := bind_eq_ok_iff.1 scanned
        obtain ⟨⟨name, after⟩, named, returned⟩ := bind_eq_ok_iff.1 scanned
        cases returned
        obtain ⟨digits, rfl, law⟩ := exists_lexeme_of_scanSegments digit numbered
        refine ⟨first :: (digits ++ colonText name), ?_, ?_⟩
        · rw [scanColonName_eq named, List.cons_append, List.append_assoc]
        · intro other closed
          have again := scanColonName_of_isClosed (scanColonName_isIdentifier named) closed
          rw [List.cons_append, List.append_assoc, scanInside, if_neg star, if_pos digit,
            law _ (endsNumber_colonText name closed)]
          simp only [bind, Except.bind, again]
          rfl
      · rw [if_neg digit] at scanned
        by_cases inName : isNameChar first = true
        · rw [if_pos inName] at scanned
          obtain ⟨⟨name, afterName⟩, named, scanned⟩ := bind_eq_ok_iff.1 scanned
          obtain ⟨⟨allowed, after⟩, listed, returned⟩ := bind_eq_ok_iff.1 scanned
          cases returned
          have identifier := scanName_isIdentifier named
          obtain ⟨lexeme, rfl, law⟩ := exists_lexeme_of_scanOptionalAllowed listed
          have whole := scanName_eq named
          refine ⟨name ++ lexeme, by rw [whole, List.append_assoc], ?_⟩
          intro other closed
          obtain ⟨ended, again⟩ := law other closed
          have namedAgain := scanName_of_endsName identifier ended
          cases name with
          | nil => cases identifier
          | cons start others =>
            obtain ⟨rfl, _⟩ := List.cons.inj whole
            rw [List.append_assoc, List.cons_append, scanInside, if_neg star, if_neg digit,
              if_pos inName, ← List.cons_append, namedAgain]
            simp only [bind, Except.bind, again]
            rfl
        · rw [if_neg inName] at scanned
          obtain ⟨⟨allowed, after⟩, listed, returned⟩ := bind_eq_ok_iff.1 scanned
          cases returned
          obtain ⟨lexeme, whole, law⟩ := exists_lexeme_of_scanOptionalAllowed listed
          refine ⟨lexeme, whole, ?_⟩
          intro other closed
          obtain ⟨⟨mark, behind, begins, isMark⟩, again⟩ := law other closed
          obtain ⟨notStar, noDigit, noName⟩ := foreign_of_mem isMark
          rw [begins] at again ⊢
          rw [scanInside, if_neg notStar, if_neg (by simp [noDigit]), if_neg (by simp [noName]),
            again]
          rfl

/-- A capture ends in its closing brace, with anything behind it. -/
theorem exists_lexeme_of_scanCaptureBody {body rest : Text} {block : Capture}
    (scanned : scanCaptureBody body = .ok (block, rest)) :
    ∃ lexeme, body = lexeme ++ rest ∧
      ∀ other, scanCaptureBody (lexeme ++ other) = .ok (block, other) := by
  rw [scanCaptureBody_eq] at scanned
  obtain ⟨⟨found, after⟩, inside, scanned⟩ := bind_eq_ok_iff.1 scanned
  obtain ⟨behind, closed, returned⟩ := bind_eq_ok_iff.1 scanned
  cases returned
  obtain ⟨lexeme, rfl, law⟩ := exists_lexeme_of_scanInside inside
  obtain rfl : after = '}' :: rest := by
    unfold closeCapture at closed
    split at closed
    · cases closed
      rfl
    · cases closed
  refine ⟨lexeme ++ ['}'], by simp, ?_⟩
  intro other
  have again := law ('}' :: other) rfl
  rw [List.append_assoc, List.singleton_append, scanCaptureBody_eq, again]
  rfl

/-! ## Tokens -/

/-- What a token is with text behind it, and what is left of that text: a literal goes on. -/
def Token.goOn (token : Token) (rest : Text) : Token × Text :=
  match token with
  | .literal text => (.literal (text ++ (scanLiteral rest).1), (scanLiteral rest).2)
  | .pair key (.literal text) =>
    (.pair key (.literal (text ++ (scanLiteral rest).1)), (scanLiteral rest).2)
  | _ => (token, rest)

def Token.endsInLiteral : Token → Bool
  | .literal _ | .pair _ (.literal _) => true
  | _ => false

/-- A token ends where no literal goes on from it. -/
theorem Token.goOn_eq_iff {token : Token} {rest : Text} :
    token.goOn rest = (token, rest) ↔
      (token.endsInLiteral = true → (scanLiteral rest).1 = []) := by
  cases token with
  | literal text =>
    constructor
    · intro same _
      simpa [goOn] using congrArg Prod.fst same
    · intro ended
      simp [goOn, scanLiteral_eq_of_fst_eq_nil rest (ended rfl)]
  | pair key value =>
    cases value with
    | literal text =>
      constructor
      · intro same _
        simpa [goOn] using congrArg Prod.fst same
      · intro ended
        simp [goOn, scanLiteral_eq_of_fst_eq_nil rest (ended rfl)]
    | capture block => simp [goOn, endsInLiteral]
  | _ => simp [goOn, endsInLiteral]

@[simp] theorem Token.runsOn_goOn (token : Token) (rest : Text) :
    (token.goOn rest).1.runsOn = token.runsOn := by
  cases token with
  | pair key value => cases value <;> rfl
  | _ => rfl

theorem scanPair_of_scanLiteral {input key value : Text}
    (keyed : scanLiteral input = (key, '=' :: value)) (nonempty : key ≠ []) :
    scanPair input =
      if startsWithCapture value then do
        let (block, after) ← scanCaptureBody value.tail
        if block.extent = .one then return (.pair key (.capture block), after)
        else unexpected [.capture] value
      else
        if (scanLiteral value).1 = [] then unexpected [.literal, .capture] (scanLiteral value).2
        else .ok (.pair key (.literal (scanLiteral value).1), (scanLiteral value).2) := by
  unfold scanPair
  rw [keyed]
  exact if_neg nonempty

theorem exists_lexeme_of_scanPair {input rest : Text} {token : Token}
    (scanned : scanPair input = .ok (token, rest)) :
    token.runsOn = true ∧ (scanLiteral input).1 ≠ [] ∧
      ∃ c lexeme, input = c :: (lexeme ++ rest) ∧
        ∀ other, scanPair (c :: (lexeme ++ other)) = .ok (token.goOn other) := by
  obtain ⟨keyLexeme, whole, empty, keyLaw⟩ := exists_lexeme_of_scanLiteral input
  unfold scanPair at scanned
  dsimp only at scanned
  split at scanned
  · rename_i value afterKey
    split at scanned
    · cases scanned
    · rename_i keyed
      rw [afterKey] at whole
      obtain ⟨c, lexeme, rfl⟩ := List.exists_cons_of_ne_nil (mt empty.1 keyed)
      have keyedAgain (behind : Text) :
          scanLiteral (c :: (lexeme ++ '=' :: behind)) =
            ((scanLiteral input).1, '=' :: behind) := by
        have law := keyLaw ('=' :: behind)
        rwa [scanLiteral_eq_of_fst_eq_nil ('=' :: behind) rfl, List.append_nil] at law
      split at scanned
      · rename_i capture
        obtain ⟨⟨block, after⟩, found, scanned⟩ := bind_eq_ok_iff.1 scanned
        dsimp only at scanned
        split at scanned
        · rename_i single
          cases scanned
          obtain ⟨body, bodyWhole, bodyLaw⟩ := exists_lexeme_of_scanCaptureBody found
          obtain ⟨tail, rfl⟩ := exists_of_startsWithCapture capture
          have bodyWhole : tail = body ++ rest := bodyWhole
          refine ⟨rfl, keyed, c, lexeme ++ '=' :: '{' :: body, ?_, ?_⟩
          · rw [whole, bodyWhole]
            simp
          · intro other
            have begins := startsWithCapture_of_scanCaptureBody (bodyLaw other)
            have again := keyedAgain ('{' :: (body ++ other))
            rw [List.append_assoc, List.cons_append, List.cons_append,
              scanPair_of_scanLiteral again keyed, if_pos begins, List.tail_cons, bodyLaw other]
            simp only [bind, Except.bind, if_pos single]
            rfl
        · cases scanned
      · rename_i noCapture
        split at scanned
        · cases scanned
        · rename_i valued
          cases scanned
          obtain ⟨body, bodyWhole, _, bodyLaw⟩ := exists_lexeme_of_scanLiteral value
          refine ⟨rfl, keyed, c, lexeme ++ '=' :: body, ?_, ?_⟩
          · rw [List.append_assoc, List.cons_append, ← bodyWhole]
            exact whole
          · intro other
            have law := bodyLaw other
            have nonempty : (scanLiteral (body ++ other)).1 ≠ [] := by
              rw [law]
              simp [valued]
            have begins : startsWithCapture (body ++ other) = false := by
              rw [Bool.eq_false_iff]
              exact fun capture => nonempty (scanLiteral_of_startsWithCapture capture)
            have again := keyedAgain (body ++ other)
            rw [List.append_assoc, List.cons_append, scanPair_of_scanLiteral again keyed, begins,
              if_neg nonempty, law]
            rfl
  · cases scanned

/-- How a state takes a character: a mark or a slash as a token of its own, anything else as the
start of a pair where one has to come, or of a capture or a literal. -/
theorem scanToken_cons (state : State) (c : Char) :
    (∃ token : Token, token.source = [c] ∧ token.runsOn = false ∧
        (∀ rest, token.goOn rest = (token, rest)) ∧
        (∀ rest, scanToken state (c :: rest) = .ok (token, rest)) ∧
          ∀ rest, (scanLiteral (c :: rest)).1 = []) ∨
      (state.inQuery && state.awaitsPair) = true ∧
          (∀ rest, scanToken state (c :: rest) = scanPair (c :: rest)) ∨
        (state.inQuery && state.awaitsPair) = false ∧
          ∀ rest, scanToken state (c :: rest) =
            if startsWithCapture (c :: rest) then do
              let (block, after) ← scanCaptureBody rest
              return (.capture block, after)
            else
              if (scanLiteral (c :: rest)).1 = [] then
                .error (.fault { expected := state.expected false, rest := c :: rest })
              else .ok (.literal (scanLiteral (c :: rest)).1, (scanLiteral (c :: rest)).2) := by
  by_cases marked : isPartMark c = true
  · left
    have marks : c = '?' ∨ c = '&' ∨ c = '#' ∨ c = '!' := by
      simpa [isPartMark] using marked
    rcases marks with rfl | rfl | rfl | rfl
    · exact ⟨.question, rfl, rfl, fun _ => rfl, fun _ => by simp [scanToken, isPartMark],
        fun _ => rfl⟩
    · exact ⟨.ampersand, rfl, rfl, fun _ => rfl, fun _ => by simp [scanToken, isPartMark],
        fun _ => rfl⟩
    · exact ⟨.hash, rfl, rfl, fun _ => rfl, fun _ => by simp [scanToken, isPartMark],
        fun _ => rfl⟩
    · exact ⟨.stop, rfl, rfl, fun _ => rfl, fun _ => by simp [scanToken, isPartMark],
        fun _ => rfl⟩
  · have plain : isPartMark c = false := by simpa using marked
    by_cases awaited : (state.inQuery && state.awaitsPair) = true
    · right
      left
      refine ⟨awaited, ?_⟩
      intro rest
      simp [scanToken, awaited, plain]
    · have elsewhere : (state.inQuery && state.awaitsPair) = false := by simpa using awaited
      by_cases slash : c = '/'
      · left
        subst slash
        exact ⟨.slash, rfl, rfl, fun _ => rfl, fun _ => by simp [scanToken, elsewhere],
          fun _ => rfl⟩
      · right
        right
        refine ⟨elsewhere, ?_⟩
        intro rest
        simp only [isPartMark, List.contains_eq_mem, List.mem_cons, List.not_mem_nil, or_false,
          decide_eq_false_iff_not, not_or] at plain
        obtain ⟨notQuestion, notAmpersand, notHash, notStop⟩ := plain
        unfold scanToken
        simp only [elsewhere, Bool.false_and, Bool.false_eq_true, if_false, notQuestion,
          notAmpersand, notHash, notStop, slash]

/-- A token is taken again whatever is behind it. It is a literal or a pair just where a literal
begins. -/
theorem exists_lexeme_of_scanToken {state : State} {c : Char} {input rest : Text} {token : Token}
    (scanned : scanToken state (c :: input) = .ok (token, rest)) :
    (token.runsOn = false ↔ (scanLiteral (c :: input)).1 = []) ∧
      ∃ lexeme, input = lexeme ++ rest ∧
        ∀ other, scanToken state (c :: (lexeme ++ other)) = .ok (token.goOn other) := by
  rcases scanToken_cons state c with
    ⟨mark, _, plain, still, law, empty⟩ | ⟨_, law⟩ | ⟨_, law⟩
  · rw [law] at scanned
    cases scanned
    refine ⟨by simp [plain, empty], [], rfl, ?_⟩
    intro other
    rw [List.nil_append, law, still]
  · rw [law] at scanned
    obtain ⟨runs, nonempty, first, lexeme, whole, again⟩ := exists_lexeme_of_scanPair scanned
    obtain ⟨rfl, rfl⟩ := List.cons.inj whole
    refine ⟨by simp [runs, nonempty], lexeme, rfl, ?_⟩
    intro other
    rw [law, again]
  · rw [law] at scanned
    split at scanned
    · rename_i capture
      obtain ⟨⟨block, after⟩, found, returned⟩ := bind_eq_ok_iff.1 scanned
      cases returned
      obtain ⟨lexeme, rfl, again⟩ := exists_lexeme_of_scanCaptureBody found
      refine ⟨by simp [Token.runsOn, scanLiteral_of_startsWithCapture capture], lexeme, rfl, ?_⟩
      intro other
      have begins : startsWithCapture (c :: (lexeme ++ other)) = true := by
        obtain ⟨_, same⟩ := exists_of_startsWithCapture capture
        rw [(List.cons.inj same).1]
        exact startsWithCapture_of_scanCaptureBody (again other)
      rw [law, if_pos begins, again]
      rfl
    · split at scanned
      · cases scanned
      · rename_i nonempty
        cases scanned
        obtain ⟨lexeme, whole, empty, again⟩ := exists_lexeme_of_scanLiteral (c :: input)
        obtain ⟨first, others, rfl⟩ := List.exists_cons_of_ne_nil (mt empty.1 nonempty)
        obtain ⟨rfl, same⟩ := List.cons.inj whole
        refine ⟨by simp [Token.runsOn, nonempty], others, same, ?_⟩
        intro other
        have goesOn := again other
        rw [List.cons_append] at goesOn
        have longer : (scanLiteral (c :: (others ++ other))).1 ≠ [] := by
          rw [goesOn]
          simp [nonempty]
        have noCapture : startsWithCapture (c :: (others ++ other)) = false := by
          rw [Bool.eq_false_iff]
          exact fun capture => longer (scanLiteral_of_startsWithCapture capture)
        rw [law, noCapture, if_neg (by simp), if_neg longer, goesOn]
        rfl

end TypedRoutes.Pattern
