import TypedRoutes.Proofs.Declaration.Variants
import TypedRoutes.Proofs.Matching.Cutting
import TypedRoutes.Proofs.Matching.Stopping
import TypedRoutes.Proofs.Program.Tolerance
import TypedRoutes.Proofs.Table.Mirroring
import TypedRoutes.Proofs.Value.Conversion

/-!
Contract: when a route that has been written is matched.

The writer puts any text in the place of a capture and leaves out any group that lacks a value. The
engine takes nothing back, so it has to make out both from the text alone: each capture must take
just what was written for it, and no group that was left out may take anything of what is behind it.
These are conditions on single places of the route. Where all of them hold, the route is matched.

Owns: the places of a written route, what has to hold there, and that the engine follows the writer.
Does not own: which values are resolved back to themselves.
-/

set_option autoImplicit false

namespace TypedRoutes.Table

open TypedRoutes.Text TypedRoutes.Pattern TypedRoutes.Program TypedRoutes.Matching

/-! ## Places -/

/-- A place of a written route that the engine has to make out. -/
inductive Place where
  /-- The text written for a capture, with the places where the capture may stop and the text that
  is behind it. -/
  | capture (block : Capture) (stops : Stops) (text behind : Text)
  /-- A group that is left out, with the text that is behind it. -/
  | leftOut (inner : Pattern) (behind : Text)
deriving DecidableEq, Repr

/-- Whether a capture that comes to the last of its segments ends behind it: at the leftmost of its
stops; or, if it is open, before a character that it cannot hold, where no stop cuts it short. -/
def EndsBefore (fold many : Bool) (stops : Stops) (last behind : Text) : Prop :=
  let leftmost := firstStop? fold stops.texts (last ++ behind)
  last ≠ [] ∧ leftmost = some last.length ∨
    stops.isOpen = true ∧ (∀ c ∈ behind.head?, isCaptureChar many c = false) ∧
      (last = [] → many = true ∧ behind = []) ∧
        ∀ place ∈ leftmost, place = 0 ∨ last.length ≤ place

instance (fold many : Bool) (stops : Stops) (last behind : Text) :
    Decidable (EndsBefore fold many stops last behind) :=
  -- What is said of the first character behind must not be decided by trying all characters.
  have : Decidable (∀ c ∈ behind.head?, isCaptureChar many c = false) :=
    decidable_of_iff (behind.head?.all (!isCaptureChar many ·) = true)
      (by simp [Option.all_eq_true])
  inferInstanceAs (Decidable (_ ∨ _))

/-- Whether a pattern, tried at the start of a text, takes nothing of it. -/
def TakesNothing (fold : Bool) (pattern : Pattern) (text : Text) : Prop :=
  ∀ entries next,
    run fold (Program.ofPattern false pattern) { rest := text } = some (entries, next) →
      next = { rest := text }

/-- What has to hold at a place for the engine to follow the writer there. -/
def Place.IsFollowed (fold : Bool) : Place → Prop
  | .capture block stops text behind =>
    IsLegal block text ∧ isAllowed fold block.allowed text = true ∧
      EndsBefore fold block.isMany stops (lastSegment block text) behind
  | .leftOut inner behind => TakesNothing fold inner behind

namespace Filling

/-- What is written of a pattern, with some text behind it. -/
def behind (filling : Filling) (pattern : Pattern) (used : Nat) (text : Text) : Text :=
  match filling.write pattern used with
  | .ok (written, _) => written ++ text
  | .error _ => text

/-- What is written of a group, unless it is left out. -/
def writeGroup? (filling : Filling) (inner : Pattern) (used : Nat) : Option (Text × Nat) :=
  if inner.any (·.capture?.isSome) then (filling.write inner used).toOption else none

/-- The places of what is written of a pattern, with some text behind it. Whether a slash is
tolerated, and whether a mark has gone by, are for the stops of the program to be matched with. -/
def places (filling : Filling) (slash marked : Bool) : Pattern → Nat → Text → List Place
  | .nil, _, _ => []
  | .item token rest, used, text =>
    match token.capture? with
    | none => filling.places slash (isMarkedBy marked token) rest used text
    | some block =>
      match filling.writeCapture block used with
      | .error _ => []
      | .ok (written, after) =>
        .capture block (stops (assemble slash marked none rest)) written
            (filling.behind rest after text) ::
          filling.places slash marked rest after text
  | .group inner rest, used, text =>
    match filling.writeGroup? inner used with
    | none => .leftOut inner (filling.behind rest used text) ::
        filling.places slash marked rest used text
    | some (_, after) =>
      filling.places false false inner used (filling.behind rest after text) ++
        filling.places slash marked rest after text

end Filling

/-! ## Captures -/

theorem segmentLength?_of_endsBefore {fold many : Bool} {stops : Stops} {last behind : Text}
    (inside : ∀ c ∈ last, isCaptureChar many c = true)
    (ends : EndsBefore fold many stops last behind) :
    segmentLength? fold many stops { rest := last ++ behind } = some last.length := by
  have bounded : last.length ≤ runLength many (last ++ behind) := by
    rw [runLength, List.takeWhile_append_of_pos inside, List.length_append]
    omega
  unfold segmentLength?
  dsimp only
  rcases ends with ⟨nonempty, atStop⟩ | ⟨isOpen, boundary, empty, uncut⟩
  · have positive := List.length_pos_iff.2 nonempty
    rw [atStop]
    exact if_pos ⟨positive, bounded⟩
  · have longest : runLength many (last ++ behind) = last.length := by
      rw [runLength, takeWhile_append_eq inside boundary]
    have atEnd :
        (decide (last.length = 0) &&
          !(many && Cursor.atEnd { rest := last ++ behind })) = false := by
      by_cases nothing : last = []
      · obtain ⟨rfl, rfl⟩ := empty nothing
        subst nothing
        rfl
      · simp [nothing]
    rw [longest, isOpen, atEnd]
    cases leftmost : firstStop? fold stops.texts (last ++ behind) with
    | none => rfl
    | some place =>
      rcases uncut place leftmost with rfl | late
      · rfl
      · dsimp only
        split
        · rename_i within
          rw [Nat.le_antisymm within.2 late]
        · rfl

/-- A capture takes the text that was written for it, if the engine can follow. -/
theorem capture?_of_isFollowed {fold : Bool} {block : Capture} {stops : Stops} {text behind : Text}
    (sound : block.IsSound) (followed : (Place.capture block stops text behind).IsFollowed fold) :
    capture? fold block stops { rest := text ++ behind } = some (text, { rest := behind }) := by
  obtain ⟨legal, allowed, ends⟩ := followed
  obtain ⟨leading, last, joined, count, solid, inside, single, _⟩ :=
    exists_segments_of_isLegal sound legal
  have whole : text = leading.flatMap (· ++ ['/']) ++ last := by
    rw [joined, join_append_singleton]
  have starts : leading.flatMap (· ++ ['/']) = [] ∨
      block.isMany = false ∧ ∃ start, leading.flatMap (· ++ ['/']) = start ++ ['/'] := by
    rcases List.eq_nil_or_concat leading with rfl | ⟨others, segment, rfl⟩
    · exact .inl rfl
    · refine .inr ⟨?_, others.flatMap (· ++ ['/']) ++ segment, by simp⟩
      rw [Bool.eq_false_iff]
      intro many
      simpa using single many
  rw [whole, lastSegment_eq starts inside] at ends
  have split : text ++ behind = leading.flatMap (· ++ ['/']) ++ (last ++ behind) := by
    rw [whole, List.append_assoc]
  unfold capture?
  rw [split, ← count, leadingSegments?_eq_some solid]
  dsimp only
  rw [segmentLength?_of_endsBefore inside ends]
  dsimp only
  rw [List.take_left, List.drop_left, ← joined, if_pos allowed]

/-! ## Runs -/

namespace Filling

variable {filling : Filling} {used last : Nat} {written : Text}

theorem eq_nil_of_write {pattern : Pattern} (empty : pattern.flatten = [])
    (wrote : filling.write pattern used = .ok (written, last)) :
    written = [] := by
  induction pattern with
  | nil =>
    cases wrote
    rfl
  | item token rest => cases empty
  | group inner rest _ inductionHypothesis =>
    obtain ⟨nothing, restEmpty⟩ := List.append_eq_nil_iff.1 empty
    have bare : inner.any (·.capture?.isSome) = false := by simp [Grouped.any, nothing]
    rw [write, if_neg (by simp [bare])] at wrote
    exact inductionHypothesis restEmpty wrote

/-- Where a path may end, the route does not go on with a slash. -/
theorem skip?_slash_of_write {pattern : Pattern} (ends : endsPath pattern = true)
    (wrote : filling.write pattern used = .ok (written, last)) (fold : Bool) :
    Cursor.skip? fold ['/'] { rest := written } = none := by
  cases pattern with
  | nil =>
    cases wrote
    cases fold <;> decide
  | group => cases ends
  | item token rest =>
    obtain ⟨text, next, more, first, _, rfl⟩ := write_item_eq_ok_iff.1 wrote
    cases token with
    | question =>
      cases first
      exact skip?_slash_of_mark (.inl rfl) fold more
    | hash =>
      cases first
      exact skip?_slash_of_mark (.inr rfl) fold more
    | _ => cases ends

theorem behind_eq {pattern : Pattern} (wrote : filling.write pattern used = .ok (written, last))
    (text : Text) :
    filling.behind pattern used text = written ++ text := by
  unfold behind
  rw [wrote]

/-- A group is written in front of what follows it, or it is left out. -/
theorem exists_of_write_group {inner rest : Pattern}
    (wrote : filling.write (.group inner rest) used = .ok (written, last)) :
    (∃ text next more, filling.writeGroup? inner used = some (text, next) ∧
        filling.write inner used = .ok (text, next) ∧
          filling.write rest next = .ok (more, last) ∧ written = text ++ more) ∨
      filling.writeGroup? inner used = none ∧ filling.write rest used = .ok (written, last) := by
  unfold writeGroup?
  rw [write] at wrote
  split at wrote
  · rename_i captures
    rw [if_pos captures]
    cases within : filling.write inner used with
    | ok found =>
      obtain ⟨text, next⟩ := found
      rw [within] at wrote
      obtain ⟨⟨more, _⟩, further, same⟩ := map_eq_ok_iff.1 wrote
      cases same
      exact .inl ⟨text, next, more, rfl, rfl, further, rfl⟩
    | error halt =>
      rw [within] at wrote
      cases halt with
      | absent => exact .inr ⟨rfl, wrote⟩
      | error error => cases wrote
  · rename_i bare
    rw [if_neg bare]
    exact .inr ⟨rfl, wrote⟩

/-- Whether the program of a pattern takes a text and comes to what is behind it, whatever fixed
text has been begun before it. -/
def IsTaken (fold slash marked : Bool) (pattern : Pattern) (written text : Text) : Prop :=
  ∀ begun : Option Text, ∃ entries,
    run fold (assemble slash marked begun pattern)
        { rest := begun.getD [] ++ (written ++ text) } =
      some (entries, { rest := text })

section

variable
  {fold slash marked : Bool}
  {rest : Pattern}
  {text more : Text}

/-- A tolerated slash is passed over. -/
theorem isTaken_fixed {token : Token} {fixed : Text} (sound : token.IsSound)
    (is : tokenPiece token = .fixed fixed) (tolerant : slash = true → text = [])
    (wrote : filling.write rest used = .ok (more, last))
    (taken : IsTaken fold slash (isMarkedBy marked token) rest more text) :
    IsTaken fold slash marked (.item token rest) (fixed ++ more) text := by
  intro begun
  have goesOn (left : Text) :
      begun.getD [] ++ (fixed ++ more ++ left) =
        (extend begun fixed).getD [] ++ (more ++ left) := by
    simp [extend]
  rw [assemble_of_fixed sound is, goesOn]
  split
  · rename_i slashed
    obtain ⟨rfl, ends⟩ := Bool.and_eq_true_iff.1 slashed
    obtain rfl := tolerant rfl
    rw [isMarkedBy_of_isTolerant ends] at taken
    have missed := skip?_slash_of_write (Bool.and_eq_true_iff.1 ends).2 wrote fold
    obtain ⟨entries, ran⟩ := taken none
    refine ⟨entries, ?_⟩
    rw [run_flush, ← ran, List.append_nil]
    simp [optionalSlash, run, missed]
  · exact taken _

theorem isTaken_capture {token : Token} {ahead own : Text} {block : Capture} (sound : token.IsSound)
    (is : tokenPiece token = .capture ahead block)
    (followed :
      (Place.capture block (stops (assemble slash marked none rest)) own
        (more ++ text)).IsFollowed fold)
    (taken : IsTaken fold slash marked rest more text) :
    IsTaken fold slash marked (.item token rest) (ahead ++ own ++ more) text := by
  intro begun
  obtain ⟨entries, ran⟩ := taken none
  have captured := capture?_of_isFollowed (isSound_of_tokenPiece sound is) followed
  obtain ⟨begunAhead, ⟨goesOn, _⟩, same⟩ := exists_assemble_of_capture is slash marked begun rest
  refine ⟨⟨block.name, own⟩ :: entries, ?_⟩
  rw [same, List.append_assoc, List.append_assoc, ← List.append_assoc, ← goesOn, run_flush, run,
    captured]
  exact congrArg (Option.map _) ran

theorem isTaken_stop (taken : IsTaken fold slash marked rest [] []) :
    IsTaken fold slash marked (.item .stop rest) [] [] := by
  intro begun
  obtain ⟨entries, ran⟩ := taken none
  refine ⟨entries, ?_⟩
  rw [assemble, run_flush, run]
  exact ran

/-- The slash that is tolerated behind a group at the end is passed over. -/
theorem exists_run_behind_group (tolerant : slash = true → text = [])
    (wrote : filling.write rest used = .ok (more, last))
    (taken : IsTaken fold slash marked rest more text) :
    ∃ entries,
      run fold
          (if slash && rest.isEmpty then optionalSlash (assemble slash marked none rest)
            else assemble slash marked none rest)
          { rest := more ++ text } =
        some (entries, { rest := text }) := by
  obtain ⟨entries, ran⟩ := taken none
  refine ⟨entries, ?_⟩
  split
  · rename_i ends
    obtain ⟨slashed, empty⟩ := Bool.and_eq_true_iff.1 ends
    obtain rfl := tolerant slashed
    have last : endsPath rest = true := by
      cases rest with
      | nil => rfl
      | item => cases empty
      | group => cases empty
    have missed := skip?_slash_of_write last wrote fold
    change run fold _ { rest := more ++ [] } = _ at ran
    rw [List.append_nil] at ran ⊢
    simp [optionalSlash, run, missed, ran]
  · exact ran

theorem isTaken_group {inner : Pattern} {first : Text}
    (inside : IsTaken fold false false inner first (more ++ text))
    (tolerant : slash = true → text = []) (wrote : filling.write rest used = .ok (more, last))
    (taken : IsTaken fold slash marked rest more text) :
    IsTaken fold slash marked (.group inner rest) (first ++ more) text := by
  intro begun
  obtain ⟨innerEntries, innerRan⟩ := inside none
  obtain ⟨entries, passed⟩ := exists_run_behind_group tolerant wrote taken
  have innerRan : run fold (assemble false false none inner) { rest := first ++ more ++ text } =
      some (innerEntries, { rest := more ++ text }) := by
    rw [List.append_assoc]
    exact innerRan
  refine ⟨innerEntries ++ entries, ?_⟩
  rw [assemble, run_flush, run, innerRan]
  dsimp only
  rw [passed]
  rfl

theorem isTaken_leftOut {inner : Pattern} (nothing : TakesNothing fold inner (more ++ text))
    (tolerant : slash = true → text = []) (wrote : filling.write rest used = .ok (more, last))
    (taken : IsTaken fold slash marked rest more text) :
    IsTaken fold slash marked (.group inner rest) more text := by
  intro begun
  obtain ⟨entries, passed⟩ := exists_run_behind_group tolerant wrote taken
  rw [assemble, run_flush, run]
  cases tried : run fold (assemble false false none inner) { rest := more ++ text } with
  | none => exact ⟨entries, passed⟩
  | some found =>
    obtain ⟨innerEntries, next⟩ := found
    obtain rfl := nothing innerEntries next tried
    refine ⟨innerEntries ++ entries, ?_⟩
    dsimp only
    rw [passed]
    rfl

end

/-- The engine takes what has been written of a pattern, if it can follow at each place. -/
theorem isTaken_of_places {fold slash marked : Bool} {pattern : Pattern} {text : Text}
    (sound : ∀ token ∈ pattern.flatten, token.IsSound)
    (ordered : pattern.flatten.Pairwise fun before after => before.mayPrecede after = true)
    (wrote : filling.write pattern used = .ok (written, last))
    (followed : ∀ place ∈ filling.places slash marked pattern used text, place.IsFollowed fold)
    (tolerant : slash = true → text = []) (stopped : .stop ∈ pattern.flatten → text = []) :
    IsTaken fold slash marked pattern written text := by
  induction pattern generalizing slash marked used last written text with
  | nil =>
    intro begun
    cases wrote
    rw [assemble, run_flush]
    exact ⟨[], rfl⟩
  | item token rest inductionHypothesis =>
    obtain ⟨tokenSound, restSound⟩ := List.forall_mem_cons.1 sound
    obtain ⟨before, restOrdered⟩ := List.pairwise_cons.1 ordered
    obtain ⟨first, next, more, tokenWrote, further, rfl⟩ := write_item_eq_ok_iff.1 wrote
    have restStopped : .stop ∈ rest.flatten → text = [] :=
      fun member => stopped (List.mem_cons_of_mem _ member)
    unfold places at followed
    cases is : tokenPiece token with
    | fixed fixed =>
      have uncaptured := capture?_eq_none_of_tokenPiece is
      rw [writeToken_of_fixed is tokenSound.ne_fixed] at tokenWrote
      obtain ⟨rfl, rfl⟩ : fixed = first ∧ used = next := by simpa using tokenWrote
      rw [uncaptured] at followed
      exact isTaken_fixed tokenSound is tolerant further
        (inductionHypothesis restSound restOrdered further followed tolerant restStopped)
    | capture ahead block =>
      have captured := capture?_eq_of_tokenPiece is
      rw [writeToken_of_capture is] at tokenWrote
      obtain ⟨⟨own, _⟩, contributed, same⟩ := map_eq_ok_iff.1 tokenWrote
      cases same
      rw [captured] at followed
      dsimp only at followed
      rw [contributed] at followed
      dsimp only at followed
      rw [behind_eq further] at followed
      obtain ⟨here, later⟩ := List.forall_mem_cons.1 followed
      exact isTaken_capture tokenSound is here
        (inductionHypothesis restSound restOrdered further later tolerant restStopped)
    | stop =>
      obtain rfl := eq_stop_of_tokenPiece is
      cases tokenWrote
      have still : isMarkedBy marked .stop = marked := Bool.or_false marked
      dsimp only [Token.capture?] at followed
      rw [still] at followed
      obtain rfl : text = [] := stopped List.mem_cons_self
      obtain rfl := eq_nil_of_write (eq_nil_of_stop_mayPrecede before) further
      exact isTaken_stop
        (inductionHypothesis restSound restOrdered further followed tolerant restStopped)
  | group inner rest innerHypothesis inductionHypothesis =>
    obtain ⟨innerSound, restSound⟩ := List.forall_mem_append.1 sound
    obtain ⟨innerOrdered, restOrdered, between⟩ := List.pairwise_append.1 ordered
    have restStopped : .stop ∈ rest.flatten → text = [] :=
      fun member => stopped (List.mem_append_right _ member)
    unfold places at followed
    rcases exists_of_write_group wrote with
      ⟨first, next, more, grouped, within, further, rfl⟩ | ⟨leftOut, further⟩
    · rw [grouped] at followed
      dsimp only at followed
      obtain ⟨inside, later⟩ := List.forall_mem_append.1 followed
      rw [behind_eq further] at inside
      have innerStopped : .stop ∈ inner.flatten → more ++ text = [] := by
        intro member
        have nothing := eq_nil_of_stop_mayPrecede (between .stop member)
        rw [eq_nil_of_write nothing further, stopped (List.mem_append_left _ member)]
        rfl
      have bare : false = true → more ++ text = [] := by
        intro impossible
        cases impossible
      exact isTaken_group (innerHypothesis innerSound innerOrdered within inside bare innerStopped)
        tolerant further
        (inductionHypothesis restSound restOrdered further later tolerant restStopped)
    · rw [leftOut] at followed
      obtain ⟨here, later⟩ := List.forall_mem_cons.1 followed
      rw [behind_eq further] at here
      exact isTaken_leftOut here tolerant further
        (inductionHypothesis restSound restOrdered further later tolerant restStopped)

end Filling

/-! ## Instances -/

/-- What the pattern of a matcher is filled with to write an instance of a class. -/
def Catalog.fillingOf (catalog : Catalog) (route : RouteClass) (form : Option Form)
    (matcher : Matcher) (values : List (Text × Value)) (shown : Except Obstacle Text) :
    Filling :=
  match route.cls.need ["__getattribute__"] with
  | .ok _ =>
    ⟨route.layout, contributionsOf catalog values, attributeOf route form values shown,
      matcher.text⟩
  | .error error => ⟨route.layout, [], fun _ => .failed (.obstacle error), matcher.text⟩

theorem Catalog.exists_write_of_writeRoute {catalog : Catalog} {route : RouteClass}
    {form : Option Form} {matcher : Matcher} {values : List (Text × Value)}
    {shown : Except Obstacle Text} {text : Text}
    (wrote :
      writeRoute route form matcher values shown (contributionsOf catalog values) = .ok text) :
    ∃ last,
      (catalog.fillingOf route form matcher values shown).write matcher.pattern 0 =
        .ok (text, last) := by
  unfold writeRoute at wrote
  dsimp only at wrote
  unfold fillingOf
  split at wrote
  · rename_i found last ended
    cases wrote
    exact ⟨last, ended⟩
  · cases wrote
  · cases wrote
  · cases wrote

/-- `catalog.Writes value matcher filling text`: an instance of a class is written as a text by the
pattern of a matcher, filled with what the instance contributes. The matcher is the one that the
class has on its own, or in a table that writes the instance. -/
inductive Catalog.Writes (catalog : Catalog) : Value → Matcher → Filling → Text → Prop where
  | alone {cls : ClassRef} {route : RouteClass} {form : Form} {shape : Shape}
      {values : List (Text × Value)} {unset : List Text} {text : Text}
      (found : catalog.form? cls = some (route, form))
      (built : catalog.build (.record cls shape values unset) = .ok text) :
      Writes catalog (.record cls shape values unset) form.matcher
        (catalog.fillingOf route (some form) form.matcher values
          (Value.record cls shape values unset).shown)
        text
  | inTable {table : RouteTable} {variant : Variant} {cls : ClassRef} {shape : Shape}
      {values : List (Text × Value)} {unset : List Text} {text : Text}
      (known : Declared.table table ∈ catalog.declarations)
      (kept : catalog.part? table "build_route" = none)
      (found : table.variantOf? (.record cls shape values unset) = some variant)
      (built : catalog.buildIn table (.record cls shape values unset) = .ok text) :
      Writes catalog (.record cls shape values unset) variant.matcher
        (catalog.fillingOf variant.route ((catalog.form? cls).map (·.2)) variant.matcher values
          (Value.record cls shape values unset).shown)
        text

theorem Catalog.Writes.exists_write {catalog : Catalog} {value : Value} {matcher : Matcher}
    {filling : Filling} {text : Text} (writes : catalog.Writes value matcher filling text) :
    ∃ last, filling.write matcher.pattern 0 = .ok (text, last) := by
  cases writes with
  | alone found built =>
    unfold build at built
    dsimp only at built
    rw [found] at built
    exact exists_write_of_writeRoute built
  | inTable known kept found built =>
    unfold buildIn at built
    rw [kept, found] at built
    exact exists_write_of_writeRoute built

end TypedRoutes.Table

namespace TypedRoutes.Declaration

open TypedRoutes.Text TypedRoutes.Pattern TypedRoutes.Program TypedRoutes.Matching
  TypedRoutes.Table

/-- Whatever is declared in a module, instances are written by matchers of pattern texts. -/
theorem Module.compile_of_writes {statements : List Statement} {value : Value} {matcher : Matcher}
    {filling : Filling} {text : Text}
    (writes : (({} : Module).declareAll statements).1.catalog.Writes value matcher filling text) :
    Matcher.compile matcher.text matcher.settings = .ok matcher := by
  cases writes with
  | alone found =>
    have empty : ({} : Module).catalog.IsSound := trivial
    exact ((Module.isSound_declareAll empty statements).of_form? found).2
  | inTable known _ found =>
    exact (Module.isSound_of_mem_variants known (List.mem_of_find?_eq_some found)).compiled

/-- A route that has been written is matched if the engine can follow the writer. Whatever is
declared in a module, when an instance of a class is written as a text, alone or by a table, the
matcher it is written by matches that text, provided that each text written for a capture is one
that the capture takes there, and no group left out takes anything of what is behind it. -/
theorem Module.isSome_match?_of_writes {statements : List Statement} {value : Value}
    {matcher : Matcher} {filling : Filling} {text : Text}
    (writes : (({} : Module).declareAll statements).1.catalog.Writes value matcher filling text)
    (followed :
      ∀ place ∈ filling.places (!matcher.settings.strict) false matcher.pattern 0 [],
        place.IsFollowed matcher.settings.caseInsensitive) :
    (matcher.match? text).isSome = true := by
  obtain ⟨pattern, read, same⟩ :=
    Matcher.compile_eq_ok_iff.1 (Module.compile_of_writes writes)
  have parsed : pattern = matcher.pattern := (congrArg Matcher.pattern same).symm
  subst parsed
  have program : matcher.program = assemble (!matcher.settings.strict) false none matcher.pattern :=
    congrArg Matcher.program same
  obtain ⟨last, wrote⟩ := writes.exists_write
  obtain ⟨entries, ran⟩ :=
    Filling.isTaken_of_places (Pattern.tokens_isSound_of_read read)
      (Pattern.hasOrderedMarks_of_read read).ordered wrote followed (fun _ => rfl) (fun _ => rfl)
      none
  have started : matcher.start text = some (entries, { rest := [] }) := by
    unfold Matcher.start
    rw [program, ← ran]
    simp
  unfold Matcher.match? Matcher.verdict
  rw [started]
  simp [Cursor.atEnd]

/-- The law at captures of one and of many segments, and a group in a group, the inner one of which
is left out. -/
theorem Module.isSome_match?_of_writes_nested :
    let catalog := (({} : Module).declareAll
      [.route
        { name := "Page".toList
          pattern := some "/a/{id}(-{v}(.{w}))?q={x}#{*:f}".toList
          settings := .none
          shape := .record
          fields :=
            [{ name := "id".toList
               type := .known .integer
               default := some (.scalar (.integer 0)) },
              { name := "x".toList, type := .known .text, default := some (.scalar (.text [])) },
              { name := "f".toList, type := .known .text, default := some (.scalar (.text [])) },
              Catalog.optionalText "v", Catalog.optionalText "w"] }]).1.catalog
    let text := "/a/7-z?q=y#k/l".toList
    ∃ value form filling, catalog.Writes value (Form.matcher form) filling text ∧
      (∀ place ∈ filling.places (!form.matcher.settings.strict) false form.matcher.pattern 0 [],
        place.IsFollowed form.matcher.settings.caseInsensitive) ∧
        (form.matcher.match? text).isSome = true := by
  intro catalog text
  let cls : ClassRef := ⟨0, "Page".toList, []⟩
  let values : List (Text × Value) :=
    [("id".toList, .scalar (.integer 7)), ("x".toList, .scalar (.text "y".toList)),
      ("f".toList, .scalar (.text "k/l".toList)), ("v".toList, .scalar (.text "z".toList)),
      ("w".toList, .scalar .none)]
  let value : Value := .record cls .record values []
  let one (name : String) : Capture := ⟨.one, some name.toList, none⟩
  let places : List Place :=
    [.capture (one "id") ⟨["-".toList, "?q=".toList], false⟩ "7".toList "-z?q=y#k/l".toList,
      .capture (one "v") ⟨[".".toList], true⟩ "z".toList "?q=y#k/l".toList,
      .leftOut (.item (.literal ".".toList) (.item (.capture (one "w")) .nil)) "?q=y#k/l".toList,
      .capture (one "x") ⟨["#".toList], false⟩ "y".toList "#k/l".toList,
      .capture ⟨.many, some "f".toList, none⟩ ⟨[], true⟩ "k/l".toList []]
  obtain ⟨⟨route, form⟩, found, conditions⟩ := (Option.any_eq_true
    (fun (route, form) => decide (catalog.build value = .ok text ∧
      form.matcher.settings = {} ∧
        (catalog.fillingOf route (some form) form.matcher values value.shown).places true false
          form.matcher.pattern 0 [] = places))
    (catalog.form? cls)).1 (by decide +kernel)
  obtain ⟨built, settings, listed⟩ := of_decide_eq_true conditions
  have writes := Catalog.Writes.alone found built
  have followed : ∀ place ∈
      (catalog.fillingOf route (some form) form.matcher values value.shown).places
        (!form.matcher.settings.strict) false form.matcher.pattern 0 [],
      place.IsFollowed form.matcher.settings.caseInsensitive := by
    have legal (text : String)
        (nonempty : text.toList ≠ [])
        (inside : text.toList.all (isCaptureChar false) = true) :
        text.toList ≠ [] ∧ ∀ c ∈ text.toList, isCaptureChar false c = true :=
      ⟨nonempty, List.all_eq_true.1 inside⟩
    rw [settings]
    show ∀ place ∈ Filling.places _ true false _ _ _, _
    rw [listed]
    refine List.forall_mem_cons.2 ⟨⟨legal "7" (by decide) rfl, rfl, by decide⟩, ?_⟩
    refine List.forall_mem_cons.2 ⟨⟨legal "z" (by decide) rfl, rfl, by decide⟩, ?_⟩
    refine List.forall_mem_cons.2 ⟨?_, ?_⟩
    · intro entries next ran
      cases ran
    refine List.forall_mem_cons.2 ⟨⟨legal "y" (by decide) rfl, rfl, by decide⟩, ?_⟩
    refine List.forall_mem_cons.2 ⟨⟨List.all_eq_true.1 rfl, rfl, by decide⟩, nofun⟩
  exact ⟨value, form, _, writes, followed, Module.isSome_match?_of_writes writes followed⟩

/-- Whether all instances that are written alone are matched, with values of the types of their
fields, none of which is absent. -/
def MatchesBuilt (statements : List Statement) : Prop :=
  let catalog := (({} : Module).declareAll statements).1.catalog
  ∀ cls route form given values text,
    let value := Value.record route.cls route.shape values []
    catalog.form? cls = some (route, form) →
      route.make catalog.evaluate given = .ok value →
        (∀ field ∈ route.fields, ∀ entry ∈ values,
            entry.1 = field.name → field.kind.Holds entry.2) →
          catalog.build value = .ok text → (form.matcher.match? text).isSome = true

/-- A route is not matched where a text has characters that its capture cannot hold, where a text
contains what its capture stops at, or where a group that is left out takes what is behind it. -/
theorem not_matchesBuilt :
    let text : String → FieldDeclaration := fun name =>
      { name := name.toList, type := .known .text }
    ¬ MatchesBuilt (Catalog.strictPage "/{a}" [text "a"]) ∧
      ¬ MatchesBuilt (Catalog.strictPage "/{a}.h" [text "a"]) ∧
        ¬ MatchesBuilt (Catalog.strictPage "(/b)(/{c}/d)" [Catalog.optionalText "c"]) := by
  have refuted
      (statements : List Statement)
      (name value text : Text)
      (computed :
        let catalog := (({} : Module).declareAll statements).1.catalog
        let values : List (Text × Value) := [(name, .scalar (.text value))]
        ((catalog.form? ⟨0, "Page".toList, []⟩).any fun (route, form) =>
          decide (route.make catalog.evaluate values =
                .ok (.record route.cls route.shape values []) ∧
            (∀ field ∈ route.fields, ∀ entry ∈ values,
              entry.1 = field.name → field.kind.Holds entry.2) ∧
              catalog.build (.record route.cls route.shape values []) = .ok text ∧
                form.matcher.match? text = none)) = true) :
      ¬ MatchesBuilt statements := by
    intro matches'
    obtain ⟨⟨route, form⟩, found, conditions⟩ := (Option.any_eq_true _ _).1 computed
    obtain ⟨made, typed, built, missed⟩ := of_decide_eq_true conditions
    have matched := matches' _ route form _ _ text found made typed built
    rw [missed] at matched
    cases matched
  refine ⟨?_, ?_, ?_⟩
  · exact refuted _ "a".toList "x/y".toList "/x/y".toList (by decide +kernel)
  · exact refuted _ "a".toList "x.h".toList "/x.h.h".toList (by decide +kernel)
  · exact refuted _ "c".toList "b".toList "/b/d".toList (by decide +kernel)

end TypedRoutes.Declaration
