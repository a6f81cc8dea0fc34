import Mathlib.Algebra.Group.Nat.Defs
import Mathlib.Data.List.Chain
import TypedRoutes.Number.Integer
import TypedRoutes.Pattern.Token
import TypedRoutes.Text.Identifier

/-!
Contract: which patterns are well formed.

The grammar is said on the pattern alone, without its text and without the states of a reader. A
pattern is a path, then optionally a query, a fragment and a stop. The path and the fragment are
bodies: literals, captures and groups of these, slashes in the path only, where no group is empty
and nothing but groups follows a group. A query is made of marks and pairs in turn.

Owns: sound captures and tokens, bodies, the parts of a pattern and well-formedness.
-/

set_option autoImplicit false

namespace TypedRoutes.Pattern

open TypedRoutes.Text TypedRoutes.Number

/-! ## Tokens -/

/-- Characters that no literal and no part of a query pair stands for. Braces are not among them,
as a doubled brace stands for one. -/
def isBarred (c : Char) : Bool :=
  ['/', '?', '&', '#', '=', '!', '(', ')'].contains c

/-- Texts that a literal can stand for. -/
def IsPlain (text : Text) : Prop :=
  text ≠ [] ∧ ∀ c ∈ text, isBarred c = false

/-- Characters that part the allowed texts of a capture from each other and from what is around
them. -/
def isListMark (c : Char) : Bool :=
  ['{', '}', '(', ')', '|'].contains c

/-- Texts that a capture can list as allowed. -/
def IsListable (text : Text) : Prop :=
  text ≠ [] ∧ ∀ c ∈ text, isListMark c = false

/-- A capture that a pattern text can denote. -/
structure Capture.IsSound (capture : Capture) : Prop where
  named : ∀ name ∈ capture.name, isIdentifier name = true
  counted :
    ∀ segments, capture.extent = .exactly segments →
      1 ≤ segments ∧ segments < (10 ^ digitLimit : Nat)
  listed :
    ∀ allowed ∈ capture.allowed,
      capture.extent = .one ∧ allowed ≠ [] ∧ ∀ text ∈ allowed, IsListable text

/-- A token that a pattern text can denote. -/
def Token.IsSound : Token → Prop
  | .literal text => IsPlain text
  | .capture block => block.IsSound
  | .pair key (.literal value) => IsPlain key ∧ IsPlain value
  | .pair key (.capture block) => IsPlain key ∧ block.IsSound ∧ block.extent = .one
  | .slash | .question | .ampersand | .hash | .stop => True
  | .fixed _ => False

theorem Token.IsSound.ne_fixed {token : Token} (sound : token.IsSound) (text : Text) :
    token ≠ .fixed text := by
  rintro rfl
  exact sound

/-- Texts that can be written as they stand, without doubling a brace. -/
def IsBraceless (text : Text) : Prop :=
  ∀ c ∈ text, c ≠ '{' ∧ c ≠ '}'

/-- A token whose text in a pattern can be read again: a query pair is written without doubling the
braces in it, so it must have none. -/
def Token.IsPrintable : Token → Prop
  | .pair key (.literal value) => IsBraceless key ∧ IsBraceless value
  | .pair key (.capture _) => IsBraceless key
  | _ => True

/-- Whether a token can stand in a path, or without slashes in a fragment. -/
def Token.isBodyToken (slashes : Bool) : Token → Bool
  | .slash => slashes
  | .literal _ | .capture _ => true
  | _ => false

/-- The tokens of a body without slashes are tokens of a body with them. -/
theorem Token.isBodyToken_true {slashes : Bool} {token : Token}
    (fits : token.isBodyToken slashes = true) :
    token.isBodyToken true = true := by
  cases token <;> first | rfl | cases fits

/-- Whether a token stands in queries only, behind the mark that begins them. -/
def Token.isQueryToken : Token → Bool
  | .ampersand | .pair _ _ => true
  | _ => false

/-- Whether a token is a capture of the path or the fragment. -/
def Token.isCapture : Token → Bool
  | .capture _ => true
  | _ => false

/-- Whether a token can stand right behind another one: no slash stands behind a slash, and no
capture behind a capture. -/
def Token.mayFollow (before after : Token) : Bool :=
  match after with
  | .slash => before ≠ .slash
  | .capture _ => !before.isCapture
  | _ => true

/-- Whether a token can stand anywhere before another one: nothing follows the stop, and the query
is behind its mark and before the mark of the fragment. -/
def Token.mayPrecede (before after : Token) : Bool :=
  before ≠ .stop && !(before.isQueryToken && after = .question) &&
    !(before = .hash && after.isQueryToken)

/-! ## Bodies -/

def isAllGroups : Pattern → Bool
  | .nil => true
  | .item _ _ => false
  | .group _ rest => isAllGroups rest

def startsWithLiteral : Pattern → Bool
  | .item (.literal _) _ => true
  | _ => false

/-- A stretch of a path, or of a fragment when there are no slashes. No two literals are side by
side at one level. -/
def IsBody (slashes : Bool) : Pattern → Prop
  | .nil => True
  | .item token rest =>
    token.isBodyToken slashes = true ∧
      (startsWithLiteral (.item token .nil) = true → startsWithLiteral rest = false) ∧
        IsBody slashes rest
  | .group inner rest =>
    inner ≠ .nil ∧ IsBody slashes inner ∧ isAllGroups rest = true ∧ IsBody slashes rest

instance decidableIsBody (slashes : Bool) : (pattern : Pattern) → Decidable (IsBody slashes pattern)
  | .nil => isTrue trivial
  | .item _ rest =>
    have : Decidable (IsBody slashes rest) := decidableIsBody slashes rest
    inferInstanceAs (Decidable (_ ∧ _ ∧ _))
  | .group inner rest =>
    have : Decidable (IsBody slashes inner) := decidableIsBody slashes inner
    have : Decidable (IsBody slashes rest) := decidableIsBody slashes rest
    inferInstanceAs (Decidable (_ ∧ _ ∧ _ ∧ _))

/-! ## Whole patterns -/

/-- A query that begins with the given mark: pairs, each behind a mark, and one more mark if the
query is left open. -/
def queryFrom (mark : Token) (isOpen : Bool) : List (Text × PairValue) → Pattern
  | [] => if isOpen then .item mark .nil else .nil
  | (key, value) :: rest => .item mark (.item (.pair key value) (queryFrom .ampersand isOpen rest))

/-- A pattern in its parts. -/
structure Parts where
  path : Pattern := .nil
  pairs : List (Text × PairValue) := []
  /-- Whether a mark of the query waits for a pair at the end. -/
  isOpen : Bool := false
  /-- What follows the mark that begins the fragment, if it is there. -/
  fragment : Option Pattern := none
  isStopped : Bool := false

namespace Parts

def ending (parts : Parts) : Pattern :=
  if parts.isStopped then .item .stop .nil else .nil

def afterQuery (parts : Parts) : Pattern :=
  match parts.fragment with
  | none => parts.ending
  | some body => .item .hash (body ++ parts.ending)

def afterPath (parts : Parts) (mark : Token) : Pattern :=
  queryFrom mark parts.isOpen parts.pairs ++ parts.afterQuery

def pattern (parts : Parts) : Pattern :=
  parts.path ++ parts.afterPath .question

/-- Parts that make a pattern. A query is left open only where the pattern ends. -/
structure AreSound (parts : Parts) : Prop where
  path : IsBody true parts.path
  closed : parts.isOpen = true → parts.fragment = none ∧ parts.isStopped = false
  fragment : ∀ body ∈ parts.fragment, IsBody false body

end Parts

end TypedRoutes.Pattern

namespace TypedRoutes

open TypedRoutes.Pattern

/-- A pattern that follows the grammar. What may be side by side is said with the groups opened in
place. -/
structure Pattern.IsWellFormed (pattern : Pattern) : Prop where
  parts : ∃ parts : Parts, parts.AreSound ∧ parts.pattern = pattern
  tokens : ∀ token ∈ pattern.flatten, token.IsSound
  neighbours : pattern.flatten.IsChain fun before after => before.mayFollow after = true

/-- The marks of a pattern are in their places: one at most begins the query and one at most the
fragment, what stands in queries only is behind the one and before the other, and nothing follows
the stop. -/
structure Pattern.HasOrderedMarks (pattern : Pattern) : Prop where
  oneQuestion : pattern.flatten.count .question ≤ 1
  oneHash : pattern.flatten.count .hash ≤ 1
  queried : ∀ token ∈ pattern.flatten, token.isQueryToken = true → .question ∈ pattern.flatten
  ordered : pattern.flatten.Pairwise fun before after => before.mayPrecede after = true

end TypedRoutes
