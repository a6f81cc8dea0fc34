import TypedRoutes.Proofs.Program.Assembly
import TypedRoutes.Table.Writing

/-!
Contract: what is written for a trace of a pattern.

If each capture of a trace contributes the text it was filled with, and nothing if it was left
unfilled, the writer goes the way of the trace: a taken group is written, and a group that was left
out stops at a capture of its own, whatever the groups inside it come to.

Owns: groups with captures of their own, fillings that agree with a trace, and their writing.
-/

set_option autoImplicit false

namespace TypedRoutes.Table

open TypedRoutes.Pattern TypedRoutes.Program TypedRoutes.Matching

def isFlat : Pattern → Bool
  | .nil => true
  | .item _ rest => isFlat rest
  | .group _ _ => false

theorem topItems_eq_flatten {pattern : Pattern} (flat : isFlat pattern = true) :
    pattern.topItems = pattern.flatten := by
  induction pattern with
  | nil => rfl
  | item token rest inductionHypothesis =>
    rw [Grouped.topItems, Grouped.flatten, inductionHypothesis flat]
  | group inner rest => cases flat

/-- Every group, at any depth, has a capture outside of the groups inside it. -/
def HasOwnCaptures : Pattern → Prop
  | .nil => True
  | .item _ rest => HasOwnCaptures rest
  | .group inner rest =>
    (inner.topItems.any fun token => token.capture?.isSome) = true ∧
      HasOwnCaptures inner ∧ HasOwnCaptures rest

instance hasOwnCapturesDecidable : DecidablePred HasOwnCaptures
  | .nil => .isTrue trivial
  | .item _ rest => hasOwnCapturesDecidable rest
  | .group inner rest =>
    have := hasOwnCapturesDecidable inner
    have := hasOwnCapturesDecidable rest
    inferInstanceAs
      (Decidable
        ((inner.topItems.any fun token => token.capture?.isSome) = true ∧
          HasOwnCaptures inner ∧ HasOwnCaptures rest))

/-- What a capture contributes that has been filled with a text, or left unfilled. -/
def writtenText : Option Text → Written
  | none => .absent
  | some text => .text text

namespace Filling

variable {filling : Filling} {filled : List (Capture × Option Text)}

/-- Captures are written by name, each with the text it was filled with. -/
structure Supplies (filling : Filling) (filled : List (Capture × Option Text)) : Prop where
  named : filling.layout = .named
  written :
    ∀ block text, (block, text) ∈ filled →
      ∃ name, block.name = some name ∧
        Mapping.get? filling.fields name = some (writtenText text)

theorem Supplies.of_subset {fewer : List (Capture × Option Text)}
    (supplies : filling.Supplies filled) (part : fewer ⊆ filled) :
    filling.Supplies fewer :=
  ⟨supplies.named, fun block text member => supplies.written block text (part member)⟩

theorem contribution_eq {block : Capture} {text : Option Text} (supplies : filling.Supplies filled)
    (member : (block, text) ∈ filled) (used : Nat) :
    filling.contribution block used = .ok (writtenText text, used) := by
  obtain ⟨name, named, supplied⟩ := supplies.written block text member
  simp [contribution, supplies.named, named, supplied]

theorem writeCapture_of_unfilled {block : Capture} (supplies : filling.Supplies filled)
    (member : (block, none) ∈ filled) (used : Nat) :
    filling.writeCapture block used = .error .absent := by
  simp [writeCapture, contribution_eq supplies member, writtenText]

/-- A text that a capture can take is one that may be written for it. -/
theorem writeCapture_of_takes {block : Capture} {text left : Text}
    (supplies : filling.Supplies filled) (member : (block, some text) ∈ filled)
    (takes : Takes block text left) (used : Nat) :
    filling.writeCapture block used = .ok (text, used) := by
  have allowed := takes.isAllowed
  unfold writeCapture
  rw [contribution_eq supplies member]
  dsimp only [writtenText]
  cases listed : block.allowed with
  | none => rfl
  | some texts =>
    simp only [isAllowed, listed, Bool.false_eq_true, if_false] at allowed
    simp only [allowed, if_true]

/-- The pieces of a token are what is written for it, its capture apart. -/
theorem writeToken_of_capture {token : Token} {ahead : Text} {block : Capture}
    (is : tokenPiece token = .capture ahead block) (used : Nat) :
    filling.writeToken token used =
      (filling.writeCapture block used).map fun (text, after) => (ahead ++ text, after) := by
  cases token with
  | capture other =>
    cases is
    cases written : filling.writeCapture block used <;> simp [writeToken, written, Except.map]
  | pair key value =>
    cases value with
    | literal text => cases is
    | capture other =>
      cases is
      cases written : filling.writeCapture block used <;> simp [writeToken, written, Except.map]
  | _ => cases is

theorem writeToken_of_fixed {token : Token} {text : Text} (is : tokenPiece token = .fixed text)
    (denoted : ∀ other, token ≠ .fixed other) (used : Nat) :
    filling.writeToken token used = .ok (text, used) := by
  cases token with
  | pair key value =>
    cases value with
    | literal value =>
      cases is
      rfl
    | capture block => cases is
  | fixed other => exact absurd rfl (denoted other)
  | capture block => cases is
  | stop => cases is
  | _ =>
    cases is
    rfl

theorem capture?_eq_of_tokenPiece {token : Token} {ahead : Text} {block : Capture}
    (is : tokenPiece token = .capture ahead block) :
    token.capture? = some block := by
  rw [← capture?_tokenPiece, is]
  rfl

theorem capture?_eq_none_of_tokenPiece {token : Token} {text : Text}
    (is : tokenPiece token = .fixed text) :
    token.capture? = none := by
  rw [← capture?_tokenPiece, is]
  rfl

/-- Where no capture is filled, writing stops at the first capture outside of groups. Without one
the text is written to its end. -/
theorem write_of_unfilled {pattern : Pattern}
    (denoted : ∀ token ∈ pattern.flatten, ∀ other, token ≠ .fixed other)
    (direct : HasOwnCaptures pattern) (supplies : filling.Supplies (unfilled tokenPiece pattern))
    (used : Nat) :
    if (pattern.topItems.any fun token => token.capture?.isSome) = true then
      filling.write pattern used = .error .absent
    else ∃ text, filling.write pattern used = .ok (text, used) := by
  induction pattern with
  | nil => exact ⟨[], rfl⟩
  | item token rest inductionHypothesis =>
    rw [unfilled_item] at supplies
    obtain ⟨tokenDenoted, restDenoted⟩ := List.forall_mem_cons.1 denoted
    have later := inductionHypothesis restDenoted direct
      (supplies.of_subset (List.subset_append_right _ _))
    rw [Grouped.topItems, List.any_cons]
    -- A token without a capture is written in front of whatever comes of the rest.
    have passed {text : Text}
        (uncaptured : token.capture? = none)
        (wrote : filling.writeToken token used = .ok (text, used)) :
        if (token.capture?.isSome || rest.topItems.any (·.capture?.isSome)) = true then
          filling.write (.item token rest) used = .error .absent
        else ∃ text, filling.write (.item token rest) used = .ok (text, used) := by
      rw [uncaptured, Option.isSome_none, Bool.false_or, write, wrote]
      split at later
      · rename_i captured
        simp [captured, later, Except.map]
      · rename_i free
        obtain ⟨more, written⟩ := later
        simp [free, written, Except.map]
    cases is : tokenPiece token with
    | capture ahead block =>
      have own := capture?_eq_of_tokenPiece is
      have absent : filling.writeCapture block used = .error .absent :=
        writeCapture_of_unfilled supplies (by simp [is, Piece.capture?]) used
      rw [own, Option.isSome_some, Bool.true_or, if_pos rfl, write, writeToken_of_capture is,
        absent]
      rfl
    | fixed text =>
      exact passed (capture?_eq_none_of_tokenPiece is) (writeToken_of_fixed is tokenDenoted used)
    | stop =>
      obtain rfl := eq_stop_of_tokenPiece is
      exact passed rfl rfl
  | group inner rest innerHypothesis inductionHypothesis =>
    obtain ⟨captured, innerDirect, restDirect⟩ := direct
    rw [unfilled_group] at supplies
    have inside := innerHypothesis
      (fun token member => denoted token (List.mem_append_left _ member)) innerDirect
      (supplies.of_subset (List.subset_append_left _ _))
    have later := inductionHypothesis
      (fun token member => denoted token (List.mem_append_right _ member)) restDirect
      (supplies.of_subset (List.subset_append_right _ _))
    rw [if_pos captured] at inside
    have same : filling.write (.group inner rest) used = filling.write rest used := by
      rw [write, inside]
      split <;> rfl
    rw [Grouped.topItems, same]
    exact later

theorem any_of_topItems {pattern : Pattern}
    (captured : (pattern.topItems.any fun token => token.capture?.isSome) = true) :
    (pattern.any fun token => token.capture?.isSome) = true := by
  unfold Grouped.any
  induction pattern with
  | nil => cases captured
  | item token rest inductionHypothesis =>
    rw [Grouped.topItems, List.any_cons, Bool.or_eq_true] at captured
    rw [Grouped.flatten, List.any_cons, Bool.or_eq_true]
    exact captured.imp_right inductionHypothesis
  | group inner rest _ inductionHypothesis =>
    rw [Grouped.flatten, List.any_append, Bool.or_eq_true]
    exact .inr (inductionHypothesis captured)

/-- A pattern is written as its trace, if its captures contribute what the trace was filled with. -/
theorem write_of_trace {pattern : Pattern} {text left : Text}
    (denoted : ∀ token ∈ pattern.flatten, ∀ other, token ≠ .fixed other)
    (direct : HasOwnCaptures pattern) (trace : Trace tokenPiece pattern filled text left)
    (supplies : filling.Supplies filled) (used : Nat) :
    filling.write pattern used = .ok (text, used) := by
  induction trace with
  | nil => rfl
  | fixed is _ inductionHypothesis =>
    obtain ⟨tokenDenoted, restDenoted⟩ := List.forall_mem_cons.1 denoted
    rw [write, writeToken_of_fixed is tokenDenoted]
    simp [inductionHypothesis restDenoted direct supplies, Except.map]
  | capture is takes _ inductionHypothesis =>
    obtain ⟨_, restDenoted⟩ := List.forall_mem_cons.1 denoted
    have written := writeCapture_of_takes supplies List.mem_cons_self takes used
    have later := supplies.of_subset (List.subset_cons_self _ _)
    rw [write, writeToken_of_capture is, written]
    simp [inductionHypothesis restDenoted direct later, Except.map]
  | stop is _ _ inductionHypothesis =>
    obtain rfl := eq_stop_of_tokenPiece is
    obtain ⟨_, restDenoted⟩ := List.forall_mem_cons.1 denoted
    rw [write, writeToken]
    simp [inductionHypothesis restDenoted direct supplies, Except.map]
  | taken _ _ withinHypothesis inductionHypothesis =>
    obtain ⟨captured, innerDirect, restDirect⟩ := direct
    have inside := withinHypothesis
      (fun token member => denoted token (List.mem_append_left _ member)) innerDirect
      (supplies.of_subset (List.subset_append_left _ _))
    have later := inductionHypothesis
      (fun token member => denoted token (List.mem_append_right _ member)) restDirect
      (supplies.of_subset (List.subset_append_right _ _))
    rw [write, if_pos (any_of_topItems captured), inside]
    simp [later, Except.map]
  | skipped _ inductionHypothesis =>
    obtain ⟨captured, innerDirect, restDirect⟩ := direct
    have inside := write_of_unfilled
      (fun token member => denoted token (List.mem_append_left _ member)) innerDirect
      (supplies.of_subset (List.subset_append_left _ _)) used
    have later := inductionHypothesis
      (fun token member => denoted token (List.mem_append_right _ member)) restDirect
      (supplies.of_subset (List.subset_append_right _ _))
    rw [if_pos captured] at inside
    rw [write, if_pos (any_of_topItems captured), inside]
    exact later

end Filling

theorem contributionsOf_map {catalog : Catalog} {fields : List Field} (valueOf : Text → Value)
    (writtenOf : Text → Written)
    (each : ∀ field ∈ fields, contributionOf catalog (valueOf field.name) = writtenOf field.name) :
    contributionsOf catalog (fields.map fun field => (field.name, valueOf field.name)) =
      fields.map fun field => (field.name, writtenOf field.name) := by
  induction fields with
  | nil => rfl
  | cons field rest inductionHypothesis =>
    obtain ⟨first, later⟩ := List.forall_mem_cons.1 each
    rw [List.map_cons, List.map_cons, contributionsOf, first, inductionHypothesis later]

/-- The complaint about an instance that lacks a value, or about one that cannot even be shown. -/
def BuildError.ofMissing (pattern : Text) : Except Obstacle Text → BuildError
  | .ok shown => .missing shown pattern
  | .error error => .obstacle error

/-- What becomes of an instance is what becomes of the pattern of its class, filled with what its
values contribute. -/
theorem Catalog.build_eq_write {catalog : Catalog} {cls : ClassRef} {route : RouteClass}
    {form : Form} (found : catalog.form? cls = some (route, form))
    (needed : route.cls.need ["__getattribute__"] = .ok ()) (shape : Shape)
    (values : List (Text × Value)) (unset : List Text) :
    ∃ besides,
      catalog.build (.record cls shape values unset) =
        match Filling.write
            ⟨route.layout, contributionsOf catalog values, besides, form.matcher.text⟩
            form.matcher.pattern 0 with
        | .ok (text, _) => .ok text
        | .error .absent =>
          .error (.ofMissing form.matcher.text (Value.record cls shape values unset).shown)
        | .error (.error error) => .error error := by
  let value := Value.record cls shape values unset
  refine ⟨attributeOf route (some form) values value.shown, ?_⟩
  rw [build, found]
  dsimp only
  unfold writeRoute
  rw [needed]
  dsimp only
  generalize Filling.write _ form.matcher.pattern 0 = wrote
  cases wrote with
  | ok result => rfl
  | error halt =>
    cases halt with
    | error error => rfl
    | absent => cases (Value.record cls shape values unset).shown <;> rfl

/-- An instance of a class is written if the pattern of the class is, filled with what the values of
the instance contribute. -/
theorem Catalog.exists_build_eq_ok_iff {catalog : Catalog} {cls : ClassRef} {route : RouteClass}
    {form : Form} {values : List (Text × Value)} {written : List (Text × Written)}
    (found : catalog.form? cls = some (route, form))
    (needed : route.cls.need ["__getattribute__"] = .ok ())
    (contributed : contributionsOf catalog values = written) (shape : Shape) (unset : List Text) :
    ∃ besides, ∀ text,
      catalog.build (.record cls shape values unset) = .ok text ↔
        ∃ last,
          Filling.write ⟨route.layout, written, besides, form.matcher.text⟩ form.matcher.pattern 0 =
            .ok (text, last) := by
  obtain ⟨besides, builds⟩ := build_eq_write found needed shape values unset
  rw [contributed] at builds
  refine ⟨besides, fun text => ?_⟩
  rw [builds]
  split <;> rename_i wrote <;> rw [wrote] <;> simp

end TypedRoutes.Table
