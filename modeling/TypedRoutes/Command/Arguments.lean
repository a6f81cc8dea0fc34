import TypedRoutes.Text.Basic
import TypedRoutes.Text.Digit

/-!
Contract: reading the arguments of a command.

An argument that begins with a hyphen is an option if it is spelled as one, or as the beginning of
exactly one long option; short options can be run together, but then all of them have to be known.
Other such arguments are unknown options, except for a lone hyphen, negative numbers and arguments
with a space, which are values. After a double hyphen everything is a value.

Owns: the sorting of arguments and the reading of options and values together. Does not own: which
commands there are.
-/

set_option autoImplicit false

namespace TypedRoutes.Command

open TypedRoutes.Text

inductive Flag where
  | help
  | verbose
  | raw
  | strict
  | caseInsensitive
  | incomplete
deriving DecidableEq, Repr

abbrev Spellings := List (Text × Flag)

def flagOf? (spellings : Spellings) (spelling : Text) : Option Flag :=
  (spellings.find? fun entry => entry.1 = spelling).map (·.2)

inductive Argument where
  | value (text : Text)
  | separator
  | options (flags : List Flag)
  /-- Something that looks like an option and is none. -/
  | unknown
  /-- An option that was given a value but takes none, or run together with one not known. -/
  | refused
deriving DecidableEq, Repr

/-- Options run together behind one hyphen, after the ones read so far. -/
def cluster (spellings : Spellings) (flags : List Flag) : Text → Argument
  | [] => .options flags
  | c :: rest =>
    match flagOf? spellings ['-', c] with
    | none => .refused
    | some flag => cluster spellings (flags ++ [flag]) rest

def splitAtEquals : Text → Text × Option Text
  | [] => ([], none)
  | '=' :: rest => ([], some rest)
  | c :: rest =>
    let (before, after) := splitAtEquals rest
    (c :: before, after)

/-- Whether a text is a hyphen and digits, with or without a point that digits follow. -/
def isNegativeNumber (argument : Text) : Bool :=
  match argument with
  | '-' :: rest =>
    let body := if rest.getLast? = some '\n' then rest.dropLast else rest
    match body.dropWhile fun c => (decimalValue? c).isSome with
    | [] => !body.isEmpty
    | '.' :: fraction =>
      !fraction.isEmpty && fraction.all fun c => (decimalValue? c).isSome
    | _ :: _ => false
  | _ => false

/-- An argument that is no known option although it begins with a hyphen. -/
def unknownArgument (argument : Text) : Argument :=
  if isNegativeNumber argument || argument.contains ' ' then .value argument else .unknown

/-- Sorts a long option by the spellings it begins. More than one is ambiguous. -/
def sortLong (spellings : Spellings) (argument : Text) : Option Argument :=
  let (name, attached) := splitAtEquals argument
  match spellings.filter fun entry => name.isPrefixOf entry.1 with
  | [] => some (unknownArgument argument)
  | [(_, flag)] =>
    match attached with
    | none => some (.options [flag])
    | some _ => some .refused
  | _ => none

/-- An option that is spelled out and followed by an equals sign. What stands behind the sign is
taken for more options if the option is a short one, and is refused otherwise. -/
def attachedOption (spellings : Spellings) (name : Text) (flag : Flag) (attached : Text) :
    Argument :=
  match name, attached with
  | _ :: '-' :: _, _ => .refused
  | _, [] => .refused
  | _, _ :: _ => cluster spellings [flag] attached

/-- Sorts an argument. An ambiguous one has no place. -/
def sortArgument (spellings : Spellings) (argument : Text) : Option Argument :=
  match argument with
  | '-' :: second :: rest =>
    let (name, attached) := splitAtEquals argument
    match flagOf? spellings argument, flagOf? spellings name, attached with
    | some flag, _, _ => some (.options [flag])
    | none, some flag, some text => some (attachedOption spellings name flag text)
    | none, _, _ =>
      if second = '-' then sortLong spellings argument
      else
        match flagOf? spellings ['-', second] with
        | some flag => some (cluster spellings [flag] rest)
        | none => some (unknownArgument argument)
  | _ => some (.value argument)

def sortArguments (spellings : Spellings) : List Text → Option (List Argument)
  | [] => some []
  | argument :: rest =>
    if argument = ['-', '-'] then some (.separator :: rest.map .value)
    else
      match sortArgument spellings argument with
      | none => none
      | some sorted => (sortArguments spellings rest).map (sorted :: ·)

inductive Stop where
  /-- Help is asked for. -/
  | help
  /-- The arguments are wrong. -/
  | usage
deriving DecidableEq, Repr

/-- A value that a command is given: a text, or nothing where the text was a second separator. -/
abbrev Operand := Option Text

inductive Context where
  /-- Nothing that matters. -/
  | fresh
  /-- A value that counted. -/
  | afterValue
  /-- A separator that goes with the value to come. -/
  | separated
deriving DecidableEq, Repr

/-- The operand of a text. One that is spelled like a separator is dropped as if it were one, unless
its own separator has been dropped before it. -/
def operandOf (context : Context) (text : Text) : Operand :=
  if text = ['-', '-'] && context ≠ .separated then none else some text

/-- Reads options and a number of values. A separator goes with the value before it, if that
counted, and else with the value to come. Anything left over makes the whole wrong, unless help is
asked for. -/
def readValues (needed : Nat) (context : Context) (extra : Bool) :
    List Argument → Except Stop (List Flag × List Operand)
  | [] => if needed = 0 && !extra then .ok ([], []) else .error .usage
  | .refused :: _ => .error .usage
  | .unknown :: rest => readValues needed .fresh true rest
  | .options flags :: rest =>
    if flags.contains .help then .error .help
    else
      (readValues needed .fresh extra rest).map fun (others, values) => (flags ++ others, values)
  | .separator :: rest =>
    if context = .afterValue then readValues needed .afterValue extra rest
    else readValues needed .separated (extra || needed = 0 || rest.isEmpty) rest
  | .value text :: rest =>
    match needed with
    | 0 => readValues 0 .fresh true rest
    | more + 1 =>
      (readValues more .afterValue extra rest).map fun (flags, values) =>
        (flags, operandOf context text :: values)

end TypedRoutes.Command
