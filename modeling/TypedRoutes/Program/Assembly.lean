import TypedRoutes.Program.Instruction

/-!
Contract: assembling the program of a pattern.

Neighbouring tokens whose text the pattern fixes become one instruction: slashes, literals, the
marks of query and fragment, keys and literal values of query pairs. Captures, groups and the stop
come between such runs.

With a tolerated slash, an optional slash follows where a path may end: after a literal before any
query or fragment mark that is last or stands before such a mark, and after a group that is last.
Groups inside are assembled without it.

Owns: `Program.ofPattern`.
-/

set_option autoImplicit false

namespace TypedRoutes.Program

open TypedRoutes.Pattern

def optionalSlash (rest : Program) : Program :=
  .group (.item (.fixed ['/']) .nil) rest

/-- The run of fixed text collected so far, as an instruction of its own. Without a run there is
none; a run may still be empty text. -/
def flush (run : Option Text) (rest : Program) : Program :=
  match run with
  | none => rest
  | some text => .item (.fixed text) rest

def extend (run : Option Text) (text : Text) : Option Text :=
  some (run.getD [] ++ text)

/-- Whether a path may end before what follows. -/
def endsPath : Pattern → Bool
  | .nil => true
  | .item .question _ => true
  | .item .hash _ => true
  | _ => false

/-- Assembles what follows a run of fixed text. `slash` asks for the tolerated slash; `marked`
tells that a query or fragment mark has gone by. -/
def assemble (slash marked : Bool) (run : Option Text) : Pattern → Program
  | .nil => flush run .nil
  | .item token rest =>
    match token with
    | .slash => assemble slash marked (extend run ['/']) rest
    | .literal text =>
      if slash && !marked && endsPath rest then
        flush (extend run text) (optionalSlash (assemble slash marked none rest))
      else assemble slash marked (extend run text) rest
    | .capture block => flush run (.item (.capture block) (assemble slash marked none rest))
    | .question => assemble slash true (extend run ['?']) rest
    | .ampersand => assemble slash marked (extend run ['&']) rest
    | .pair key (.literal value) =>
      assemble slash marked (extend run (key ++ '=' :: value)) rest
    | .pair key (.capture block) =>
      flush (extend run (key ++ ['=']))
        (.item (.capture block) (assemble slash marked none rest))
    | .hash => assemble slash true (extend run ['#']) rest
    | .stop => flush run (.item .stop (assemble slash marked none rest))
    | .fixed _ => assemble slash marked run rest
  | .group inner rest =>
    let after := assemble slash marked none rest
    flush run
      (.group (assemble false false none inner)
        (if slash && rest.isEmpty then optionalSlash after else after))

def ofPattern (slash : Bool) (pattern : Pattern) : Program :=
  assemble slash false none pattern

end TypedRoutes.Program
