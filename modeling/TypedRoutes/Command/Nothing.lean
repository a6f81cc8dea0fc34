import TypedRoutes.Blame
import TypedRoutes.Program.Stops

/-!
Contract: commands that are given nothing where a text should be.

A separator in the place of a value leaves nothing. A pattern is matched against nothing all the
same: there are no characters in it, so that captures fail as they do at the end of a route, and a
group whose captures fail is left out. Whatever has to be compared or searched for ends in a
complaint.

Owns: the match of nothing and the complaints about it.
-/

set_option autoImplicit false

namespace TypedRoutes.Command

open TypedRoutes.Program

/-- What is asked of nothing in vain. -/
inductive Demand where
  /-- That it begins with a text. -/
  | start
  /-- That it has a form in lower case. -/
  | lowercase
  /-- That a text occurs in it. -/
  | search
  /-- That it is a part of a text. -/
  | join
  /-- That it is a route. -/
  | route
deriving DecidableEq, Repr

namespace Demand

def message : Demand → String
  | .start => "'list' object has no attribute 'startswith'"
  | .lowercase => "'list' object has no attribute 'lower'"
  | .search => "'list' object has no attribute 'find'"
  | .join => "sequence item 0: expected str instance, list found"
  | .route => "'list' object has no attribute 'route'"

def blame : Demand → Blame
  | .join => .kind
  | _ => .part

end Demand

/-- Matches a capture against nothing. Only one that spans any number of segments could take it. -/
def captureNothing (fold : Bool) (block : Pattern.Capture) (stops : Stops) : Option Demand :=
  if 1 < block.segments then none
  else if !fold && !stops.texts.isEmpty then some .search
  else if stops.isOpen && block.isMany then some .join
  else none

/-- Runs a program on nothing. The result tells whether it matches; there are no captures. -/
def runOnNothing (fold : Bool) : Program → Except Demand Bool
  | .nil => .ok true
  | .item (.fixed _) _ => .error (if fold then .lowercase else .start)
  | .item (.capture block) rest =>
    match captureNothing fold block (stops rest) with
    | some demand => .error demand
    | none => .ok false
  | .item .stop rest => runOnNothing fold rest
  | .group inner rest =>
    match runOnNothing fold inner with
    | .error demand => .error demand
    | .ok _ => runOnNothing fold rest

end TypedRoutes.Command
