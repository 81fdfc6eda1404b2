import Errand.Pattern.CharSet

/-!
# Errand — patterns

The trees of regular expressions, and the conditions on places in them.

* `Boundary` — how a place lies to the words around it.
* `Place`    — the conditions on a place.
* `Pattern`  — the expressions.
-/

namespace Errand

namespace Pattern

/-- How a place lies to the words around it. -/
inductive Boundary where
  /-- A character of a word stands on just one side. -/
  | edge
  | noEdge
  /-- A word starts here. -/
  | start
  | stop
  /-- No word goes on from the left, whatever follows. -/
  | startHalf
  | stopHalf
  deriving DecidableEq, Inhabited, Repr

/-- A condition on a place in a text. -/
inductive Place where
  | textStart
  | textEnd
  /-- A line starts here; with `returns` a carriage return ends a line too. -/
  | lineStart (returns : Bool)
  | lineEnd (returns : Bool)
  /-- A boundary of words, which with `ascii` hold ASCII characters only. -/
  | word (ascii : Bool) (b : Boundary)
  deriving DecidableEq, Inhabited, Repr

end Pattern

/-- A regular expression. -/
inductive Pattern where
  | empty
  | one (set : Pattern.CharSet)
  | place (p : Pattern.Place)
  | seq (first second : Pattern)
  | alt (first second : Pattern)
  | group (index : Nat) (body : Pattern)
  | many (body : Pattern) (least : Nat) (most : Option Nat) (greedy : Bool)
  deriving Inhabited

end Errand
