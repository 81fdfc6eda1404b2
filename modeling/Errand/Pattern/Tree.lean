import Errand.Pattern.Basic

/-!
# Errand — patterns as they are written

The tree of an expression's notation. It keeps groups that catch nothing and
the arms of a choice as they were written, which the expression itself does
not show.

* `Tree`         — the trees.
* `Tree.depth`   — how deep the notation nests.
* `Tree.pattern` — the expression that is meant.
-/

namespace Errand.Pattern

/-- An expression as it is written. -/
inductive Tree where
  | empty
  /-- A switch: it stands for nothing, and nothing is there to repeat. -/
  | switch
  /-- A character of a set; the brackets it is written with nest to a depth. -/
  | one (set : CharSet) (brackets : Nat)
  | place (p : Place)
  /-- A group, which catches what it matches if it has an index. -/
  | group (index : Option Nat) (body : Tree)
  | many (body : Tree) (least : Nat) (most : Option Nat) (greedy : Bool)
  | row (parts : List Tree)
  | choice (arms : List Tree)
  deriving Inhabited

-- ---------------------------------------------------------------------------
-- Building
-- ---------------------------------------------------------------------------

/-- The trees in a row as one. -/
def Tree.ofRow : List Tree → Tree
  | [] => .empty
  | [t] => t
  | ts => .row ts

/-- The trees to choose from as one. -/
def Tree.ofChoice : List Tree → Tree
  | [t] => t
  | ts => .choice ts

-- ---------------------------------------------------------------------------
-- Depth
-- ---------------------------------------------------------------------------

mutual
/-- How many groups, repetitions, rows, choices and brackets lie in each other. -/
def Tree.depth : Tree → Nat
  | .empty | .switch | .place _ => 0
  | .one _ brackets => brackets
  | .group _ t => t.depth + 1
  | .many t _ _ _ => t.depth + 1
  | .row ts => Tree.greatestDepth ts + 1
  | .choice ts => Tree.greatestDepth ts + 1

/-- The depth of the deepest tree. -/
def Tree.greatestDepth : List Tree → Nat
  | [] => 0
  | t :: ts => max t.depth (Tree.greatestDepth ts)
end

/-- The depth up to which an expression is read. -/
def maxDepth : Nat := 250

-- ---------------------------------------------------------------------------
-- Meaning
-- ---------------------------------------------------------------------------

mutual
/-- The expression that a tree stands for. -/
def Tree.pattern : Tree → Pattern
  | .empty | .switch => .empty
  | .one set _ => .one set
  | .place p => .place p
  | .group (some index) t => .group index t.pattern
  | .group none t => t.pattern
  | .many t least most greedy => .many t.pattern least most greedy
  | .row ts => Tree.rowPattern ts
  | .choice ts => Tree.choicePattern ts

/-- The expression that trees in a row stand for; a switch is none of them. -/
def Tree.rowPattern : List Tree → Pattern
  | [] => .empty
  | [t] => t.pattern
  | .switch :: ts => Tree.rowPattern ts
  | t :: ts => .seq t.pattern (Tree.rowPattern ts)

/-- The expression that trees to choose from stand for. -/
def Tree.choicePattern : List Tree → Pattern
  | [] => .empty
  | [t] => t.pattern
  | t :: ts => .alt t.pattern (Tree.choicePattern ts)
end

end Errand.Pattern
