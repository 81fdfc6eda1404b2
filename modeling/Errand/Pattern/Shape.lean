import Errand.Pattern.Tree

/-!
# Errand — the shapes of patterns

What a matcher is built from: an expression without what makes no difference to
it. Characters in a row are one literal, single characters to choose from are
one set, what is common to the fronts of all arms is taken out, and a repetition
of nothing happens at most once.

* `Shape`                    — the shapes, with equality.
* `Shape.row`, `Shape.choice`, `Shape.many` — building with the rules above.
* `Tree.shape`               — the shape of a tree.
* `Shape.least?`, `Shape.most?` — the bounds of what a shape matches, in bytes.
-/

namespace Errand.Pattern

/-- What a matcher is built from. -/
inductive Shape where
  | empty
  /-- Characters one after the other, by code point. -/
  | literal (codes : List Nat)
  | set (s : CharSet)
  | place (p : Place)
  | capture (index : Nat) (body : Shape)
  | repeated (body : Shape) (least : Nat) (most : Option Nat) (greedy : Bool)
  | rowOf (parts : List Shape)
  | choiceOf (arms : List Shape)
  deriving Inhabited

namespace Shape

-- ---------------------------------------------------------------------------
-- Equality
-- ---------------------------------------------------------------------------

mutual
/-- Two shapes are the same. -/
def same : Shape → Shape → Bool
  | .empty, .empty => true
  | .literal a, .literal b => a = b
  | .set a, .set b => a = b
  | .place a, .place b => a = b
  | .capture i a, .capture j b => i = j && a.same b
  | .repeated a n most g, .repeated b n' most' g' =>
    a.same b && n = n' && most = most' && g = g'
  | .rowOf as, .rowOf bs => sameAll as bs
  | .choiceOf as, .choiceOf bs => sameAll as bs
  | _, _ => false

/-- Two lists hold the same shapes. -/
def sameAll : List Shape → List Shape → Bool
  | [], [] => true
  | a :: as, b :: bs => a.same b && sameAll as bs
  | _, _ => false
end

mutual
/-- Shapes are the same exactly if they are equal. -/
theorem same_iff (a b : Shape) : a.same b = true ↔ a = b := by
  cases a <;> cases b <;> simp [same, same_iff, sameAll_iff, and_assoc]

theorem sameAll_iff (as bs : List Shape) : sameAll as bs = true ↔ as = bs := by
  cases as <;> cases bs <;> simp [sameAll, same_iff, sameAll_iff]
end

instance : DecidableEq Shape := fun a b => decidable_of_iff (a.same b = true) (same_iff a b)

-- ---------------------------------------------------------------------------
-- Lengths
-- ---------------------------------------------------------------------------

/-- The number of bytes of a code point. -/
def byteCount (code : Nat) : Nat :=
  if code ≤ 0x7F then 1 else if code ≤ 0x7FF then 2 else if code ≤ 0xFFFF then 3 else 4

/-- The sum of lengths, if all are known. -/
def sum? (ns : List (Option Nat)) : Option Nat :=
  ns.foldr (fun n total => do return (← n) + (← total)) (some 0)

/-- The best of lengths by a choice between two, if all are known. -/
def best? (choose : Nat → Nat → Nat) : List (Option Nat) → Option Nat
  | [] => none
  | n :: ns => ns.foldl (fun best n => do return choose (← best) (← n)) n

mutual
/-- The length of the shortest match; a set of nothing has none. -/
def least? : Shape → Option Nat
  | .empty | .place _ => some 0
  | .literal codes => some (codes.map byteCount).sum
  | .set s => s.ranges.head?.map fun r => byteCount r.1
  | .capture _ b => b.least?
  | .repeated b n _ _ => b.least?.map (· * n)
  | .rowOf ps => sum? (leastOfAll ps)
  | .choiceOf ps => best? min (leastOfAll ps)

/-- The lengths of the shortest matches. -/
def leastOfAll : List Shape → List (Option Nat)
  | [] => []
  | p :: ps => p.least? :: leastOfAll ps
end

mutual
/-- The length of the longest match, if there is a bound. -/
def most? : Shape → Option Nat
  | .empty | .place _ => some 0
  | .literal codes => some (codes.map byteCount).sum
  | .set s => s.ranges.getLast?.map fun r => byteCount r.2
  | .capture _ b => b.most?
  | .repeated b _ n _ => do return (← b.most?) * (← n)
  | .rowOf ps => sum? (mostOfAll ps)
  | .choiceOf ps => best? max (mostOfAll ps)

/-- The lengths of the longest matches. -/
def mostOfAll : List Shape → List (Option Nat)
  | [] => []
  | p :: ps => p.most? :: mostOfAll ps
end

-- ---------------------------------------------------------------------------
-- Building
-- ---------------------------------------------------------------------------

/-- The shape of a character of a set. -/
def ofSet (s : CharSet) : Shape :=
  match s.ranges with
  | [(low, high)] => if low = high then .literal [low] else .set s
  | _ => .set s

/-- The parts of a row. -/
def parts : Shape → List Shape
  | .rowOf ps => ps
  | .empty => []
  | p => [p]

/-- The arms of a choice. -/
def arms : Shape → List Shape
  | .choiceOf ps => ps
  | p => [p]

/-- Literals that stand next to each other made one. -/
def joinLiterals : List Shape → List Shape
  | [] => []
  | .literal a :: ps =>
    match joinLiterals ps with
    | .literal b :: more => .literal (a ++ b) :: more
    | more => .literal a :: more
  | p :: ps => p :: joinLiterals ps

/-- Shapes in a row. -/
def row (ps : List Shape) : Shape :=
  match joinLiterals (ps.flatMap parts) with
  | [] => .empty
  | [p] => p
  | ps => .rowOf ps

/-- The ranges of a single character. -/
def characterRanges? : Shape → Option (List (Nat × Nat))
  | .literal [code] => some [(code, code)]
  | _ => none

/-- The ranges of a set. -/
def setRanges? : Shape → Option (List (Nat × Nat))
  | .set s => some s.ranges
  | _ => none

/-- What two lists have in common at their fronts. -/
def commonFront : List Shape → List Shape → List Shape
  | a :: as, b :: bs => if a = b then a :: commonFront as bs else []
  | _, _ => []

/-- The parts of a row of several. -/
def rowParts? : Shape → Option (List Shape)
  | .rowOf ps => some ps
  | _ => none

/-- The parts that all arms, which are rows, have in common at their fronts. -/
def sharedFront (rows : List (List Shape)) : List Shape :=
  match rows with
  | [] => []
  | r :: rs => rs.foldl commonFront r

/--
Shapes to choose from. Taking out a common front opens choices in the arms
behind it, one level for each unit of fuel.
-/
def choiceWith (fuel : Nat) (ps : List Shape) : Shape :=
  match ps.flatMap arms with
  | [] => .set .empty
  | [p] => p
  | ps =>
    match (ps.mapM characterRanges?).or (ps.mapM setRanges?) with
    | some rs => ofSet (.ofRanges rs.flatten)
    | none =>
      let rows := (ps.mapM rowParts?).getD []
      let front := sharedFront rows
      match fuel with
      | 0 => .choiceOf ps
      | fuel + 1 =>
        if front.isEmpty then .choiceOf ps
        else
          row (front ++ [choiceWith fuel (rows.map fun r => row (r.drop front.length))])

/-- Shapes to choose from; choices nest no deeper than notation does. -/
def choice (ps : List Shape) : Shape := choiceWith maxDepth ps

/-- A repeated shape. -/
def many (body : Shape) (least : Nat) (most : Option Nat) (greedy : Bool) : Shape :=
  let matchesNothing := body.most? = some 0
  let least := if matchesNothing then min least 1 else least
  let most := if matchesNothing then some (min (most.getD 1) 1) else most
  if least = 0 ∧ most = some 0 then .empty
  else if least = 1 ∧ most = some 1 then body
  else .repeated body least most greedy

end Shape

mutual
/-- The shape of a tree. -/
def Tree.shape : Tree → Shape
  | .empty | .switch => .empty
  | .one s _ => .ofSet s
  | .place p => .place p
  | .group (some index) t => .capture index t.shape
  | .group none t => t.shape
  | .many t least most greedy => .many t.shape least most greedy
  | .row ts => .row (Tree.shapes ts)
  | .choice ts => .choice (Tree.shapes ts)

/-- The shapes of trees. -/
def Tree.shapes : List Tree → List Shape
  | [] => []
  | t :: ts => t.shape :: Tree.shapes ts
end

end Errand.Pattern
