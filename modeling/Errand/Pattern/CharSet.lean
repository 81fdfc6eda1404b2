import Errand.Text.Ranges

/-!
# Errand — sets of characters

A set of characters is a list of ranges of code points in order, of which no
two touch.

* `CharSet`           — the sets.
* `CharSet.ofRanges`  — the set with ranges in any order.
* `CharSet.has`       — membership.
* `CharSet.complement`, `CharSet.union`, `CharSet.inter`, `CharSet.diff`,
  `CharSet.symmetricDiff` — the operations.
-/

namespace Errand.Pattern

/-- A set of characters. -/
structure CharSet where
  ranges : List (Nat × Nat)
  deriving DecidableEq, Inhabited, Repr

/-- The largest code point. -/
def lastCode : Nat := 0x10FFFF

-- ---------------------------------------------------------------------------
-- Ranges in order
-- ---------------------------------------------------------------------------

/-- A range and the ones behind it, in order of their starts, with those that touch made one. -/
def mergedFrom (r : Nat × Nat) : List (Nat × Nat) → List (Nat × Nat)
  | [] => [r]
  | s :: rest =>
    if s.1 ≤ r.2 + 1 then mergedFrom (r.1, max r.2 s.2) rest else r :: mergedFrom s rest

/-- Ranges in order of their starts, with those that touch made one. -/
def merged : List (Nat × Nat) → List (Nat × Nat)
  | [] => []
  | r :: rest => mergedFrom r rest

/-- Puts a range in front of the first one that does not start before it. -/
def insertRange (r : Nat × Nat) : List (Nat × Nat) → List (Nat × Nat)
  | [] => [r]
  | s :: rest => if r.1 ≤ s.1 then r :: s :: rest else s :: insertRange r rest

/-- The ranges between the given ones, which are in order, from a code point on. -/
def gaps (start : Nat) : List (Nat × Nat) → List (Nat × Nat)
  | [] => if start ≤ lastCode then [(start, lastCode)] else []
  | (low, high) :: rest =>
    (if start < low then [(start, low - 1)] else []) ++ gaps (high + 1) rest

namespace CharSet

/-- The set with some ranges; one that ends before it starts is empty. -/
def ofRanges (rs : List (Nat × Nat)) : CharSet :=
  ⟨merged ((rs.filter fun r => r.1 ≤ r.2).foldr insertRange [])⟩

/-- A character is a member of a set. -/
def has (s : CharSet) (c : Char) : Bool := Text.inRanges s.ranges c.toNat

/-- The set of a single character. -/
def single (c : Char) : CharSet := ⟨[(c.toNat, c.toNat)]⟩

/-- The set of no character. -/
def empty : CharSet := ⟨[]⟩

/-- The set of every character. -/
def all : CharSet := ⟨[(0, lastCode)]⟩

-- ---------------------------------------------------------------------------
-- Operations
-- ---------------------------------------------------------------------------

/-- Every character outside a set. -/
def complement (s : CharSet) : CharSet := ⟨gaps 0 s.ranges⟩

/-- Every character in one set or the other. -/
def union (a b : CharSet) : CharSet := ofRanges (a.ranges ++ b.ranges)

/-- Every character in both sets. -/
def inter (a b : CharSet) : CharSet := (union a.complement b.complement).complement

/-- Every character in the first set and outside the second. -/
def diff (a b : CharSet) : CharSet := inter a b.complement

/-- Every character in just one of two sets. -/
def symmetricDiff (a b : CharSet) : CharSet := diff (union a b) (inter a b)

/-- A set holds nothing but ASCII characters. -/
def isAscii (s : CharSet) : Bool := s.ranges.all fun r => r.2 ≤ 0x7F

end CharSet

end Errand.Pattern
