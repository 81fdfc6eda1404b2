import Errand.Pattern.CharSet
import Errand.Text.CaseTable
import Std.Data.HashSet

/-!
# Errand — characters that differ in case only

Every letter has a fold, which is its lower case but for a few letters. Two
characters are equal but for case if they have the same fold.

* `foldPairs`       — the letters that another letter is the fold of.
* `CharSet.anyCase` — a set with all that equals a member but for case.
-/

namespace Errand.Pattern

/-- Letters whose fold is not their lower case, with the fold. -/
def foldExceptions : List (Nat × Nat) :=
  [(0xB5, 0x3BC), (0x17F, 0x73), (0x345, 0x3B9), (0x3C2, 0x3C3), (0x3D0, 0x3B2), (0x3D1, 0x3B8),
   (0x3D5, 0x3C6), (0x3D6, 0x3C0), (0x3F0, 0x3BA), (0x3F1, 0x3C1), (0x3F5, 0x3B5),
   (0x1C80, 0x432), (0x1C81, 0x434), (0x1C82, 0x43E), (0x1C83, 0x441), (0x1C84, 0x442),
   (0x1C85, 0x442), (0x1C86, 0x44A), (0x1C87, 0x463), (0x1C88, 0xA64B), (0x1E9B, 0x1E61),
   (0x1FBE, 0x3B9), (0x1FD3, 0x390), (0x1FE3, 0x3B0), (0xFB06, 0xFB05)]

/-- Capital letters that are newer than the folds, so that they have none. -/
def unfoldedRanges : List (Nat × Nat) :=
  [(0xA7CE, 0xA7CF), (0xA7D2, 0xA7D5), (0x16EA0, 0x16ED3)]

/-- The letters of a run of case mappings with their folds. -/
def runPairs (r : Text.CaseRange) : List (Nat × Nat) :=
  let count := (r.last - r.first) / r.stride + 1
  let sources := (List.range count).map fun k => r.first + k * r.stride
  (sources.filter fun code => !Text.inRanges unfoldedRanges code).map fun code =>
    (code, ((code : Int) + r.delta).toNat)

/-- The letters that are not their own fold, with their folds. -/
def foldPairs : List (Nat × Nat) := Text.lowerRanges.flatMap runPairs ++ foldExceptions

/-- The letters of ASCII that are not their own fold, with their folds. -/
def asciiFoldPairs : List (Nat × Nat) := foldPairs.filter fun p => p.1 ≤ 0x7F

/-- A set with all that has the fold of a member, by some letters with their folds. -/
def CharSet.closedUnder (pairs : List (Nat × Nat)) (s : CharSet) : CharSet :=
  let isMember (code : Nat) : Bool := Text.inRanges s.ranges code
  let folds := pairs.filterMap fun p => if isMember p.1 || isMember p.2 then some p.2 else none
  let known : Std.HashSet Nat := folds.foldl (·.insert ·) ∅
  let sources := pairs.filterMap fun p => if known.contains p.2 then some p.1 else none
  let news := (folds ++ sources).filter fun code => !isMember code
  .ofRanges (s.ranges ++ news.map fun code => (code, code))

/-- A set with all that equals a member but for case. -/
def CharSet.anyCase (s : CharSet) : CharSet := s.closedUnder foldPairs

/-- A set with all that equals a member but for the case of an ASCII letter. -/
def CharSet.anyAsciiCase (s : CharSet) : CharSet := s.closedUnder asciiFoldPairs

end Errand.Pattern
