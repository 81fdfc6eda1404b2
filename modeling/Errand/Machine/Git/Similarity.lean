import Errand.Machine.Git.Store

/-!
# Errand — renamed files

A file that is gone and a file that is new are taken for one renamed file if
they are alike enough: equal ones first, then those with the most in common,
which has to be half of the larger one.

* `Similarity.score`   — how much of a file is found in another, of 60000.
* `Similarity.renames` — which new file comes from which old one.
-/

namespace Errand.Machine.Git.Similarity

/-- The score of equal files. -/
def full : Nat := 60000

/-- The least score of a renamed file. -/
def least : Nat := 30000

/-- The pieces of a text: its lines, cut after 64 characters. -/
def pieces (fuel : Nat) (cs : List Char) : List (List Char) :=
  match fuel, cs with
  | 0, _ | _, [] => []
  | fuel + 1, cs =>
    let line := cs.takeWhile (· ≠ '\n')
    let size := min (line.length + 1) 64
    cs.take size :: pieces fuel (cs.drop size)

/-- The pieces of a text, each with the characters that all its copies have together. -/
def weights (content : String) : List (List Char × Nat) :=
  let cs := content.toList
  (pieces (cs.length + 1) cs).foldl
    (fun found piece =>
      match found.find? fun f => f.1 = piece with
      | some (_, n) => (piece, n + piece.length) :: found.filter fun f => f.1 ≠ piece
      | none => (piece, piece.length) :: found)
    []

/-- How much of one file is found in another. -/
def score (a b : String) : Nat :=
  if a = b then full
  else
    let most := max a.length b.length
    let least := min a.length b.length
    if a.isEmpty ∨ b.isEmpty ∨ most * (full - Similarity.least) < (most - least) * full then 0
    else
      let ofB := weights b
      let common := (weights a).foldl
        (fun n (piece, size) =>
          n + min size (((ofB.find? fun f => f.1 = piece).map Prod.snd).getD 0))
        0
      common * full / most

/-- The last name of a path. -/
def lastName (path : String) : String := ((path.splitOn "/").getLast?).getD path

/-- The pairs of an old and a new file that are equal; equal names come first. -/
def equals (old new : Tree) : List (String × String) :=
  (new.foldl
    (fun (state : List (String × String) × Tree) (path, blob) =>
      let (found, old) := state
      let alike := old.filter fun o => o.2.content = blob.content && !blob.content.isEmpty
      let best := (alike.find? fun o => lastName o.1 = lastName path).orElse fun _ => alike.head?
      match best with
      | some (source, _) => (found ++ [(source, path)], old.filter fun o => o.1 ≠ source)
      | none => (found, old))
    ([], old)).1

/-- Pairs picked by their scores, the best first; every file is in one pair at most. -/
def pick (fuel : Nat) (scored : List (Nat × String × String)) : List (String × String) :=
  match fuel, scored with
  | 0, _ | _, [] => []
  | fuel + 1, (_, source, target) :: rest =>
    (source, target) :: pick fuel (rest.filter fun s => s.2.1 ≠ source && s.2.2 ≠ target)

/-- Which new file comes from which old one: pairs of an old path and a new one. -/
def renames (old new : Tree) : List (String × String) :=
  let same := equals old new
  let old := old.filter fun o => !same.any fun s => s.1 = o.1
  let new := new.filter fun n => !same.any fun s => s.2 = n.1
  let scored := old.flatMap fun o => new.filterMap fun n =>
    let s := score o.2.content n.2.content
    if least ≤ s then some (s, o.1, n.1) else none
  let sorted := scored.mergeSort fun a b => decide (b.1 ≤ a.1)
  same ++ pick (sorted.length + 1) sorted

end Errand.Machine.Git.Similarity
