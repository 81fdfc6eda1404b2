import Errand.Machine.Git.Similarity
import Errand.Machine.Git.TextMerge

/-!
# Errand — merging files

What two collections of files made of a common one are put together, path by
path. A path that only one side changed is taken from that side; what both
changed is put together line by line. A file that one side renamed is followed.

* `TreeMerge.Outcome` — the files, the conflicts, and what is said of them.
* `TreeMerge.merge`   — two collections put together.
-/

namespace Errand.Machine.Git.TreeMerge

open TextMerge (Sides)

/-- What became of a path. -/
structure Entry where
  path : String
  /-- The file that is left at the path. -/
  result : Option Blob
  /-- The common version and both sides, if they could not be put together. -/
  conflict : Option (Option Blob × Option Blob × Option Blob) := none
  /-- What is said of the path. -/
  remarks : List String := []
  deriving Inhabited

/-- What became of all paths. -/
structure Outcome where
  entries : List Entry := []
  deriving Inhabited

namespace Outcome

/-- The files that are left, those in conflict among them. -/
def files (o : Outcome) : Tree :=
  o.entries.filterMap fun e => e.result.map fun b => (e.path, b)

/-- What is staged afterwards. -/
def index (o : Outcome) : Index :=
  o.entries.filterMap fun e =>
    match e.conflict, e.result with
    | some (base, ours, theirs), _ => some (e.path, .conflict base ours theirs)
    | none, some b => some (e.path, .blob b)
    | none, none => none

/-- Nothing is in conflict. -/
def isClean (o : Outcome) : Bool := o.entries.all fun e => e.conflict.isNone

/-- All that is said, path by path. -/
def remarks (o : Outcome) : List String := o.entries.flatMap Entry.remarks

end Outcome

-- ---------------------------------------------------------------------------
-- Single paths
-- ---------------------------------------------------------------------------

/-- A file whose content is no text. -/
def isBinary (b : Blob) : Bool := (b.content.toList.take 8000).contains (Char.ofNat 0)

/-- The sides of a merge, as the marks in a file name them. -/
def sidesAt (sides : Sides) (oursPath theirsPath path : String) : Sides :=
  if oursPath = path ∧ theirsPath = path then sides
  else ⟨sides.ours ++ ":" ++ oursPath, sides.theirs ++ ":" ++ theirsPath⟩

/-- Two files at a path put together. -/
def mergeFiles (sides : Sides) (path : String) (base : Option Blob) (ours theirs : Blob) :
    Entry :=
  let common := (base.map Blob.content).getD ""
  let executable :=
    if (base.map Blob.executable) = some ours.executable then theirs.executable else ours.executable
  let kind := if base.isSome then "content" else "add/add"
  let conflictRemark := "CONFLICT (" ++ kind ++ "): Merge conflict in " ++ path
  let clash (result : Blob) (remarks : List String) : Entry :=
    ⟨path, some result, some (base, some ours, some theirs), remarks⟩
  if ours.content = theirs.content then ⟨path, some ⟨ours.content, executable⟩, none, []⟩
  else if (base.map Blob.content) = some ours.content then
    ⟨path, some ⟨theirs.content, executable⟩, none, []⟩
  else if (base.map Blob.content) = some theirs.content then
    ⟨path, some ⟨ours.content, executable⟩, none, []⟩
  else if isBinary ours || isBinary theirs || base.any isBinary then
    clash ours
      ["warning: Cannot merge binary files: " ++ path ++ " (" ++ sides.ours ++ " vs. " ++
        sides.theirs ++ ")", "Auto-merging " ++ path, conflictRemark]
  else
    let (text, cleanly) := TextMerge.merge sides common ours.content theirs.content
    let result : Blob := ⟨text, executable⟩
    if cleanly then ⟨path, some result, none, ["Auto-merging " ++ path]⟩
    else clash result ["Auto-merging " ++ path, conflictRemark]

/-- A file that one side changed and the other removed. -/
def removedAndChanged (sides : Sides) (path : String) (base : Blob) (ours theirs : Option Blob) :
    Entry :=
  let (remover, changer) :=
    if ours.isNone then (sides.ours, sides.theirs) else (sides.theirs, sides.ours)
  ⟨path, ours.orElse fun _ => theirs, some (some base, ours, theirs),
    ["CONFLICT (modify/delete): " ++ path ++ " deleted in " ++ remover ++ " and modified in " ++
      changer ++ ".  Version " ++ changer ++ " of " ++ path ++ " left in tree."]⟩

/-- What becomes of a path. -/
def mergeAt (sides : Sides) (path : String) (base ours theirs : Option Blob) : Entry :=
  if ours = theirs then ⟨path, ours, none, []⟩
  else if base = ours then ⟨path, theirs, none, []⟩
  else if base = theirs then ⟨path, ours, none, []⟩
  else
    match base, ours, theirs with
    | base, some a, some b => mergeFiles sides path base a b
    | some base, ours, theirs => removedAndChanged sides path base ours theirs
    | none, ours, theirs => ⟨path, ours.orElse fun _ => theirs, none, []⟩

-- ---------------------------------------------------------------------------
-- Renamed files
-- ---------------------------------------------------------------------------

/-- The three collections of a merge. -/
structure Triple where
  base : Tree
  ours : Tree
  theirs : Tree
  deriving Inhabited

/-- The files that a side renamed: old and new paths. -/
def renamed (base side : Tree) : List (String × String) :=
  let old := base.filter fun o => (valueAt o.1 side).isNone && !o.2.content.isEmpty
  let new := side.filter fun n => (valueAt n.1 base).isNone && !n.2.content.isEmpty
  Similarity.renames old new

/-- Follows a file that our side renamed: the other versions move to its new path. -/
def followOurs (t : Triple) (r : String × String) : Triple :=
  match valueAt r.1 t.base, valueAt r.1 t.theirs with
  | some old, some other =>
    if old = other ∨ (valueAt r.2 t.theirs).isSome then t
    else
      { t with
        base := putAt r.2 old (dropAt r.1 t.base),
        theirs := putAt r.2 other (dropAt r.1 t.theirs) }
  | _, _ => t

/-- Follows a file that their side renamed. -/
def followTheirs (t : Triple) (r : String × String) : Triple :=
  let swapped := followOurs ⟨t.base, t.theirs, t.ours⟩ r
  ⟨swapped.base, swapped.theirs, swapped.ours⟩

/-- Files that one side renamed and the other removed. -/
def renamedAndRemoved (sides : Sides) (t : Triple) (ours : Bool) (r : String × String) :
    Option Entry := do
  let (side, other) := if ours then (t.ours, t.theirs) else (t.theirs, t.ours)
  let (renamer, remover) := if ours then (sides.ours, sides.theirs) else (sides.theirs, sides.ours)
  let old ← valueAt r.1 t.base
  let new ← valueAt r.2 side
  if (valueAt r.1 other).isSome ∨ (valueAt r.2 other).isSome then none
  else
    let remark := "CONFLICT (rename/delete): " ++ r.1 ++ " renamed to " ++ r.2 ++ " in " ++
      renamer ++ ", but deleted in " ++ remover ++ "."
    let more := if old = new then []
      else (removedAndChanged sides r.2 old (if ours then some new else none)
        (if ours then none else some new)).remarks
    some ⟨r.2, some new,
      some (some old, if ours then some new else none, if ours then none else some new),
      remark :: more⟩

/-- What becomes of a file that both sides renamed, each to a path of its own. -/
def renamedTwice (sides : Sides) (t : Triple) (source oursPath theirsPath : String) :
    Option (List Entry) := do
  let old ← valueAt source t.base
  let a ← valueAt oursPath t.ours
  let b ← valueAt theirsPath t.theirs
  let both := mergeFiles (sidesAt sides oursPath theirsPath source) source (some old) a b
  let merged := both.result.getD a
  let remark := "CONFLICT (rename/rename): " ++ source ++ " renamed to " ++ oursPath ++ " in " ++
    sides.ours ++ " and to " ++ theirsPath ++ " in " ++ sides.theirs ++ "."
  let touched := both.remarks.filter fun line => line.startsWith "Auto-merging"
  some
    [⟨source, none, some (some old, none, none), touched ++ [remark]⟩,
      ⟨oursPath, some merged, some (none, some merged, none), []⟩,
      ⟨theirsPath, some merged, some (none, none, some merged), []⟩]

/-- Two collections of files made of a common one, put together. -/
def merge (sides : Sides) (base ours theirs : Tree) : Outcome :=
  let oursRenamed := renamed base ours
  let theirsRenamed := renamed base theirs
  let t : Triple := ⟨base, ours, theirs⟩
  let both (r : String × String) (others : List (String × String)) : Bool := others.contains r
  let split := oursRenamed.flatMap fun r =>
    match theirsRenamed.find? fun other => other.1 = r.1 with
    | some other =>
      if other.2 = r.2 then [] else (renamedTwice sides t r.1 r.2 other.2).getD []
    | none => []
  let lost := split ++
    (oursRenamed.filter fun r => !both r theirsRenamed).filterMap
      (renamedAndRemoved sides t true) ++
    (theirsRenamed.filter fun r => !both r oursRenamed).filterMap
      (renamedAndRemoved sides t false)
  let t := oursRenamed.foldl followOurs t
  let t := theirsRenamed.foldl followTheirs t
  let t := (oursRenamed.filter fun r => both r theirsRenamed).foldl
    (fun (t : Triple) r => match valueAt r.1 t.base with
      | some old => { t with base := putAt r.2 old (dropAt r.1 t.base) }
      | none => t) t
  let entries := (pathsOf [t.base.map Prod.fst, t.ours.map Prod.fst, t.theirs.map Prod.fst]).map
    fun path => match lost.find? fun e => e.path = path with
      | some e => e
      | none =>
        mergeAt sides path (valueAt path t.base) (valueAt path t.ours) (valueAt path t.theirs)
  ⟨entries⟩

end Errand.Machine.Git.TreeMerge
