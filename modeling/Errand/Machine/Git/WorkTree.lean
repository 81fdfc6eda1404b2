import Errand.Machine.Git.Ignore
import Errand.Machine.Git.Repository
import Errand.Machine.Git.Similarity

/-!
# Errand — the files of a repository

The files below the top of a repository, as they are found and as they are
written.

* `quotedPath`             — a path as a report shows it.
* `found`, `untracked`     — the files that are there, and those not yet kept.
* `writeEntry`, `dropEntry` — changes to the files.
* `statusLines`            — what differs from the index, and that from the commit.
-/

namespace Errand.Machine.Git

open Work

-- ---------------------------------------------------------------------------
-- Paths
-- ---------------------------------------------------------------------------

/-- A path below the top, as it is written. -/
def written (path : Path) : String := String.intercalate "/" path

/-- The three digits of base eight that stand for a byte. -/
def octalDigits (n : Nat) : List Char :=
  [n / 64, n / 8 % 8, n % 8].map fun d => Char.ofNat (d + 48)

/-- A character of a path inside quotes. -/
def quotedChar (c : Char) : List Char :=
  match c with
  | '"' => ['\\', '"']
  | '\\' => ['\\', '\\']
  | '\n' => ['\\', 'n']
  | '\t' => ['\\', 't']
  | '\r' => ['\\', 'r']
  | c =>
    if c.toNat = 7 then ['\\', 'a']
    else if c.toNat = 8 then ['\\', 'b']
    else if c.toNat = 11 then ['\\', 'v']
    else if c.toNat = 12 then ['\\', 'f']
    else if c.toNat < 32 ∨ 127 ≤ c.toNat then '\\' :: octalDigits c.toNat
    else [c]

/-- A path as a report shows it: with quotes if it has unusual characters. -/
def quotedPath (spacesCount : Bool) (path : String) : String :=
  let unusual (c : Char) : Bool :=
    c = '"' || c = '\\' || c.toNat < 32 || 127 ≤ c.toNat || (spacesCount && c = ' ')
  if path.toList.any unusual then
    "\"" ++ String.ofList (path.toList.flatMap quotedChar) ++ "\""
  else path

/-- The path below the top that an argument means, from the directory of the process. -/
def argumentPath (argument : String) : Work Path := do
  if argument.isEmpty then
    fatal ("empty string is not a valid pathspec. " ++
      "please use . instead if you meant to match all paths")
  let root ← top
  let path := (← read).process.path argument
  if !root.isPrefixOf path then
    fatal (argument ++ ": '" ++ argument ++ "' is outside repository at '" ++ Path.text root ++ "'")
  return path.drop root.length

/-- A path is another one, or lies below it. -/
def within (directory path : Path) : Bool := directory.isPrefixOf path

-- ---------------------------------------------------------------------------
-- The files that are there
-- ---------------------------------------------------------------------------

/-- A path is staged as one that can be run. -/
def executableAt (path : String) (i : Index) : Bool :=
  match valueAt path i with
  | some (.blob b) => b.executable
  | _ => false

/-- The directories below the top that are repositories of their own. -/
def nested (files : Files) (top : Path) : List Path :=
  ((files.below top).filterMap fun (path, _, _) =>
    let above := path.takeWhile (· ≠ ".git")
    if above.isEmpty ∨ above = path ∨ !isRepository files (top ++ above ++ [".git"]) then none
    else some above).eraseDups

/-- The files below a directory, those of repositories excepted. -/
def foundIn (files : Files) (top : Path) : Tree :=
  let others := nested files top
  sortByPath ((files.below top).filterMap fun (path, content, executable) =>
    if path.contains ".git" ∨ others.any fun other => within other path then none
    else some (written path, ⟨content, executable⟩))

/-- The files that are there. -/
def found : Work Tree := do
  let files ← files
  let all := foundIn files (← top)
  if setting? files (← read).repo.dir "core.filemode" ≠ some "false" then return all
  else
    let i ← index
    return all.map fun (path, b) => (path, { b with executable := executableAt path i })

/-- A path that was found is ignored. -/
def isIgnored (path : Path) (isDirectory : Bool) : Work Bool := do
  return Ignore.holds (← files) (← read).repo.dir (← top) path isDirectory

/-- The paths of an index. -/
def Index.paths (i : Index) : List String := i.map Prod.fst

/--
Files that are there, not kept, and not ignored. A repository below the top
stands for its files, with a slash after its name.
-/
def untracked : Work (List String) := do
  let i ← index
  let others := (nested (← files) (← top)).map fun path => written path ++ "/"
  let paths := pathsOf [(← found).map Prod.fst, others]
  paths.filterMapM fun path => do
    if i.any fun e => e.1 = path then return none
    else if ← isIgnored (Path.names path) (path.endsWith "/") then return none
    else return some path

/-- Untracked files as a report shows them: a directory without other files stands for its own. -/
def shownUntracked (i : Index) (paths : List String) : List String :=
  let kept := i.paths.map Path.names
  let shown := paths.map fun path =>
    let names := Path.names path
    let top := (List.range names.length).find? fun n =>
      0 < n && !kept.any fun other => within (names.take n) other
    match top with
    | some n => written (names.take n) ++ "/"
    | none => path
  shown.eraseDups

-- ---------------------------------------------------------------------------
-- Changes
-- ---------------------------------------------------------------------------

/-- Removes the directories above a path that are left empty, up to the top. -/
def pruned (top : Path) (path : Path) (files : Files) : Files :=
  (List.range path.length).reverse.foldl
    (fun files n =>
      let directory := top ++ path.take n
      if 0 < n ∧ files.isDirectory directory ∧ (files.children directory).isEmpty then
        files.remove directory
      else files)
    files

/-- Writes a file below the top; whatever is in its way is removed. -/
def writeEntry (path : String) (b : Blob) : Work Unit := do
  let names := Path.names path
  let place := (← top) ++ names
  let root ← top
  alter fun files =>
    let files := (List.range names.length).foldl
      (fun files n =>
        let above := root ++ names.take n
        if files.isFile above then files.remove above else files)
      files
    let files := if files.isDirectory place then files.remove place else files
    (files.makePath place.dropLast).put place (.file b.content b.executable)

/-- Removes a file below the top. -/
def dropEntry (path : String) : Work Unit := do
  let root ← top
  let names := Path.names path
  alter fun files =>
    if files.isFile (root ++ names) then pruned root names (files.remove (root ++ names))
    else files

-- ---------------------------------------------------------------------------
-- Status
-- ---------------------------------------------------------------------------

/-- The two letters of a path that a merge could not settle. -/
def conflictLetters (base ours theirs : Option Blob) : String :=
  match base.isSome, ours.isSome, theirs.isSome with
  | true, false, false => "DD"
  | false, true, false => "AU"
  | true, true, false => "UD"
  | false, false, true => "UA"
  | true, false, true => "DU"
  | false, true, true => "AA"
  | _, _, _ => "UU"

/-- How a file differs from an earlier one, as a letter. -/
def changeLetter (before after : Option Blob) : String :=
  match before, after with
  | none, some _ => "A"
  | some _, none => "D"
  | some a, some b => if a = b then " " else "M"
  | none, none => " "

/-- The renamed files between two collections. -/
def renamedBetween (old new : Tree) : List (String × String) :=
  Similarity.renames (old.filter fun o => (valueAt o.1 new).isNone)
    (new.filter fun n => (valueAt n.1 old).isNone)

/-- A line of the status, for paths that are kept. -/
def statusOf (head : Tree) (i : Index) (work : Tree) (renames : List (String × String))
    (path : String) : Option String :=
  let quoted := quotedPath true
  match valueAt path i with
  | some (.conflict base ours theirs) =>
    some (conflictLetters base ours theirs ++ " " ++ quoted path)
  | staged =>
    let entry := match staged with
      | some (.blob b) => some b
      | _ => none
    let second := match entry with
      | some b => match valueAt path work with
        | some w => if w = b then " " else "M"
        | none => "D"
      | none => " "
    if renames.any fun r => r.1 = path then none
    else
      match renames.find? fun r => r.2 = path with
      | some (source, _) => some ("R" ++ second ++ " " ++ quoted source ++ " -> " ++ quoted path)
      | none =>
        let first := changeLetter (valueAt path head) entry
        if first = " " ∧ second = " " then none
        else some (first ++ second ++ " " ++ quoted path)

/-- The lines of the status: paths that are kept, then those that are not. -/
def statusLines : Work (List String) := do
  let head ← headTree
  let i ← index
  let work ← found
  let unmerged := Index.unmerged i
  let renames := renamedBetween (head.filter fun e => !unmerged.contains e.1) (Index.tree i)
  let paths := pathsOf [head.map Prod.fst, i.paths]
  let kept := paths.filterMap (statusOf head i work renames)
  let hides := setting? (← files) (← read).repo.dir "status.showuntrackedfiles" = some "no"
  let new ← untracked
  let new := if hides then [] else shownUntracked i new
  return kept ++ new.map fun path => "?? " ++ quotedPath true path

end Errand.Machine.Git
