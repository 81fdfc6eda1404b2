import Errand.Machine.Git.WorkTree

/-!
# Errand — names of commits

How commits are named: by references under several abbreviations, by their
digits, and by steps back from another name.

* `revision?`     — the commit that a name means.
* `shortName`     — the shortest name of a reference that means nothing else.
* `subject`       — the first paragraph of a message, in a line.
-/

namespace Errand.Machine.Git

open Work

-- ---------------------------------------------------------------------------
-- References
-- ---------------------------------------------------------------------------

/-- The references that a name may be short for, in order. -/
def expansions (name : String) : List String :=
  [name, "refs/" ++ name, "refs/tags/" ++ name, "refs/heads/" ++ name, "refs/remotes/" ++ name,
    "refs/remotes/" ++ name ++ "/HEAD"]

/-- A name stands for a file of references and not for another file of the repository. -/
def mayBeReference (name : String) : Bool :=
  name.startsWith "refs/" || name.toList.all fun c => c.isUpper || c = '_'

/-- The references that a name is short for and that exist. -/
def matching (files : Files) (dir : Path) (name : String) : List String :=
  if name.isEmpty then []
  else (expansions name).filter fun full =>
    mayBeReference full && (reference? files dir full).isSome

/-- The shortest name of a reference that is short for nothing else. -/
def shortName (files : Files) (dir : Path) (full : String) : String :=
  let candidates :=
    [("refs/tags/", "tags/"), ("refs/heads/", "heads/"), ("refs/remotes/", "remotes/")]
  match candidates.find? fun c => full.startsWith c.1 with
  | none => full
  | some (start, longer) =>
    let name := (full.drop start.length).toString
    let others := (matching files dir name).filter (· ≠ full)
    if others.isEmpty then name else longer ++ name

-- ---------------------------------------------------------------------------
-- Names of commits
-- ---------------------------------------------------------------------------

/-- A step back from a commit. -/
inductive Step where
  /-- To a parent, counted from one. -/
  | parent (n : Nat)
  /-- To the commit itself, whatever stands for it. -/
  | self
  deriving DecidableEq, Inhabited, Repr

/-- A name and the steps after it. -/
def stepsOf (fuel : Nat) (cs : List Char) : Option (List Step) :=
  match fuel, cs with
  | 0, _ => none
  | _, [] => some []
  | fuel + 1, '^' :: '\x7b' :: rest =>
    (stepsOf fuel ((rest.dropWhile (· ≠ '\x7d')).drop 1)).map (Step.self :: ·)
  | fuel + 1, '^' :: rest =>
    let digits := rest.takeWhile Char.isDigit
    let n := ((String.ofList digits).toNat?).getD 1
    (stepsOf fuel (rest.drop digits.length)).map
      ((if n = 0 then Step.self else .parent n) :: ·)
  | fuel + 1, '~' :: rest =>
    let digits := rest.takeWhile Char.isDigit
    let n := ((String.ofList digits).toNat?).getD 1
    (stepsOf fuel (rest.drop digits.length)).map (List.replicate n (Step.parent 1) ++ ·)
  | _, _ => none

/-- Follows steps back from a commit. -/
def follow (s : Store) (id : Nat) : List Step → Option Nat
  | [] => some id
  | .self :: rest => follow s id rest
  | .parent n :: rest => do
    let c ← s.commit? id
    let parent ← c.parents[n - 1]?
    follow s parent rest

/-- The commit that a name without steps means. -/
def named? (files : Files) (dir : Path) (s : Store) (name : String) : Option Nat :=
  let name := if name = "@" then "HEAD" else name
  match matching files dir name with
  | full :: _ => reference? files dir full
  | [] =>
    match ofHexName? name with
    | some id => if id < s.commits.size then some id else none
    | none => none

/-- The commit that a name means. -/
def revisionIn (files : Files) (dir : Path) (s : Store) (name : String) : Option Nat := do
  let (start, rest) := name.toList.span fun c => c ≠ '^' && c ≠ '~'
  let id ← named? files dir s (String.ofList start)
  let steps ← stepsOf (rest.length + 1) rest
  follow s id steps

/-- The commit that a name means. -/
def revision? (name : String) : Work (Option Nat) := do
  return revisionIn (← files) (← read).repo.dir (← store) name

/-- Warns of a name that is short for more than one reference. -/
def warnAmbiguous (name : String) : Work Unit := do
  if 1 < (matching (← files) (← read).repo.dir name).length then
    err ("warning: refname '" ++ name ++ "' is ambiguous.")

/-- The commit that a branch names. -/
def branch? (name : String) : Work (Option Nat) := do
  if name.isEmpty then return none
  return reference? (← files) (← read).repo.dir ("refs/heads/" ++ name)

/-- A part of the name of a reference is well formed. -/
def isNamePart (part : String) : Bool :=
  !part.isEmpty && !part.startsWith "." && !part.endsWith ".lock"

/-- A name may be that of a reference. -/
def isReferenceName (name : String) : Bool :=
  let bad (c : Char) : Bool :=
    c.toNat ≤ 32 || c.toNat = 127 || "~^:?*[\\".toList.contains c
  name ≠ "@" && !name.toList.any bad && !name.endsWith "." && (name.splitOn "..").length = 1 &&
    (name.splitOn "@\x7b").length = 1 && (name.splitOn "/").all isNamePart

/-- A name may be that of a branch. -/
def isBranchName (name : String) : Bool :=
  !name.startsWith "-" && name ≠ "HEAD" && isReferenceName name

-- ---------------------------------------------------------------------------
-- Messages
-- ---------------------------------------------------------------------------

/-- A line without the blanks at its end. -/
def trimmedEnd (line : String) : String :=
  String.ofList (line.toList.reverse.dropWhile Char.isWhitespace).reverse

/-- A message with single blank lines only, and none at its ends. -/
def cleaned (message : String) : String :=
  let lines := (message.splitOn "\n").map trimmedEnd
  let lines := lines.dropWhile String.isEmpty
  let step (line : String) (rest : List String) : List String :=
    if line.isEmpty ∧ (rest.headD "").isEmpty then rest else line :: rest
  let lines := lines.foldr step []
  if lines.isEmpty then "" else String.intercalate "\n" lines ++ "\n"

/-- The first paragraph of a message, in a line. -/
def subject (message : String) : String :=
  let lines := (message.splitOn "\n").map trimmedEnd
  String.intercalate " " ((lines.dropWhile String.isEmpty).takeWhile fun line => !line.isEmpty)

/-- The message after its first paragraph. -/
def body (message : String) : String :=
  let lines := (message.splitOn "\n").dropWhile String.isEmpty
  let rest := (lines.dropWhile fun line => !line.isEmpty).dropWhile String.isEmpty
  String.intercalate "\n" rest

/-- The first digits of the name of a commit. -/
def abbreviated (id : Nat) : String := String.ofList ((hexName id).toList.reverse.take 7).reverse

end Errand.Machine.Git
