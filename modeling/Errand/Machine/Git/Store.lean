import Errand.Machine.Files

/-!
# Errand — what a repository keeps

The commits of all repositories of the machine stand in one list and are told
apart by their place in it; each repository knows which of them it holds, and
has an index of what is staged. References, settings and hooks are files.

* `Blob`, `Tree`, `Commit` — files, their collections, and commits.
* `Index`                  — what is staged, path by path.
* `Store`                  — the commits, and what each repository keeps.
-/

namespace Errand.Machine.Git

/-- A file as a repository keeps it. -/
structure Blob where
  content : String
  executable : Bool := false
  deriving DecidableEq, Inhabited, Repr

/-- Files by their paths, sorted by path. -/
abbrev Tree := List (String × Blob)

/-- A commit: its files, the commits it follows, and its message. -/
structure Commit where
  tree : Tree
  parents : List Nat
  message : String
  deriving DecidableEq, Inhabited, Repr

/-- What is staged for a path. -/
inductive Staged where
  | blob (b : Blob)
  /-- A path that a merge could not settle: the common version and both sides. -/
  | conflict (base ours theirs : Option Blob)
  deriving DecidableEq, Inhabited, Repr

/-- What is staged, sorted by path. -/
abbrev Index := List (String × Staged)

/-- What one repository keeps beside its files. -/
structure Vault where
  index : Index := []
  /-- The commits that it holds. -/
  known : List Nat := []
  /-- What was checked out before, as it was named. -/
  previous : Option String := none
  /-- Changes put aside, the latest first. -/
  shelf : List (Index × Tree) := []
  deriving Inhabited

/-- The commits of all repositories, and what each of them keeps. -/
structure Store where
  commits : Array Commit := #[]
  vaults : List (Path × Vault) := []
  deriving Inhabited

-- ---------------------------------------------------------------------------
-- Collections sorted by path
-- ---------------------------------------------------------------------------

variable {α : Type}

/-- The value at a path. -/
def valueAt (path : String) (entries : List (String × α)) : Option α :=
  (entries.find? fun e => e.1 = path).map Prod.snd

/-- Puts a value in its place by path; a value at that path gives way. -/
def putAt (path : String) (value : α) : List (String × α) → List (String × α)
  | [] => [(path, value)]
  | (other, old) :: rest =>
    if path = other then (path, value) :: rest
    else if path < other then (path, value) :: (other, old) :: rest
    else (other, old) :: putAt path value rest

/-- Takes the value at a path out. -/
def dropAt (path : String) (entries : List (String × α)) : List (String × α) :=
  entries.filter fun e => e.1 ≠ path

/-- Sorts entries by path; of two at one path the later stays. -/
def sortByPath (entries : List (String × α)) : List (String × α) :=
  entries.foldl (fun sorted (path, value) => putAt path value sorted) []

/-- The paths of several collections, each once and in order. -/
def pathsOf (collections : List (List String)) : List String :=
  (sortByPath (collections.flatten.map fun path => (path, ()))).map Prod.fst

-- ---------------------------------------------------------------------------
-- Commits
-- ---------------------------------------------------------------------------

namespace Store

/-- The commit of a number. -/
def commit? (s : Store) (id : Nat) : Option Commit := s.commits[id]?

/-- The files of a commit. -/
def treeOf (s : Store) (id : Nat) : Tree := ((s.commit? id).map Commit.tree).getD []

/-- Adds a commit. -/
def add (s : Store) (c : Commit) : Nat × Store :=
  (s.commits.size, { s with commits := s.commits.push c })

/-- The commits met on the way back from some commits, which are entered once each. -/
def walk (s : Store) (fuel : Nat) (todo seen : List Nat) : List Nat :=
  match fuel, todo with
  | 0, _ | _, [] => seen.reverse
  | fuel + 1, id :: todo =>
    if seen.contains id then walk s fuel todo seen
    else
      let parents := ((s.commit? id).map Commit.parents).getD []
      walk s fuel (todo ++ parents) (id :: seen)

/-- A commit and all that it follows. -/
def history (s : Store) (id : Nat) : List Nat :=
  walk s (4 * s.commits.size + 4) [id] []

/-- `later` follows `earlier`, or is the same commit. -/
def follows (s : Store) (later earlier : Nat) : Bool := (s.history later).contains earlier

/-- The best common ancestors of two commits: no other common ancestor follows one of them. -/
def mergeBases (s : Store) (a b : Nat) : List Nat :=
  let ofB := s.history b
  let common := (s.history a).filter ofB.contains
  common.filter fun c => common.all fun d => d = c || !s.follows d c

/-- What a repository keeps. -/
def vault (s : Store) (repository : Path) : Vault :=
  ((s.vaults.find? fun v => v.1 = repository).map Prod.snd).getD {}

/-- Changes what a repository keeps. -/
def setVault (s : Store) (repository : Path) (v : Vault) : Store :=
  { s with vaults := (repository, v) :: s.vaults.filter fun old => old.1 ≠ repository }

end Store

-- ---------------------------------------------------------------------------
-- Names of commits
-- ---------------------------------------------------------------------------

/-- The forty digits that name a commit. -/
def hexName (id : Nat) : String :=
  let digits := Nat.toDigits 16 (id + 1)
  String.ofList (List.replicate (40 - digits.length) '0' ++ digits)

/-- The value of a hexadecimal digit. -/
def hexDigit? (c : Char) : Option Nat :=
  if '0' ≤ c ∧ c ≤ '9' then some (c.toNat - '0'.toNat)
  else if 'a' ≤ c ∧ c ≤ 'f' then some (c.toNat - 'a'.toNat + 10)
  else none

/-- The commit that forty digits name. -/
def ofHexName? (name : String) : Option Nat := do
  let digits ← name.toList.mapM hexDigit?
  let n := digits.foldl (fun n d => n * 16 + d) 0
  if digits.length = 40 ∧ 0 < n then some (n - 1) else none

end Errand.Machine.Git
