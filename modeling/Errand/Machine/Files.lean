/-!
# Errand — a tree of files

The files of the machine: every file and every directory under its path from
the root, with the text of its bytes and whether it may be run.

* `Path`, `Path.resolve` — paths, and what a written path means from a directory.
* `Files`                — the tree.
* `Files.find?`, `Files.put`, `Files.remove` — its operations.
-/

namespace Errand.Machine

/-- A path from the root, by its names. -/
abbrev Path := List String

namespace Path

/-- The written form of a path. -/
def text (p : Path) : String :=
  if p.isEmpty then "/" else String.join (p.map fun name => "/" ++ name)

/-- Follows one written name: a point stays, two points go up. -/
def follow (p : Path) (name : String) : Path :=
  if name = "" ∨ name = "." then p
  else if name = ".." then p.dropLast
  else p ++ [name]

/-- The names between the slashes of a written path. -/
def names (written : String) : List String := (written.splitOn "/").filter fun name => name ≠ ""

/-- The path that a written path means from a directory. -/
def resolve (directory : Path) (written : String) : Path :=
  (names written).foldl follow (if written.toList.head? = some '/' then [] else directory)

end Path

/-- What may stand in the tree. -/
inductive Entry where
  | file (content : String) (executable : Bool)
  | directory
  deriving DecidableEq, Inhabited, Repr

/-- The tree: every entry under its path; the root itself is always a directory. -/
structure Files where
  entries : List (Path × Entry) := []
  deriving Inhabited

namespace Files

/-- The entry at a path. -/
def find? (f : Files) (p : Path) : Option Entry :=
  if p.isEmpty then some .directory
  else (f.entries.find? fun e => e.1 = p).map Prod.snd

/-- There is a directory at a path. -/
def isDirectory (f : Files) (p : Path) : Bool := f.find? p = some .directory

/-- The content of the file at a path. -/
def content? (f : Files) (p : Path) : Option String :=
  match f.find? p with
  | some (.file content _) => some content
  | _ => none

/-- There is a file at a path. -/
def isFile (f : Files) (p : Path) : Bool := (f.content? p).isSome

/-- Something stands at a path. -/
def exists? (f : Files) (p : Path) : Bool := (f.find? p).isSome

/-- Puts an entry in the place of an entry, or at the end. -/
def putEntry (p : Path) (entry : Entry) : List (Path × Entry) → List (Path × Entry)
  | [] => [(p, entry)]
  | (q, old) :: rest =>
    if q = p then (p, entry) :: rest else (q, old) :: putEntry p entry rest

/-- Puts an entry at a path. -/
def put (f : Files) (p : Path) (entry : Entry) : Files := ⟨putEntry p entry f.entries⟩

/-- Writes the content of a file; a file that is there stays runnable or not. -/
def write (f : Files) (p : Path) (content : String) : Files :=
  match f.find? p with
  | some (.file _ executable) => f.put p (.file content executable)
  | _ => f.put p (.file content false)

/-- Removes what stands at a path, and all below it. -/
def remove (f : Files) (p : Path) : Files :=
  ⟨f.entries.filter fun e => !p.isPrefixOf e.1⟩

/-- Makes a directory, and those above it that are missing. -/
def makePath (f : Files) (p : Path) : Files :=
  (List.range p.length).foldl
    (fun f n => let q := p.take (n + 1); if f.exists? q then f else f.put q .directory) f

/-- The names in a directory, in the order of their bytes. -/
def children (f : Files) (p : Path) : List String :=
  let names := f.entries.filterMap fun e =>
    if e.1.length = p.length + 1 ∧ p.isPrefixOf e.1 then e.1.getLast? else none
  names.mergeSort fun a b => a ≤ b

/-- The files below a directory, by their paths from there, in the order of their paths. -/
def below (f : Files) (p : Path) : List (Path × String × Bool) :=
  f.entries.filterMap fun (q, entry) =>
    match entry with
    | .file content executable =>
      if p.isPrefixOf q then some (q.drop p.length, content, executable) else none
    | .directory => none

/-- Moves what stands at a path, and all below it, to another path. -/
def move (f : Files) (source target : Path) : Files :=
  let kept := (f.remove target).entries
  ⟨kept.map fun (q, entry) =>
    if source.isPrefixOf q then (target ++ q.drop source.length, entry) else (q, entry)⟩

/-- Copies what stands at a path, and all below it, to another path. -/
def copy (f : Files) (source target : Path) : Files :=
  let copied := f.entries.filter fun e => source.isPrefixOf e.1
  copied.foldl (fun f (q, entry) => f.put (target ++ q.drop source.length) entry) f

end Files

end Errand.Machine
