import Errand.Machine.Programs

/-!
# Errand — repositories

Where a repository is, what its references name, and its settings. All of
that is kept in files below the directory of the repository.

* `Repo`, `Repo.locate`     — a repository, and the one that a directory is in.
* `Work`                    — a command at work in a repository.
* `reference?`, `head?`     — what a reference names.
* `setting?`, `putSetting`  — the settings.
-/

namespace Errand.Machine.Git

-- ---------------------------------------------------------------------------
-- Places
-- ---------------------------------------------------------------------------

/-- A repository: its own directory, and the one whose files it keeps. -/
structure Repo where
  dir : Path
  top : Option Path
  deriving DecidableEq, Inhabited, Repr

/-- A directory is that of a repository. -/
def isRepository (files : Files) (path : Path) : Bool :=
  files.isFile (path ++ ["HEAD"]) && files.isDirectory (path ++ ["refs"]) &&
    files.isDirectory (path ++ ["objects"])

/-- The repository that a directory is in, looked for from there upwards. -/
def Repo.locate (files : Files) (path : Path) : Option Repo :=
  (List.range (path.length + 1)).reverse.findSome? fun n =>
    let here := path.take n
    if isRepository files (here ++ [".git"]) then some ⟨here ++ [".git"], some here⟩
    else if isRepository files here then some ⟨here, none⟩
    else none

/-- A command at work in a repository. -/
structure Session where
  process : Process
  repo : Repo
  /-- Runs a program. -/
  launch : Process → String → List String → M ExitStatus

/-- What a command does; it may end before its end. -/
abbrev Work := ReaderT Session (ExceptT ExitStatus M)

namespace Work

/-- A computation of the machine. -/
def onMachine {α : Type} (m : M α) : Work α := fun _ => ExceptT.lift m

/-- Ends the command. -/
def quit {α : Type} (code : Nat) : Work α := throw (.exited code)

/-- Writes a line of output. -/
def out (line : String) : Work Unit := do onMachine (say (← read).process (line ++ "\n"))

/-- Writes a line of diagnostics. -/
def err (line : String) : Work Unit := do onMachine (complain (← read).process (line ++ "\n"))

/-- Ends the command with a diagnostic. -/
def fatal {α : Type} (detail : String) : Work α := do
  err ("fatal: " ++ detail)
  quit 128

/-- The files of the machine. -/
def files : Work Files := onMachine (return (← get).files)

/-- Changes the files of the machine. -/
def alter (change : Files → Files) : Work Unit := onMachine (alterFiles change)

/-- The commits of the machine. -/
def store : Work Store := onMachine (return (← get).git)

/-- Changes the commits of the machine. -/
def alterStore (change : Store → Store) : Work Unit :=
  onMachine (modify fun w => { w with git := change w.git })

/-- The directory whose files the repository keeps. -/
def top : Work Path := do
  match (← read).repo.top with
  | some path => return path
  | none => fatal "this operation must be run in a work tree"

end Work

open Work

-- ---------------------------------------------------------------------------
-- References
-- ---------------------------------------------------------------------------

/-- The path of a file of a repository. -/
def filePath (dir : Path) (name : String) : Path := dir ++ Path.names name

/-- The first line of a file of a repository. -/
def firstLine? (files : Files) (dir : Path) (name : String) : Option String :=
  (files.content? (filePath dir name)).map fun content =>
    String.ofList (content.toList.takeWhile (· ≠ '\n'))

/-- The reference that another one stands for. -/
def symbolic? (files : Files) (dir : Path) (name : String) : Option String :=
  match firstLine? files dir name with
  | some line => if line.startsWith "ref: " then some (line.drop 5).toString else none
  | none => none

/-- The commit that a reference names. -/
def referenceIn (files : Files) (dir : Path) (fuel : Nat) (name : String) : Option Nat :=
  match fuel with
  | 0 => none
  | fuel + 1 =>
    match symbolic? files dir name with
    | some target => referenceIn files dir fuel target
    | none => (firstLine? files dir name).bind ofHexName?

/-- The commit that a reference names. -/
def reference? (files : Files) (dir : Path) (name : String) : Option Nat :=
  referenceIn files dir 5 name

/-- The references below a directory, with their commits, sorted by name. -/
def referencesIn (files : Files) (dir : Path) (below : String) : List (String × Nat) :=
  sortByPath ((files.below (filePath dir below)).filterMap fun (path, _, _) =>
    let name := String.intercalate "/" path
    (reference? files dir (below ++ "/" ++ name)).map fun id => (name, id))

/-- The branch that is checked out. -/
def headBranch? (files : Files) (dir : Path) : Option String :=
  match symbolic? files dir "HEAD" with
  | some name => if name.startsWith "refs/heads/" then some (name.drop 11).toString else none
  | none => none

/-- The commit that is checked out. -/
def head? (files : Files) (dir : Path) : Option Nat := reference? files dir "HEAD"

/-- The words that a lock in the way is reported in. -/
def lockAdvice (path : Path) : String :=
  "Unable to create '" ++ Path.text path ++ "': File exists.\n\n" ++
  "Another git process seems to be running in this repository, e.g.\n" ++
  "an editor opened by 'git commit'. Please make sure all processes\n" ++
  "are terminated then try again. If it still fails, a git process\n" ++
  "may have crashed in this repository earlier:\n" ++
  "remove the file manually to continue."

/-- The path of the lock of a file of a repository. -/
def lockPath (dir : Path) (name : String) : Path :=
  let path := filePath dir name
  path.dropLast ++ [path.getLastD "" ++ ".lock"]

/-- Refuses to go on while the index is locked. -/
def refuseLock : Work Unit := do
  let dir := (← read).repo.dir
  let path := lockPath dir "index"
  if (← files).exists? path then fatal (lockAdvice path)

/-- Writes a file of a repository. -/
def writeFile (name content : String) : Work Unit := do
  let path := filePath (← read).repo.dir name
  alter fun files => (files.makePath path.dropLast).write path content

/-- Removes a file of a repository. -/
def removeFile (name : String) : Work Unit := do
  let path := filePath (← read).repo.dir name
  alter (·.remove path)

/-- The reference in the way of a new one: a part of its name, or a longer name. -/
def obstacle? (files : Files) (dir : Path) (name : String) : Option String :=
  let parts := Path.names name
  let shorter := (List.range parts.length).findSome? fun n =>
    if 2 < n ∧ files.isFile (dir ++ parts.take n) then
      some (String.intercalate "/" (parts.take n))
    else none
  match shorter with
  | some found => some found
  | none =>
    if files.isDirectory (filePath dir name) then
      ((files.below (filePath dir name)).head?).map fun (path, _, _) =>
        name ++ "/" ++ String.intercalate "/" path
    else none

/-- Why a reference cannot be written. -/
def referenceFault? (files : Files) (dir : Path) (name : String) : Option String :=
  match obstacle? files dir name with
  | some other => some ("'" ++ other ++ "' exists; cannot create '" ++ name ++ "'")
  | none =>
    let lock := lockPath dir name
    if files.exists? lock then some (lockAdvice lock) else none

/-- Lets a reference name a commit; `shown` is what it is called if it cannot be written. -/
def writeReference (shown name : String) (id : Nat) : Work Unit := do
  let dir := (← read).repo.dir
  match referenceFault? (← files) dir name with
  | some fault => fatal ("cannot lock ref '" ++ shown ++ "': " ++ fault)
  | none =>
    if (← files).isDirectory (filePath dir name) then removeFile name
    writeFile name (hexName id ++ "\n")

/-- The name of a directory above a removed reference that is left empty. -/
def pruneReference (dir : Path) (name : String) (files : Files) : Files :=
  let parts := Path.names name
  (List.range parts.length).reverse.foldl
    (fun files n =>
      let path := dir ++ parts.take n
      if 2 < n ∧ files.isDirectory path ∧ (files.children path).isEmpty then files.remove path
      else files)
    files

/-- Removes a reference. -/
def dropReference (name : String) : Work Unit := do
  let dir := (← read).repo.dir
  alter fun files => pruneReference dir name (files.remove (filePath dir name))

/-- Moves what is checked out to a commit; `opening` begins the words if that cannot be. -/
def advanceHead (opening : String) (id : Nat) : Work Unit := do
  let dir := (← read).repo.dir
  let now ← files
  let lock := lockPath dir "HEAD"
  let name := symbolic? now dir "HEAD"
  let fault := if now.exists? lock then some (lockAdvice lock)
    else name.bind (referenceFault? now dir)
  match fault, name with
  | some fault, _ => fatal (opening ++ "cannot lock ref 'HEAD': " ++ fault)
  | none, some name => writeReference "HEAD" name id
  | none, none => writeFile "HEAD" (hexName id ++ "\n")

/-- Checks a branch out. -/
def pointHead (branch : String) : Work Unit := do
  let path := lockPath (← read).repo.dir "HEAD"
  if (← files).exists? path then
    err ("error: " ++ lockAdvice path)
    fatal "unable to update HEAD"
  writeFile "HEAD" ("ref: refs/heads/" ++ branch ++ "\n")

/-- Checks a commit out without a branch. -/
def detachHead (id : Nat) : Work Unit := do
  let path := lockPath (← read).repo.dir "HEAD"
  if (← files).exists? path then
    fatal ("update_ref failed for ref 'HEAD': cannot lock ref 'HEAD': " ++ lockAdvice path)
  writeFile "HEAD" (hexName id ++ "\n")

-- ---------------------------------------------------------------------------
-- The index and the commits of the repository
-- ---------------------------------------------------------------------------

/-- What the repository keeps. -/
def vault : Work Vault := do return (← store).vault (← read).repo.dir

/-- Changes what the repository keeps. -/
def alterVault (change : Vault → Vault) : Work Unit := do
  let dir := (← read).repo.dir
  alterStore fun s => s.setVault dir (change (s.vault dir))

/-- The index. -/
def index : Work Index := do return (← vault).index

/-- Replaces the index. -/
def setIndex (i : Index) : Work Unit := alterVault fun v => { v with index := i }

/-- Notes that the repository holds some commits. -/
def know (ids : List Nat) : Work Unit :=
  alterVault fun v => { v with known := v.known ++ ids.filter fun id => !v.known.contains id }

/-- Adds a commit to the repository. -/
def addCommit (c : Commit) : Work Nat := do
  let (id, s) := (← store).add c
  alterStore fun _ => s
  know [id]
  return id

/-- The files of the commit that is checked out. -/
def headTree : Work Tree := do
  match head? (← files) (← read).repo.dir with
  | some id => return (← store).treeOf id
  | none => return []

/-- The files of an index without conflicts. -/
def Index.tree (i : Index) : Tree :=
  i.filterMap fun (path, s) => match s with
    | .blob b => some (path, b)
    | .conflict .. => none

/-- An index that holds exactly some files. -/
def Index.ofTree (t : Tree) : Index := t.map fun (path, b) => (path, .blob b)

/-- The paths of an index that a merge could not settle. -/
def Index.unmerged (i : Index) : List String :=
  i.filterMap fun (path, s) => match s with
    | .blob _ => none
    | .conflict .. => some path

-- ---------------------------------------------------------------------------
-- Settings
-- ---------------------------------------------------------------------------

/-- A setting: its section, its part of the section, its name and its value. -/
structure Setting where
  area : String
  part : String := ""
  name : String
  value : String
  deriving DecidableEq, Inhabited, Repr

/-- The text of a quoted part without its quotes. -/
def unquoted (cs : List Char) : String :=
  let rec go : List Char → List Char
    | [] => []
    | '\\' :: c :: rest => c :: go rest
    | '"' :: rest => go rest
    | c :: rest => c :: go rest
  String.ofList (go cs)

/-- The settings that the lines of a file make. -/
def settingsOf (current : String × String) : List String → List Setting
  | [] => []
  | line :: rest =>
    let cs := (line.toList.dropWhile fun c => c = ' ' || c = '\t')
    match cs with
    | '[' :: cs =>
      let inside := cs.takeWhile (· ≠ ']')
      let (name, part) := inside.span fun c => c ≠ ' '
      settingsOf ((String.ofList name).toLower, unquoted (part.dropWhile (· = ' '))) rest
    | [] | '#' :: _ | ';' :: _ => settingsOf current rest
    | cs =>
      let (name, value) := cs.span (· ≠ '=')
      let trim (cs : List Char) : List Char :=
        ((cs.dropWhile Char.isWhitespace).reverse.dropWhile Char.isWhitespace).reverse
      let value := if value.isEmpty then "true" else unquoted (trim (value.drop 1))
      ⟨current.1, current.2, (String.ofList (trim name)).toLower, value⟩ :: settingsOf current rest

/-- The settings of a repository. -/
def settings (files : Files) (dir : Path) : List Setting :=
  settingsOf ("", "") (((files.content? (dir ++ ["config"])).getD "").splitOn "\n")

/-- The section, part and name that a written key names. -/
def keyOf (key : String) : String × String × String :=
  let parts := key.splitOn "."
  ((parts.headD "").toLower, String.intercalate "." ((parts.drop 1).dropLast),
    (parts.getLastD "").toLower)

/-- The value of a setting, the latest if there are several. -/
def setting? (files : Files) (dir : Path) (key : String) : Option String :=
  let (kind, part, name) := keyOf key
  ((settings files dir).reverse.find? fun s =>
    s.area = kind && s.part = part && s.name = name).map Setting.value

/-- The lines of a file of settings. -/
def settingsText (all : List Setting) : String :=
  let heading (s : Setting) : String :=
    "[" ++ s.area ++ (if s.part.isEmpty then "" else " \"" ++ s.part ++ "\"") ++ "]\n"
  let step (state : String × Option (String × String)) (s : Setting) :
      String × Option (String × String) :=
    let here := (s.area, s.part)
    let text := if state.2 = some here then state.1 else state.1 ++ heading s
    (text ++ "\t" ++ s.name ++ " = " ++ s.value ++ "\n", some here)
  (all.foldl step ("", none)).1

/-- Settings with one of them given a value, beside the others of its section. -/
def placed (new : Setting) : List Setting → List Setting
  | [] => [new]
  | s :: rest =>
    if s.area = new.area ∧ s.part = new.part then
      let (same, others) := (s :: rest).span fun t =>
        t.area = new.area && t.part = new.part
      (same.filter fun t => t.name ≠ new.name) ++ new :: others
    else s :: placed new rest

/-- Gives a setting a value. -/
def putSetting (key value : String) : Work Unit := do
  let dir := (← read).repo.dir
  let (kind, part, name) := keyOf key
  let all := settings (← files) dir
  writeFile "config" (settingsText (placed ⟨kind, part, name, value⟩ all))

/-- Removes the settings that do not satisfy a condition. -/
def keepSettings (keep : Setting → Bool) : Work Unit := do
  let dir := (← read).repo.dir
  writeFile "config" (settingsText ((settings (← files) dir).filter keep))

end Errand.Machine.Git
