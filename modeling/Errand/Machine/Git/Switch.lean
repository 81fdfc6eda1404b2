import Errand.Machine.Git.Revision

/-!
# Errand — moving from one commit to another

The files of one commit are put in the place of those of another. Changes
that are not committed stay, and if they stand in the way nothing is done.

* `Obstacle`    — what may stand in the way of a path.
* `switchFiles` — puts the files of a commit in their places.
* `runHook`     — a program of the repository that is run on an occasion.
-/

namespace Errand.Machine.Git

open Work

-- ---------------------------------------------------------------------------
-- Programs run on occasions
-- ---------------------------------------------------------------------------

/-- The program for an occasion, as it is written from the directory it is run in. -/
def hookPath (files : Files) (repo : Repo) (name : String) : String :=
  match setting? files repo.dir "core.hookspath" with
  | some dir => dir ++ "/" ++ name
  | none => if repo.top.isSome then ".git/hooks/" ++ name else "hooks/" ++ name

/-- Runs the program for an occasion with given streams; nothing if there is none. -/
def runHookWith (input output : Nat) (name : String) (args : List String) :
    Work (Option Nat) := do
  let s ← read
  let now ← files
  let home := s.repo.top.getD s.repo.dir
  let path := hookPath now s.repo name
  match now.find? (Path.resolve home path) with
  | some (.file _ true) =>
    let (finding, _) ← onMachine (Programs.lookUp { s.process with directory := home } path)
    if finding = .missing then
      err ("fatal: cannot exec '" ++ path ++ "': No such file or directory")
      return some 1
    let status ← onMachine do
      let child ← { s.process with directory := home }.fork
      s.launch ((child.withDescriptor 0 input).withDescriptor 1 output) path args
    return some (Shell.codeOf status)
  | some (.file _ false) =>
    err ("hint: The '" ++ path ++ "' hook was ignored because it's not set as executable.")
    err "hint: You can disable this warning with `git config advice.ignoredHook false`."
    return none
  | _ => return none

/-- Runs the program for an occasion; what it prints is a diagnostic. -/
def runHook (name : String) (args : List String) : Work (Option Nat) := do
  let input ← onMachine (newChannel .void)
  let p := (← read).process
  let output ← match p.channel? 2 with
    | some id => pure id
    | none => onMachine (newChannel .void)
  runHookWith input output name args

/-- Runs the program for an occasion and ends the command if it fails. -/
def requireHook (name : String) (args : List String) (code : Nat) : Work Unit := do
  match ← runHook name args with
  | some 0 | none => return
  | some _ => quit code

-- ---------------------------------------------------------------------------
-- Obstacles
-- ---------------------------------------------------------------------------

/-- Why a path cannot be given its new version. -/
inductive Obstacle where
  /-- A change of the path is staged. -/
  | staged
  /-- The file was changed and that is not staged. -/
  | changed
  /-- A directory with untracked files is in its place. -/
  | directory
  /-- An untracked file is in its place. -/
  | untracked
  deriving DecidableEq, Inhabited, Repr

/-- What a path needs on the way from one collection to another. -/
inductive Need where
  | nothing
  | update
  /-- An update, but a file or directory at a path stands in the way. -/
  | blocked (obstacle : Obstacle) (place : String)
  deriving DecidableEq, Inhabited, Repr

/-- What a path needs: its versions before and after, as staged, and as found. -/
def needOf (isIgnored : Bool) (path : String) (before after staged work : Option Blob) : Need :=
  if before = after then .nothing
  else if staged = after ∧ staged.isSome then .nothing
  else
    match staged with
    | none =>
      match before, after with
      | none, some _ => if work.isSome && !isIgnored then .blocked .untracked path else .update
      | some _, some _ => .blocked .staged path
      | _, none => .nothing
    | some s =>
      if before = some s then
        match work with
        | some w => if w = s then .update else .blocked .changed path
        | none => .update
      else .blocked .staged path

/-- What is staged for a path. -/
def stagedBlob (i : Index) (path : String) : Option Blob :=
  match valueAt path i with
  | some (.blob b) => some b
  | _ => none

/-- The untracked files in a directory in the place of which a file is to come. -/
def filesInPlace (work : Tree) (i : Index) (path : String) : List String :=
  (work.map Prod.fst).filter fun other =>
    other ≠ path && within (Path.names path) (Path.names other) && (valueAt other i).isNone

/-- The untracked file in the place of a directory above a path. -/
def fileAbove? (work : Tree) (i : Index) (path : String) : Option String :=
  let names := Path.names path
  (List.range names.length).findSome? fun n =>
    let above := written (names.take n)
    if (valueAt above work).isSome ∧ (valueAt above i).isNone then some above else none

/-- What each path needs on the way from one collection to another. -/
def needs (before after : Tree) : Work (List (String × Need)) := do
  let i ← index
  let work ← found
  (pathsOf [before.map Prod.fst, after.map Prod.fst]).mapM fun path => do
    let ignored ← isIgnored (Path.names path) false
    let need := needOf ignored path (valueAt path before) (valueAt path after)
      (stagedBlob i path) (valueAt path work)
    if need ≠ .update ∨ (valueAt path after).isNone then return (path, need)
    let lost ← (filesInPlace work i path).filterM fun other => do
      return !(← isIgnored (Path.names other) false)
    if !lost.isEmpty then return (path, .blocked .directory path)
    else
      match fileAbove? work i path with
      | some above =>
        if ← isIgnored (Path.names above) false then return (path, need)
        else return (path, .blocked .untracked above)
      | none => return (path, need)

/-- The places of an obstacle among some needs. -/
def placesOf (obstacle : Obstacle) (ns : List (String × Need)) : List String :=
  (ns.filterMap fun n => match n.2 with
    | .blocked o place => if o = obstacle then some place else none
    | _ => none).eraseDups

/-- Nothing stands in the way. -/
def isFree (ns : List (String × Need)) : Bool := ns.all fun n => !(n.2 matches .blocked ..)

/-- The words in which obstacles are reported. -/
structure Wording where
  /-- What would overwrite the files. -/
  action : String
  /-- What cannot be done before the files are out of the way. -/
  before : String

/-- The words for going to another branch. -/
def checkoutWording : Wording := ⟨"checkout", "switch branches"⟩

/-- The words for a merge. -/
def mergeWording : Wording := ⟨"merge", "merge"⟩

/-- Reports the places of one obstacle. -/
def reportObstacle (w : Wording) (ns : List (String × Need)) (obstacle : Obstacle) :
    Work Unit := do
  let places := placesOf obstacle ns
  if !places.isEmpty then
    let (heading, advice) := match obstacle with
      | .staged | .changed =>
        ("Your local changes to the following files would be overwritten by " ++ w.action ++ ":",
          "Please commit your changes or stash them before you " ++ w.before ++ ".")
      | .directory =>
        ("Updating the following directories would lose untracked files in them:", "")
      | .untracked =>
        ("The following untracked working tree files would be overwritten by " ++ w.action ++ ":",
          "Please move or remove them before you " ++ w.before ++ ".")
    err ("error: " ++ heading)
    for place in places do
      err ("\t" ++ place)
    err advice

/-- Reports what stands in the way. -/
def reportObstacles (w : Wording) (ns : List (String × Need)) : Work Unit := do
  for obstacle in [.staged, .changed, .directory, .untracked] do
    reportObstacle w ns obstacle
  err "Aborting"

-- ---------------------------------------------------------------------------
-- Moving
-- ---------------------------------------------------------------------------

/-- Puts the version of a path in its place and stages it. -/
def place (path : String) (b : Option Blob) : Work Unit := do
  match b with
  | some b =>
    writeEntry path b
    setIndex (putAt path (.blob b) (← index))
  | none =>
    dropEntry path
    setIndex (dropAt path (← index))

/--
Puts the files of one collection in the place of another's; whether that
could be done. Obstacles are reported, and then nothing is changed.
-/
def switchFiles (w : Wording) (before after : Tree) : Work Bool := do
  let ns ← needs before after
  if !isFree ns then
    reportObstacles w ns
    return false
  let (gone, here) := (ns.filter fun n => n.2 = .update).partition fun n =>
    (valueAt n.1 after).isNone
  for (path, _) in gone do
    place path none
  for (path, _) in here do
    place path (valueAt path after)
  return true

/-- Puts the files of a collection in their places, whatever is there. -/
def forceFiles (after : Tree) : Work Unit := do
  let i ← index
  for path in i.paths do
    if (valueAt path after).isNone then dropEntry path
  for (path, b) in after do
    writeEntry path b
  setIndex (Index.ofTree after)

/-- Forgets a merge that was begun. -/
def forgetMerge : Work Unit := do
  for name in ["MERGE_HEAD", "MERGE_MSG", "MERGE_MODE", "CHERRY_PICK_HEAD", "REVERT_HEAD",
      "SQUASH_MSG"] do
    removeFile name

end Errand.Machine.Git
