import Errand.Machine.Git.Switch

/-!
# Errand — recording changes

The commands of Git that stage files and make commits.

* `add`, `rm`, `mv`   — what is staged.
* `commit`            — a commit of what is staged.
* `reset`, `restore`  — back to an earlier state.
* `stash`             — changes put aside.
-/

namespace Errand.Machine.Git

open Work

-- ---------------------------------------------------------------------------
-- Staging
-- ---------------------------------------------------------------------------

/-- An argument that names files fits a path. -/
def namesPath (place : Path) (path : String) : Bool :=
  let names := Path.names path
  within place names ||
    (place.any fun part => part.contains '*') &&
      Ignore.fits (4 * path.length + 40) (written place).toList path.toList

/-- Stages the file at a path as it is found; one that is not there is staged as removed. -/
def stage (i : Index) (work : Tree) (path : String) : Index :=
  match valueAt path work with
  | some b => putAt path (.blob b) i
  | none => dropAt path i

/-- Refuses to stage paths that are ignored. -/
def refuseIgnored (paths : List String) : Work Unit := do
  if !paths.isEmpty then
    err "The following paths are ignored by one of your .gitignore files:"
    for path in paths do
      err path
    err "hint: Use -f if you really want to add them."
    err "hint: Turn this message off by running"
    err "hint: \"git config advice.addIgnoredFile false\""
    quit 1

/-- Stages files. -/
def add (args : List String) : Work Unit := do
  let o := Options.read "" args
  let all := o.has "A" || o.has "all"
  let keptOnly := o.has "u" || o.has "update"
  let force := o.has "f" || o.has "force"
  if o.operands.isEmpty ∧ !all ∧ !keptOnly then
    err "Nothing specified, nothing added."
    err "hint: Maybe you wanted to say 'git add .'?"
    err "hint: Turn this message off by running"
    err "hint: \"git config advice.addEmptyPathspec false\""
    return
  refuseLock
  let i ← index
  let work ← found
  let new ← if keptOnly then pure []
    else if force then pure ((work.map Prod.fst).filter fun path => (valueAt path i).isNone)
    else untracked
  let places ← o.operands.mapM argumentPath
  let candidates := pathsOf [i.paths, new]
  let wanted (path : String) : Bool :=
    places.isEmpty || places.any fun place => namesPath place path
  let mut ignored : List String := []
  for (place, argument) in places.zip o.operands do
    if !(candidates.any fun path => namesPath place path) ∧ !place.isEmpty then
      let isThere := (← files).exists? ((← top) ++ place)
      if isThere && (← isIgnored place ((← files).isDirectory ((← top) ++ place))) then
        ignored := ignored ++ [argument]
      else if !isThere then fatal ("pathspec '" ++ argument ++ "' did not match any files")
  let chosen := candidates.filter wanted
  for path in chosen.filter fun path => path.endsWith "/" do
    if (head? (← files) ((← top) ++ Path.names path ++ [".git"])).isNone then
      err ("error: '" ++ path ++ "' does not have a commit checked out")
      fatal "adding files failed"
  setIndex (chosen.foldl (fun i path => stage i work path) i)
  refuseIgnored ignored

/-- Removes files and stages that. -/
def rm (args : List String) : Work Unit := do
  let o := Options.read "" args
  let i ← index
  refuseLock
  let head ← headTree
  let work ← found
  let places ← o.operands.mapM argumentPath
  let mut chosen : List String := []
  for (place, argument) in places.zip o.operands do
    let here := i.paths.filter fun path => namesPath place path
    if here.isEmpty then fatal ("pathspec '" ++ argument ++ "' did not match any files")
    if !o.has "r" ∧ (here.any fun path => Path.names path ≠ place) ∧
        !(place.any fun part => part.contains '*') then
      fatal ("not removing '" ++ argument ++ "' recursively without -r")
    chosen := chosen ++ here
  let changed := chosen.filter fun path =>
    let staged := stagedBlob i path
    (valueAt path work).any fun w => some w ≠ staged || staged ≠ valueAt path head
  if !changed.isEmpty ∧ !o.has "f" ∧ !o.has "cached" then
    err "error: the following file has local modifications:"
    for path in changed do
      err ("    " ++ path)
    err "(use --cached to keep the file, or -f to force removal)"
    quit 1
  for path in chosen do
    if !o.has "cached" then dropEntry path
    if !o.has "q" ∧ !o.has "quiet" then out ("rm '" ++ path ++ "'")
  setIndex (i.filter fun e => !chosen.contains e.1)

/-- Moves a file or a directory and stages that. -/
def mv (args : List String) : Work Unit := do
  let o := Options.read "" args
  match o.operands with
  | [source, target] =>
    refuseLock
    let root ← top
    let fromPath ← argumentPath source
    let toPath ← argumentPath target
    let now ← files
    let toPath := if now.isDirectory (root ++ toPath) then toPath ++ [fromPath.getLastD ""]
      else toPath
    let i ← index
    let chosen := i.filter fun e => within fromPath (Path.names e.1)
    if !now.exists? (root ++ fromPath) then
      fatal ("bad source, source=" ++ source ++ ", destination=" ++ target)
    if chosen.isEmpty then
      fatal ("not under version control, source=" ++ source ++ ", destination=" ++ target)
    if now.isFile (root ++ toPath) ∧ !o.has "f" then
      fatal ("destination exists, source=" ++ source ++ ", destination=" ++ target)
    alter fun files =>
      (files.makePath (root ++ toPath).dropLast).move (root ++ fromPath) (root ++ toPath)
    let moved := chosen.map fun (path, s) =>
      (written (toPath ++ (Path.names path).drop fromPath.length), s)
    let rest := i.filter fun e => !within fromPath (Path.names e.1)
    setIndex (moved.foldl (fun i (path, s) => putAt path s i) rest)
  | _ => err "usage: git mv [<options>] <source>... <destination>"; quit 129

-- ---------------------------------------------------------------------------
-- Reports
-- ---------------------------------------------------------------------------

/-- The words for a change of a path. -/
def changeWords (letter : String) : String :=
  match letter with
  | "A" => "new file:   "
  | "D" => "deleted:    "
  | _ => "modified:   "

/-- The line that tells what is checked out. -/
def branchLine : Work String := do
  let dir := (← read).repo.dir
  match headBranch? (← files) dir with
  | some name => return "On branch " ++ name
  | none =>
    match head? (← files) dir with
    | some id => return "HEAD detached at " ++ abbreviated id
    | none => return "Not currently on any branch."

/-- The report on what would be committed and what would not. -/
def longStatus : Work (List String) := do
  let head ← headTree
  let i ← index
  let work ← found
  let dir := (← read).repo.dir
  let paths := pathsOf [head.map Prod.fst, i.paths]
  let merging := reference? (← files) dir "MERGE_HEAD" |>.isSome
  let unmerged := Index.unmerged i
  let line (before after : Option Blob) (path : String) : Option String :=
    let letter := changeLetter before after
    if letter = " " ∨ unmerged.contains path then none
    else some ("\t" ++ changeWords letter ++ quotedPath false path)
  let staged := paths.filterMap fun path => line (valueAt path head) (stagedBlob i path) path
  let changed := i.paths.filterMap fun path => line (stagedBlob i path) (valueAt path work) path
  let new := shownUntracked i (← untracked)
  let block (heading : List String) (lines : List String) : List String :=
    if lines.isEmpty then [] else heading ++ lines ++ [""]
  let start := [← branchLine] ++
    (if head?  (← files) dir |>.isNone then ["", "No commits yet", ""] else [])
  let mergeLines :=
    if !merging then []
    else if unmerged.isEmpty then
      ["All conflicts fixed but you are still merging.",
        "  (use \"git commit\" to conclude merge)", ""]
    else ["You have unmerged paths.", "  (fix conflicts and run \"git commit\")",
      "  (use \"git merge --abort\" to abort the merge)", ""]
  let ending :=
    if !staged.isEmpty then []
    else if !changed.isEmpty ∨ !unmerged.isEmpty then
      ["no changes added to commit (use \"git add\" and/or \"git commit -a\")"]
    else if !new.isEmpty then
      ["nothing added to commit but untracked files present (use \"git add\" to track)"]
    else ["nothing to commit, working tree clean"]
  return start ++ mergeLines ++
    block ["Changes to be committed:",
      "  (use \"git restore --staged <file>...\" to unstage)"] staged ++
    block ["Unmerged paths:", "  (use \"git add <file>...\" to mark resolution)"]
      (unmerged.map fun path => "\tboth modified:   " ++ path) ++
    block ["Changes not staged for commit:",
      "  (use \"git add <file>...\" to update what will be committed)",
      "  (use \"git restore <file>...\" to discard changes in working directory)"] changed ++
    block ["Untracked files:", "  (use \"git add <file>...\" to include in what will be committed)"]
      (new.map fun path => "\t" ++ quotedPath false path) ++
    ending

-- ---------------------------------------------------------------------------
-- Commits
-- ---------------------------------------------------------------------------

/-- What a commit was asked to be. -/
structure CommitRequest where
  messages : List String := []
  /-- A message that is taken from somewhere else. -/
  given : Option String := none
  all : Bool := false
  amend : Bool := false
  allowEmpty : Bool := false
  allowEmptyMessage : Bool := false
  skipHooks : Bool := false
  quiet : Bool := false
  paths : List String := []
  deriving Inhabited

/-- Refuses to go on while a merge is not settled. -/
def refuseUnmerged (deed : String) (shows : Bool) : Work Unit := do
  let unmerged := Index.unmerged (← index)
  if !unmerged.isEmpty then
    if shows then
      for path in unmerged do
        out ("U\t" ++ path)
    err ("error: " ++ deed ++ " is not possible because you have unmerged files.")
    err "hint: Fix them up in the work tree, and then use 'git add/rm <file>'"
    err "hint: as appropriate to mark resolution and make a commit."
    fatal "Exiting because of an unresolved conflict."

/-- Stages all changes of files that are kept. -/
def stageKept : Work Unit := do
  let i ← index
  let work ← found
  setIndex (i.paths.foldl (fun i path => stage i work path) i)

/-- The message of a commit, before the programs on its occasion. -/
def requestedMessage (r : CommitRequest) : Work String := do
  let dir := (← read).repo.dir
  if !r.messages.isEmpty then return cleaned (String.intercalate "\n\n" r.messages)
  else if let some text := r.given then return cleaned text
  else if let some text := (← files).content? (dir ++ ["MERGE_MSG"]) then return cleaned text
  else if r.amend then
    match head? (← files) dir with
    | some id => return (((← store).commit? id).map Commit.message).getD ""
    | none => return ""
  else return ""

/-- The message of a commit, after the programs on its occasion. -/
def finalMessage (message : String) (skipHooks : Bool) : Work String := do
  writeFile "COMMIT_EDITMSG" message
  let dir := (← read).repo.dir
  let path := if (← read).repo.top.isSome then ".git/COMMIT_EDITMSG" else "COMMIT_EDITMSG"
  requireHook "prepare-commit-msg" [path, "message"] 1
  if !skipHooks then requireHook "commit-msg" [path] 1
  return cleaned (((← files).content? (dir ++ ["COMMIT_EDITMSG"])).getD "")

/-- The commits that a new commit follows. -/
def parentsFor (amend : Bool) : Work (List Nat) := do
  let dir := (← read).repo.dir
  match head? (← files) dir with
  | none => return []
  | some id =>
    if amend then return (((← store).commit? id).map Commit.parents).getD []
    else
      match reference? (← files) dir "MERGE_HEAD" with
      | some other => return [id, other]
      | none => return [id]

/-- Makes a commit. -/
def makeCommit (r : CommitRequest) : Work Unit := do
  let dir := (← read).repo.dir
  let _ ← top
  refuseLock
  if r.all then stageKept
  if !r.paths.isEmpty then add ("--" :: r.paths)
  refuseUnmerged "Committing" true
  let isFirst := (head? (← files) dir).isNone
  let isEmpty := Index.tree (← index) = (← headTree)
  if !r.skipHooks then requireHook "pre-commit" [] 1
  let tree := Index.tree (← index)
  let merging := (reference? (← files) dir "MERGE_HEAD").isSome
  if isEmpty ∧ !r.allowEmpty ∧ !merging ∧ !r.amend then
    for line in ← longStatus do
      out line
    quit 1
  let message ← requestedMessage r
  if message.isEmpty ∧ r.messages.isEmpty ∧ r.given.isNone then
    err "error: Terminal is dumb, but EDITOR unset"
    err "Please supply the message using either -m or -F option."
    quit 1
  let message ← finalMessage message r.skipHooks
  if message.isEmpty ∧ !r.allowEmptyMessage then
    err "Aborting commit due to empty commit message."
    quit 1
  let id ← addCommit ⟨tree, ← parentsFor r.amend, message⟩
  advanceHead "" id
  forgetMerge
  let _ ← runHook "post-commit" []
  if !r.quiet then
    let name := (headBranch? (← files) dir).getD "detached HEAD"
    let root := if isFirst then " (root-commit)" else ""
    out ("[" ++ name ++ root ++ " " ++ abbreviated id ++ "] " ++ subject message)

/-- Reads the arguments of a commit. -/
def commitRequest (fuel : Nat) (r : CommitRequest) (args : List String) : Work CommitRequest := do
  match fuel, args with
  | 0, _ | _, [] => return r
  | fuel + 1, arg :: rest =>
    let next := commitRequest fuel
    match arg with
    | "--" => return { r with paths := r.paths ++ rest }
    | "-m" | "--message" =>
      match rest with
      | text :: rest => next { r with messages := r.messages ++ [text] } rest
      | [] => err "error: switch `m' requires a value"; quit 129
    | "-F" | "--file" =>
      let name := rest.headD "-"
      match ← onMachine (openForReading (← read).process name) with
      | .error fault =>
        fatal ("could not read log file '" ++ name ++ "': " ++ fault.text)
      | .ok id =>
        let text ← onMachine (drainChannel id)
        next { r with given := some (String.ofList text) } (rest.drop 1)
    | "-C" | "--reuse-message" | "-c" =>
      let id ← revision? (rest.headD "HEAD")
      let text := ((id.bind (← store).commit?).map Commit.message).getD ""
      next { r with given := some text } (rest.drop 1)
    | "--amend" => next { r with amend := true } rest
    | "--allow-empty" => next { r with allowEmpty := true } rest
    | "--allow-empty-message" => next { r with allowEmptyMessage := true } rest
    | "--no-verify" => next { r with skipHooks := true } rest
    | "--all" => next { r with all := true } rest
    | "--quiet" => next { r with quiet := true } rest
    | "--author" | "--date" => next r (rest.drop 1)
    | arg =>
      if arg.startsWith "--message=" then
        next { r with messages := r.messages ++ [(arg.drop 10).toString] } rest
      else if arg.startsWith "--" then next r rest
      else
        match arg.toList with
        | '-' :: c :: more =>
          let rest := if more.isEmpty then rest else
            if c = 'm' then String.ofList more :: rest else ("-" ++ String.ofList more) :: rest
          match c with
          | 'a' => next { r with all := true } rest
          | 'q' => next { r with quiet := true } rest
          | 'n' => next { r with skipHooks := true } rest
          | 'm' => next r ("-m" :: rest)
          | 'F' => next r ("-F" :: rest)
          | 'C' => next r ("-C" :: rest)
          | _ => next r rest
        | _ => next { r with paths := r.paths ++ [arg] } rest

/-- Makes a commit. -/
def commit (args : List String) : Work Unit := do
  makeCommit (← commitRequest (2 * args.length + (String.join args).length + 2) {} args)

-- ---------------------------------------------------------------------------
-- Back to an earlier state
-- ---------------------------------------------------------------------------

/-- Goes back to the state before a merge that was begun. -/
def resetMerge (target : Tree) : Work Unit := do
  let i ← index
  let work ← found
  let head ← headTree
  let paths := pathsOf [head.map Prod.fst, target.map Prod.fst, i.paths]
  let changed := paths.filter fun path =>
    match valueAt path i with
    | some (.conflict ..) => true
    | some (.blob b) => some b ≠ valueAt path target
    | none => (valueAt path target).isSome
  let dirty := changed.filter fun path =>
    match valueAt path i with
    | some (.blob b) => (valueAt path work).any fun w => w ≠ b
    | _ => false
  match dirty with
  | path :: _ =>
    err ("error: Entry '" ++ path ++ "' not uptodate. Cannot merge.")
    fatal "Could not reset index file to revision 'HEAD'."
  | [] =>
    for path in changed do
      place path (valueAt path target)

/-- Restores paths of the index from a collection. -/
def unstage (target : Tree) (places : List Path) : Work Unit := do
  let i ← index
  let paths := (pathsOf [i.paths, target.map Prod.fst]).filter fun path =>
    places.isEmpty || places.any fun place => namesPath place path
  setIndex (paths.foldl
    (fun i path => match valueAt path target with
      | some b => putAt path (.blob b) i
      | none => dropAt path i) i)

/-- Moves the branch, the index or the files to another commit. -/
def reset (args : List String) : Work Unit := do
  let o := Options.read "" args
  refuseLock
  let dir := (← read).repo.dir
  let (name, paths) ← match o.operands with
    | [] => pure ("HEAD", [])
    | first :: rest => do
      match ← revision? first with
      | some _ => pure (first, rest)
      | none =>
        if (← files).exists? ((← read).process.path first) ∨
            ((← index).paths.contains first) then pure ("HEAD", o.operands)
        else
          fatal ("ambiguous argument '" ++ first ++
            "': unknown revision or path not in the working tree.\n" ++
            "Use '--' to separate paths from revisions, like this:\n" ++
            "'git <command> [<revision>...] -- [<file>...]'")
  let target ← revision? name
  let tree := (target.map (← store).treeOf).getD []
  if !paths.isEmpty then
    unstage tree (← paths.mapM argumentPath)
  else
    if o.has "merge" then resetMerge tree
    else if o.has "hard" then forceFiles tree
    else if !o.has "soft" then setIndex (Index.ofTree tree)
    if let some id := target then
      if head? (← files) dir ≠ some id then advanceHead "" id
      if !o.has "soft" then forgetMerge
      if o.has "hard" ∧ !o.has "q" ∧ !o.has "quiet" then
        out ("HEAD is now at " ++ abbreviated id ++ " " ++
          subject ((((← store).commit? id).map Commit.message).getD ""))

/-- Restores files from the index or from a commit. -/
def restore (args : List String) : Work Unit := do
  let o := Options.read "s" args
  refuseLock
  let source := (o.value? "s").orElse fun _ => o.value? "source"
  let staged := o.has "staged" || o.has "S"
  let tree ← match source with
    | some name =>
      match ← revision? name with
      | some id => pure ((← store).treeOf id)
      | none => fatal ("could not resolve '" ++ name ++ "'")
    | none => if staged then headTree else pure (Index.tree (← index))
  let places ← o.operands.mapM argumentPath
  for (place, argument) in places.zip o.operands do
    if !((pathsOf [tree.map Prod.fst, (← index).paths]).any fun path => namesPath place path) then
      err ("error: pathspec '" ++ argument ++ "' did not match any file(s) known to git")
      quit 1
  if staged then unstage tree places
  if !staged ∨ o.has "worktree" ∨ o.has "W" then
    for (path, b) in tree do
      if places.any fun place => namesPath place path then writeEntry path b

-- ---------------------------------------------------------------------------
-- Changes put aside
-- ---------------------------------------------------------------------------

/-- Puts changes aside, or takes them up again. -/
def stash (args : List String) : Work Unit := do
  let deed := (args.filter fun a => !a.startsWith "-").headD "push"
  match deed with
  | "push" | "save" =>
    let head ← headTree
    let i ← index
    let work ← found
    let kept := (pathsOf [i.paths, head.map Prod.fst]).filterMap fun path =>
      (valueAt path work).map fun b => (path, b)
    let kept := if args.contains "-u" ∨ args.contains "--include-untracked" then
      work else kept
    if Index.tree i = head ∧ kept = head then out "No local changes to save"
    else
      alterVault fun v => { v with shelf := (i, kept) :: v.shelf }
      for (path, _) in kept do
        if (valueAt path head).isNone then dropEntry path
      forceFiles head
      out "Saved working directory and index state"
  | "pop" | "apply" =>
    match (← vault).shelf with
    | [] => err "No stash entries found."; quit 1
    | (_, kept) :: rest =>
      let i ← index
      let head ← headTree
      for (path, _) in head do
        if (valueAt path kept).isNone then dropEntry path
      for (path, b) in kept do
        if some b ≠ valueAt path head then
          writeEntry path b
          if (valueAt path head).isNone then setIndex (putAt path (.blob b) i)
      if deed = "pop" then alterVault fun v => { v with shelf := rest }
  | "drop" => alterVault fun v => { v with shelf := v.shelf.drop 1 }
  | "clear" => alterVault fun v => { v with shelf := [] }
  | _ => return

end Errand.Machine.Git
