import Errand.Machine.Git.Record

/-!
# Errand — branches

The commands of Git that make and remove references, and those that go from
one to another.

* `branch`, `tag`       — references made, removed and listed.
* `checkout`, `switch`  — to another branch, or files from elsewhere.
-/

namespace Errand.Machine.Git

open Work

-- ---------------------------------------------------------------------------
-- References
-- ---------------------------------------------------------------------------

/-- Makes a branch at a commit. -/
def createBranch (name start : String) (force : Bool) : Work Unit := do
  if !isBranchName name then fatal ("'" ++ name ++ "' is not a valid branch name")
  if (← branch? name).isSome ∧ !force then fatal ("a branch named '" ++ name ++ "' already exists")
  match ← revision? start with
  | some id =>
    warnAmbiguous start
    writeReference ("refs/heads/" ++ name) ("refs/heads/" ++ name) id
  | none => fatal ("not a valid object name: '" ++ start ++ "'")

/-- Removes branches. -/
def deleteBranches (force : Bool) (names : List String) : Work Unit := do
  let dir := (← read).repo.dir
  let mut allWell := true
  for name in names do
    match ← branch? name with
    | none =>
      err ("error: branch '" ++ name ++ "' not found.")
      allWell := false
    | some id =>
      if headBranch? (← files) dir = some name then
        err ("error: Cannot delete branch '" ++ name ++ "' checked out at '" ++
          Path.text (← top) ++ "'")
        allWell := false
      else
        let all ← store
        let merged := (head? (← files) dir).any fun head => all.follows head id
        if !force ∧ !merged then
          err ("error: The branch '" ++ name ++ "' is not fully merged.")
          err ("If you are sure you want to delete it, run 'git branch -D " ++ name ++ "'.")
          allWell := false
        else
          dropReference ("refs/heads/" ++ name)
          out ("Deleted branch " ++ name ++ " (was " ++ abbreviated id ++ ").")
  if !allWell then quit 1

/-- Gives a branch another name. -/
def renameBranch (force : Bool) (old new : String) : Work Unit := do
  let dir := (← read).repo.dir
  let oldName := "refs/heads/" ++ old
  let newName := "refs/heads/" ++ new
  if (← branch? new).isSome ∧ !force ∧ old ≠ new then
    fatal ("a branch named '" ++ new ++ "' already exists")
  match ← branch? old with
  | some id =>
    dropReference oldName
    writeReference newName newName id
    if headBranch? (← files) dir = some old then writeFile "HEAD" ("ref: " ++ newName ++ "\n")
  | none =>
    if headBranch? (← files) dir = some old then writeFile "HEAD" ("ref: " ++ newName ++ "\n")
    else
      err ("error: refname " ++ oldName ++ " not found")
      fatal "Branch rename failed"

/-- Lists branches. -/
def listBranches : Work Unit := do
  let dir := (← read).repo.dir
  let now ← files
  let current := headBranch? now dir
  if current.isNone then
    out ("* (HEAD detached at " ++ ((head? now dir).map abbreviated).getD "" ++ ")")
  for (name, _) in referencesIn now dir "refs/heads" do
    out ((if current = some name then "* " else "  ") ++ name)

/-- Makes, removes, renames or lists branches. -/
def branch (args : List String) : Work Unit := do
  let o := Options.read "u" args
  let force := o.has "f" || o.has "force" || o.has "D" || o.has "M"
  let current := (headBranch? (← files) (← read).repo.dir).getD "HEAD"
  if o.has "show-current" then
    match headBranch? (← files) (← read).repo.dir with
    | some name => out name
    | none => return
  else if o.has "d" ∨ o.has "D" ∨ o.has "delete" then deleteBranches force o.operands
  else if o.has "m" ∨ o.has "M" ∨ o.has "move" then
    match o.operands with
    | [new] => renameBranch force current new
    | [old, new] => renameBranch force old new
    | _ => fatal "branch name required"
  else if o.has "u" ∨ o.has "set-upstream-to" then return
  else
    match o.operands with
    | [] => listBranches
    | [name] => createBranch name "HEAD" force
    | name :: start :: _ => createBranch name start force

/-- Makes, removes or lists tags. -/
def tag (args : List String) : Work Unit := do
  let o := Options.read "mFu" args
  let dir := (← read).repo.dir
  if o.has "d" then
    for name in o.operands do
      match reference? (← files) dir ("refs/tags/" ++ name) with
      | some id =>
        dropReference ("refs/tags/" ++ name)
        out ("Deleted tag '" ++ name ++ "' (was " ++ abbreviated id ++ ")")
      | none =>
        err ("error: tag '" ++ name ++ "' not found.")
        quit 1
  else
    match o.operands with
    | [] =>
      for (name, _) in referencesIn (← files) dir "refs/tags" do
        out name
    | name :: rest =>
      let start := rest.headD "HEAD"
      let full := "refs/tags/" ++ name
      if (reference? (← files) dir full).isSome ∧ !o.has "f" then
        fatal ("tag '" ++ name ++ "' already exists")
      match ← revision? start with
      | some id => writeReference full full id
      | none => fatal ("Failed to resolve '" ++ start ++ "' as a valid ref.")

-- ---------------------------------------------------------------------------
-- Going to another commit
-- ---------------------------------------------------------------------------

/-- Where to go: what it is called, the branch if it is one, and the commit. -/
structure Destination where
  name : String
  branch : Option String
  commit : Nat
  deriving Inhabited

/-- How to go there. -/
structure Manner where
  quiet : Bool := false
  force : Bool := false
  /-- To the commit itself, even if a branch is named. -/
  detach : Bool := false
  /-- The branch was made for this. -/
  isNew : Bool := false
  /-- The branch was there and starts anew. -/
  isReset : Bool := false
  deriving Inhabited

/-- Tells which changes were taken along. -/
def tellLocalChanges : Work Unit := do
  let head ← headTree
  let i ← index
  let work ← found
  for path in pathsOf [head.map Prod.fst, i.paths] do
    let now := if (valueAt path i).isSome then valueAt path work else none
    let letter := changeLetter (valueAt path head) now
    if letter ≠ " " then out (letter ++ "\t" ++ path)

/-- The words on a commit that is checked out without a branch. -/
def detachedAdvice (name : String) : List String :=
  ["Note: switching to '" ++ name ++ "'.", "",
   "You are in 'detached HEAD' state. You can look around, make experimental",
   "changes and commit them, and you can discard any commits you make in this",
   "state without impacting any branches by switching back to a branch.", "",
   "If you want to create a new branch to retain commits you create, you may",
   "do so (now or later) by using -c with the switch command. Example:", "",
   "  git switch -c <new-branch-name>", "",
   "Or undo this operation with:", "", "  git switch -", "",
   "Turn off this advice by setting config variable advice.detachedHead to false", ""]

/-- The commit of a number, in a line. -/
def commitLine (id : Nat) : Work String := do
  let message := (((← store).commit? id).map Commit.message).getD ""
  return abbreviated id ++ " " ++ subject message

/-- Tells where one has come. -/
def tellArrival (m : Manner) (before : Option String) (old : Option Nat) (d : Destination) :
    Work Unit := do
  if m.quiet then return
  match d.branch with
  | some name =>
    if before.isNone ∧ old ≠ some d.commit then
      if let some id := old then err ("Previous HEAD position was " ++ (← commitLine id))
    if m.isNew then err ("Switched to a new branch '" ++ name ++ "'")
    else if m.isReset ∧ before ≠ some name then
      err ("Switched to and reset branch '" ++ name ++ "'")
    else if m.isReset then err ("Reset branch '" ++ name ++ "'")
    else if before = some name then err ("Already on '" ++ name ++ "'")
    else err ("Switched to branch '" ++ name ++ "'")
  | none =>
    if before.isSome ∧ !m.detach then
      for line in detachedAdvice d.name do
        err line
    else if before.isNone ∧ old ≠ some d.commit then
      if let some id := old then err ("Previous HEAD position was " ++ (← commitLine id))
    err ("HEAD is now at " ++ (← commitLine d.commit))

/-- Refuses to go anywhere while a merge is not settled. -/
def refuseUnresolved : Work Unit := do
  let unmerged := Index.unmerged (← index)
  if !unmerged.isEmpty then
    for path in unmerged do
      out (path ++ ": needs merge")
    err "error: you need to resolve your current index first"
    quit 1

/-- Goes to another commit. -/
def goTo (m : Manner) (d : Destination) : Work Unit := do
  let dir := (← read).repo.dir
  let old := head? (← files) dir
  let before := headBranch? (← files) dir
  let stays := d.branch.isNone && d.name = "HEAD" && !m.detach
  refuseLock
  let target := (← store).treeOf d.commit
  if m.force then forceFiles target
  else
    refuseUnresolved
    let start := (old.map (← store).treeOf).getD []
    if !(← switchFiles checkoutWording start target) then quit 1
  if !m.quiet ∧ !m.force then
    let stands := m.isNew && old = some d.commit
    if !stands then
      let i ← index
      let work ← found
      for path in pathsOf [target.map Prod.fst, i.paths] do
        let now := if (valueAt path i).isSome then valueAt path work else none
        let letter := changeLetter (valueAt path target) now
        if letter ≠ " " then out (letter ++ "\t" ++ path)
  match d.branch with
  | some name =>
    if m.isNew ∨ m.isReset then
      writeReference ("refs/heads/" ++ name) ("refs/heads/" ++ name) d.commit
    pointHead name
  | none => if !stays then detachHead d.commit
  if !stays then
    alterVault fun v => { v with previous := before.orElse fun _ => old.map hexName }
    tellArrival m before old d
  forgetMerge
  let zero := String.ofList (List.replicate 40 '0')
  match ← runHook "post-checkout" [(old.map hexName).getD zero, hexName d.commit, "1"] with
  | some 0 | none => return
  | some code => quit code

/-- The branch of a remote repository that a name could be meant for. -/
def remoteBranch? (name : String) : Work (Option (String × Nat)) := do
  let dir := (← read).repo.dir
  let now ← files
  let fits := (referencesIn now dir "refs/remotes").filter fun (full, _) =>
    String.intercalate "/" ((full.splitOn "/").drop 1) = name
  match fits with
  | [(full, id)] => return some (full, id)
  | _ => return none

/-- What a name means as a place to go to. -/
def destination? (name : String) : Work (Option Destination) := do
  let name ← if name = "-" ∨ name = "@\x7b-1\x7d" then
      pure (((← vault).previous).getD name)
    else pure name
  match ← branch? name with
  | some id =>
    warnAmbiguous name
    return some ⟨name, some name, id⟩
  | none =>
    match ← revision? name with
    | some id => return some ⟨name, none, id⟩
    | none => return none

/-- Takes files from the index or from a commit. -/
def checkoutFiles (source : Option Tree) (sourceName : String) (arguments : List String) :
    Work Unit := do
  refuseLock
  let i ← index
  let places ← arguments.mapM argumentPath
  let tree := source.getD (Index.tree i)
  let known := match source with
    | some tree => tree.map Prod.fst
    | none => i.paths
  for (place, argument) in places.zip arguments do
    if !(known.any fun path => namesPath place path) then
      err ("error: pathspec '" ++ argument ++ "' did not match any file(s) known to git")
      quit 1
  if source.isNone then
    let unmerged := (Index.unmerged i).filter fun path =>
      places.any fun place => namesPath place path
    if !unmerged.isEmpty then
      for path in unmerged do
        err ("error: path '" ++ path ++ "' is unmerged")
      quit 1
  let chosen := tree.filter fun e => places.any fun place => namesPath place e.1
  for (path, b) in chosen do
    writeEntry path b
    if source.isSome then setIndex (putAt path (.blob b) (← index))
  let count := toString chosen.length ++ (if chosen.length = 1 then " path" else " paths")
  err ("Updated " ++ count ++ " from " ++ (if source.isSome then sourceName else "the index"))

/-- Takes one side of the files that a merge could not settle. -/
def checkoutSide (ours : Bool) (arguments : List String) : Work Unit := do
  refuseLock
  let places ← arguments.mapM argumentPath
  for (path, s) in ← index do
    if places.any fun place => namesPath place path then
      match s with
      | .blob b => writeEntry path b
      | .conflict _ a b =>
        match if ours then a else b with
        | some side => writeEntry path side
        | none =>
          err ("error: path '" ++ path ++ "' does not have " ++
            (if ours then "our" else "their") ++ " version")
          quit 1

/-- Makes a branch that follows one of a remote repository, and goes there. -/
def goToRemote (m : Manner) (name full : String) (id : Nat) : Work Unit := do
  putSetting ("branch." ++ name ++ ".remote") ((full.splitOn "/").headD "")
  putSetting ("branch." ++ name ++ ".merge") ("refs/heads/" ++ name)
  if !m.quiet then out ("branch '" ++ name ++ "' set up to track '" ++ full ++ "'.")
  goTo { m with isNew := true } ⟨name, some name, id⟩

/-- Goes to a named branch or commit, or takes a named file from the index. -/
def checkoutNamed (m : Manner) (mayBeFile : Bool) (name : String) : Work Unit := do
  match ← destination? name with
  | some d => goTo m (if m.detach then { d with branch := none } else d)
  | none =>
    match headBranch? (← files) (← read).repo.dir with
    | some current =>
      if current = name then return
    | none => pure ()
    let place ← argumentPath name
    let isKept := (← index).any fun e => namesPath place e.1
    match ← remoteBranch? name with
    | some (full, id) =>
      if isKept ∧ mayBeFile then
        fatal ("'" ++ name ++ "' could be both a local file and a tracking branch.\n" ++
          "Please use -- (and optionally --no-guess) to disambiguate")
      goToRemote m name full id
    | none =>
      if isKept ∧ mayBeFile then checkoutFiles none "" [name]
      else if mayBeFile then
        refuseLock
        err ("error: pathspec '" ++ name ++ "' did not match any file(s) known to git")
        quit 1
      else fatal ("invalid reference: " ++ name)

/-- Makes a branch and goes there. -/
def checkoutNew (m : Manner) (reset : Bool) (name start : String) : Work Unit := do
  if !isBranchName name then fatal ("'" ++ name ++ "' is not a valid branch name")
  let isThere := (← branch? name).isSome
  if isThere ∧ !reset then fatal ("a branch named '" ++ name ++ "' already exists")
  let dir := (← read).repo.dir
  match ← revision? start with
  | none =>
    if start = "HEAD" ∧ (head? (← files) dir).isNone then
      pointHead name
      if !m.quiet then err ("Switched to a new branch '" ++ name ++ "'")
    else
      fatal ("'" ++ start ++ "' is not a commit and a branch '" ++ name ++
        "' cannot be created from it")
  | some id =>
    let fault := referenceFault? (← files) dir ("refs/heads/" ++ name)
    if let some fault := fault then
      fatal ("cannot lock ref 'refs/heads/" ++ name ++ "': " ++ fault)
    if start = "HEAD" ∧ !isThere then
      let before := headBranch? (← files) dir
      writeReference ("refs/heads/" ++ name) ("refs/heads/" ++ name) id
      pointHead name
      alterVault fun v => { v with previous := before.orElse fun _ => some (hexName id) }
      if !m.quiet then err ("Switched to a new branch '" ++ name ++ "'")
      match ← runHook "post-checkout" [hexName id, hexName id, "1"] with
      | some 0 | none => return
      | some code => quit code
    else goTo { m with isNew := !isThere, isReset := isThere } ⟨name, some name, id⟩

/-- Goes to a branch without a commit. -/
def checkoutOrphan (quiet : Bool) (name : String) : Work Unit := do
  if (← branch? name).isSome then fatal ("a branch named '" ++ name ++ "' already exists")
  pointHead name
  if !quiet then err ("Switched to a new branch '" ++ name ++ "'")

/-- Splits arguments at two dashes. -/
def splitAtDashes (args : List String) : List String × Option (List String) :=
  match args.span (· ≠ "--") with
  | (before, _ :: after) => (before, some after)
  | (before, []) => (before, none)

/-- Goes to another branch, or takes files from elsewhere. -/
def checkout (args : List String) : Work Unit := do
  let _ ← top
  let (before, after) := splitAtDashes args
  match args.getLast? with
  | some "-b" | some "-B" =>
    err ("error: switch `" ++ ((args.getLastD "").drop 1).toString ++ "' requires a value")
    quit 129
  | _ => pure ()
  let lonelyDash := before.contains "-"
  let o := Options.read "bB" (before.filter fun a => a ≠ "-")
  let operands := if lonelyDash then "-" :: o.operands else o.operands
  let m : Manner :=
    { quiet := o.has "q" || o.has "quiet", force := o.has "f" || o.has "force",
      detach := o.has "detach" || o.has "d" }
  if o.has "orphan" then
    checkoutOrphan m.quiet (operands.headD "")
  else if o.has "ours" ∨ o.has "theirs" then
    checkoutSide (o.has "ours") (operands ++ after.getD [])
  else
    match o.value? "b", o.value? "B" with
    | some name, _ => checkoutNew m false name (operands.headD "HEAD")
    | none, some name => checkoutNew m true name (operands.headD "HEAD")
    | none, none =>
      match operands, after with
      | [], some [] => return
      | [], some paths => checkoutFiles none "" paths
      | [name], some [] =>
        match ← destination? name with
        | some d => goTo m (if m.detach then { d with branch := none } else d)
        | none =>
          match ← remoteBranch? name with
          | some (full, id) => goToRemote m name full id
          | none => fatal ("invalid reference: " ++ name)
      | source :: _, some paths =>
        match ← revision? source with
        | some id => checkoutFiles (some ((← store).treeOf id)) (abbreviated id) paths
        | none => fatal ("invalid reference: " ++ source)
      | [], none =>
        if m.detach ∨ m.force then checkoutNamed m false "HEAD"
        else
          tellLocalChanges
      | [name], none => checkoutNamed m true name
      | name :: paths, none =>
        match ← revision? name with
        | some id => checkoutFiles (some ((← store).treeOf id)) (abbreviated id) paths
        | none => checkoutFiles none "" (name :: paths)

/-- Goes to another branch. -/
def switch (args : List String) : Work Unit := do
  let lonelyDash := args.contains "-"
  let o := Options.read "cC" (args.filter fun a => a ≠ "-")
  let operands := if lonelyDash then "-" :: o.operands else o.operands
  let m : Manner :=
    { quiet := o.has "q" || o.has "quiet",
      force := o.has "f" || o.has "force" || o.has "discard-changes",
      detach := o.has "detach" || o.has "d" }
  if (reference? (← files) (← read).repo.dir "MERGE_HEAD").isSome then
    fatal ("cannot switch branch while merging\n" ++
      "Consider \"git merge --quit\" or \"git worktree add\".")
  match o.value? "c", o.value? "C" with
  | some name, _ => checkoutNew m false name (operands.headD "HEAD")
  | none, some name => checkoutNew m true name (operands.headD "HEAD")
  | none, none =>
    if o.has "orphan" then checkoutOrphan m.quiet (operands.headD "")
    else
      match operands with
      | [] => fatal "missing branch or commit argument"
      | name :: _ =>
        match ← destination? name with
        | some d =>
          if d.branch.isNone ∧ !m.detach then
            err ("fatal: a branch is expected, got commit '" ++ name ++ "'")
            err ("hint: If you want to detach HEAD at the commit, " ++
              "try again with the --detach option.")
            quit 128
          goTo m (if m.detach then { d with branch := none } else d)
        | none => checkoutNamed m false name

end Errand.Machine.Git
