import Errand.Machine.Git.Branches
import Errand.Machine.Git.TreeMerge

/-!
# Errand — merges

The command of Git that joins another line of commits to the one that is
checked out: by going forward to it, or by a commit that follows both.

* `merge`      — joins another line of commits.
* `abortMerge` — goes back to before a merge that was begun.
-/

namespace Errand.Machine.Git

open Work

/-- What a merge was asked to be. -/
structure MergeRequest where
  quiet : Bool := false
  /-- A commit is made even if going forward would do. -/
  noForward : Bool := false
  forwardOnly : Bool := false
  squash : Bool := false
  noCommit : Bool := false
  allowUnrelated : Bool := false
  skipHooks : Bool := false
  message : Option String := none
  deriving Inhabited

/-- What a merged commit is called in a message. -/
def mergedName (name : String) : Work String := do
  let dir := (← read).repo.dir
  let now ← files
  let full := (matching now dir name).headD ""
  if full.startsWith "refs/heads/" then return "branch '" ++ (full.drop 11).toString ++ "'"
  else if full.startsWith "refs/tags/" then return "tag '" ++ (full.drop 10).toString ++ "'"
  else if full.startsWith "refs/remotes/" then
    return "remote-tracking branch '" ++ (full.drop 13).toString ++ "'"
  else return "commit '" ++ name ++ "'"

/-- The message of a merge. -/
def mergeMessage (name : String) : Work String := do
  let dir := (← read).repo.dir
  let target := match headBranch? (← files) dir with
    | some "main" | some "master" => ""
    | some branch => " into " ++ branch
    | none => " into HEAD"
  return "Merge " ++ (← mergedName name) ++ target ++ "\n"

/-- Goes forward to a commit that follows the one checked out. -/
def goForward (r : MergeRequest) (head other : Nat) : Work Unit := do
  if !r.quiet then out ("Updating " ++ abbreviated head ++ ".." ++ abbreviated other)
  let s ← store
  let lock := lockPath (← read).repo.dir "index"
  if (← files).exists? lock then
    err ("error: " ++ lockAdvice lock)
    quit 1
  if !(← switchFiles mergeWording (s.treeOf head) (s.treeOf other)) then quit 1
  if r.squash then
    if !r.quiet then
      out "Fast-forward"
      out "Squash commit -- not updating HEAD"
  else
    if !r.quiet then out "Fast-forward"
    advanceHead "update_ref failed for ref 'HEAD': " other
  let _ ← runHook "post-merge" [if r.squash then "1" else "0"]

/-- Takes a commit over where there is none yet. -/
def startAt (other : Nat) : Work Unit := do
  let target := (← store).treeOf other
  let ns ← needs [] target
  let inWay := placesOf .untracked ns ++ placesOf .directory ns
  if !inWay.isEmpty then
    for place in inWay.take 1 do
      err ("error: Untracked working tree file '" ++ place ++ "' would be overwritten by merge.")
    fatal "read-tree failed"
  for (path, b) in target do
    place path (some b)
  advanceHead "" other

/-- Notes a merge that is to be concluded by a commit. -/
def noteMerge (r : MergeRequest) (other : Nat) (message : String) : Work Unit := do
  writeFile "MERGE_MSG" message
  if r.squash then pure ()
  else
    writeFile "MERGE_HEAD" (hexName other ++ "\n")
    writeFile "MERGE_MODE" (if r.noForward then "no-ff" else "")

/-- Concludes a merge by a commit. -/
def concludeMerge (r : MergeRequest) (head other : Nat) (tree : Tree) (message : String) :
    Work Unit := do
  noteMerge r other message
  let refuse : Work Unit := do
    err "Not committing merge; use 'git commit' to complete the merge."
    quit 1
  if !r.skipHooks then
    match ← runHook "pre-merge-commit" [] with
    | some 0 | none => pure ()
    | some _ => refuse
  let path := ".git/MERGE_MSG"
  match ← runHook "prepare-commit-msg" [path, "merge"] with
  | some 0 | none => pure ()
  | some _ => refuse
  if !r.skipHooks then
    match ← runHook "commit-msg" [path] with
    | some 0 | none => pure ()
    | some _ => refuse
  let dir := (← read).repo.dir
  let text := cleaned (((← files).content? (dir ++ ["MERGE_MSG"])).getD message)
  if text.isEmpty then
    err "error: Empty commit message."
    refuse
  let i ← index
  let tree := if (Index.unmerged i).isEmpty then Index.tree i else tree
  let id ← addCommit ⟨tree, [head, other], text⟩
  if !r.quiet then out "Merge made by the 'ort' strategy."
  advanceHead "update_ref failed for ref 'HEAD': " id
  forgetMerge
  let _ ← runHook "post-merge" ["0"]

/-- The files that two lines of commits have in common, and whether they have any. -/
def commonFiles (head other : Nat) : Work (Option Tree) := do
  let s ← store
  match s.mergeBases head other with
  | [] => return none
  | base :: _ => return some (s.treeOf base)

/-- Refuses a merge while changes are staged. -/
def refuseStaged (head : Tree) : Work Unit := do
  let i ← index
  let changed := (pathsOf [head.map Prod.fst, i.paths]).filter fun path =>
    stagedBlob i path ≠ valueAt path head
  if !changed.isEmpty then
    err "error: Your local changes to the following files would be overwritten by merge:"
    err ("  " ++ String.intercalate " " changed)
    err "Merge with strategy ort failed."
    quit 2

/-- Joins a line of commits that went its own way. -/
def joinLines (r : MergeRequest) (name : String) (base : Tree) (head other : Nat) :
    Work Unit := do
  let s ← store
  let ours := s.treeOf head
  let message ← match r.message with
    | some text => pure (text ++ "\n")
    | none => mergeMessage name
  let giveUp (conflicts : List String) : Work Unit := do
    noteMerge r other (message ++ "\n# Conflicts:\n" ++
      String.join (conflicts.map fun path => "#\t" ++ path ++ "\n"))
    out "Automatic merge failed; fix conflicts and then commit the result."
    quit 1
  if (← files).exists? (lockPath (← read).repo.dir "index") then
    err "error: Unable to write index."
    giveUp []
  refuseStaged ours
  let outcome := TreeMerge.merge ⟨"HEAD", name⟩ base ours (s.treeOf other)
  if !(← switchFiles mergeWording ours outcome.files) then
    err "Merge with strategy ort failed."
    quit 2
  setIndex outcome.index
  if !r.quiet ∨ !outcome.isClean then
    for line in outcome.remarks do
      out line
  if outcome.isClean then
    if r.squash then
      noteMerge r other message
      out "Squash commit -- not updating HEAD"
    else if r.noCommit then
      noteMerge r other message
      out "Automatic merge went well; stopped before committing as requested"
    else concludeMerge r head other outcome.files message
  else giveUp (Index.unmerged outcome.index)

/-- Goes back to before a merge that was begun. -/
def abortMerge : Work Unit := do
  let dir := (← read).repo.dir
  if (reference? (← files) dir "MERGE_HEAD").isNone then
    fatal "There is no merge to abort (MERGE_HEAD missing)."
  refuseLock
  resetMerge (← headTree)
  forgetMerge

/-- Joins the line of commits that a name means. -/
def mergeNamed (r : MergeRequest) (name : String) : Work Unit := do
  let dir := (← read).repo.dir
  refuseUnmerged "Merging" false
  if (reference? (← files) dir "MERGE_HEAD").isSome then
    fatal ("You have not concluded your merge (MERGE_HEAD exists).\n" ++
      "Please, commit your changes before you merge.")
  match ← revision? name with
  | none =>
    err ("merge: " ++ name ++ " - not something we can merge")
    let remotes := (referencesIn (← files) dir "refs/remotes").filter fun (full, _) =>
      String.intercalate "/" ((full.splitOn "/").drop 1) = name
    if !remotes.isEmpty then
      err ("\nDid you mean " ++ (if remotes.length = 1 then "this?" else "one of these?"))
      for (full, _) in remotes do
        err ("\t" ++ full)
    quit 1
  | some other =>
    warnAmbiguous name
    match head? (← files) dir with
    | none => startAt other
    | some head =>
      let s ← store
      if s.follows head other then
        if !r.quiet then out "Already up to date."
      else if s.follows other head ∧ !r.noForward then goForward r head other
      else
        let base ← commonFiles head other
        if base.isNone ∧ !r.allowUnrelated then fatal "refusing to merge unrelated histories"
        if r.forwardOnly then fatal "Not possible to fast-forward, aborting."
        joinLines r name (base.getD []) head other

/-- Joins another line of commits, or deals with a merge that was begun. -/
def merge (args : List String) : Work Unit := do
  let _ ← top
  let o := Options.read "mXs" args
  let isTold := o.has "ff" || o.has "no-ff" || o.has "ff-only"
  let usual := (setting? (← files) (← read).repo.dir "merge.ff").filter fun _ => !isTold
  let r : MergeRequest :=
    { quiet := o.has "q" || o.has "quiet", noForward := o.has "no-ff" || usual = some "false",
      forwardOnly := o.has "ff-only" || usual = some "only",
      squash := o.has "squash", noCommit := o.has "no-commit",
      allowUnrelated := o.has "allow-unrelated-histories", skipHooks := o.has "no-verify",
      message := o.value? "m" }
  if o.has "abort" then abortMerge
  else if o.has "quit" then forgetMerge
  else if o.has "continue" then
    if (reference? (← files) (← read).repo.dir "MERGE_HEAD").isNone then
      fatal "There is no merge in progress (MERGE_HEAD missing)."
    makeCommit {}
  else
    match o.operands with
    | [] =>
      if (headBranch? (← files) (← read).repo.dir).isNone then fatal "No current branch."
      fatal "No remote for the current branch."
    | name :: _ => mergeNamed r name

end Errand.Machine.Git
