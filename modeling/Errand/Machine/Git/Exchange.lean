import Errand.Machine.Git.Joining

/-!
# Errand — other repositories

The commands of Git that make repositories and carry commits from one to
another.

* `create`, `clone`  — new repositories.
* `remote`           — the names of other repositories.
* `push`, `fetch`, `pull` — commits carried there and back.
-/

namespace Errand.Machine.Git

open Work

-- ---------------------------------------------------------------------------
-- New repositories
-- ---------------------------------------------------------------------------

/-- The settings of a new repository. -/
def freshSettings (bare : Bool) : List Setting :=
  [⟨"core", "", "repositoryformatversion", "0"⟩, ⟨"core", "", "filemode", "true"⟩,
   ⟨"core", "", "bare", toString bare⟩] ++
  (if bare then [] else [⟨"core", "", "logallrefupdates", "true"⟩])

/-- The lines that a new file of ignored paths begins with. -/
def excludeText : String :=
  "# git ls-files --others --exclude-from=.git/info/exclude\n" ++
  "# Lines that start with '#' are comments.\n" ++
  "# For a project mostly in C, the following would be a good set of\n" ++
  "# exclude patterns (uncomment them if you want to use them):\n" ++
  "# *.[oa]\n# *~\n"

/-- Makes a repository in a directory. -/
def createAt (path : Path) (bare : Bool) (branch : String) : M Repo := do
  let dir := if bare then path else path ++ [".git"]
  let files := (← get).files
  if !isRepository files dir then
    let names := [["objects"], ["refs", "heads"], ["refs", "tags"], ["hooks"], ["info"]]
    alterFiles fun files =>
      let files := names.foldl (fun (f : Files) name => f.makePath (dir ++ name)) files
      let files := files.put (dir ++ ["HEAD"]) (.file ("ref: refs/heads/" ++ branch ++ "\n") false)
      let files := files.put (dir ++ ["config"]) (.file (settingsText (freshSettings bare)) false)
      files.put (dir ++ ["info", "exclude"]) (.file excludeText false)
    modify fun w => { w with git := w.git.setVault dir {} }
  return ⟨dir, if bare then none else some path⟩

/-- Makes a repository. -/
def create (p : Process) (args : List String) : M ExitStatus := do
  let o := Options.read "b" args
  let path := match o.operands with
    | name :: _ => p.path name
    | [] => p.directory
  let branch := ((o.value? "b").orElse fun _ => o.value? "initial-branch").getD "master"
  let bare := o.has "bare"
  let isThere := isRepository (← get).files (if bare then path else path ++ [".git"])
  let repo ← createAt path bare branch
  if !o.has "q" ∧ !o.has "quiet" then
    say p ((if isThere then "Reinitialized existing" else "Initialized empty") ++
      " Git repository in " ++ Path.text repo.dir ++ "/\n")
  return Tool.success

-- ---------------------------------------------------------------------------
-- Names of other repositories
-- ---------------------------------------------------------------------------

/-- The address of another repository by its name. -/
def remoteAddress? (name : String) : Work (Option String) := do
  return setting? (← files) (← read).repo.dir ("remote." ++ name ++ ".url")

/-- The repository at an address. -/
def repositoryAt (address : String) : Work (Option Repo) := do
  let s ← read
  let plain := if address.startsWith "file://" then (address.drop 7).toString else address
  let home := s.repo.top.getD s.repo.dir
  let path := Path.resolve home plain
  let now ← files
  if isRepository now (path ++ [".git"]) then return some ⟨path ++ [".git"], some path⟩
  else if isRepository now path then
    let top := if path.getLast? = some ".git" then some path.dropLast else none
    return some ⟨path, top⟩
  else if isRepository now (path.dropLast ++ [path.getLastD "" ++ ".git"]) then
    return some ⟨path.dropLast ++ [path.getLastD "" ++ ".git"], none⟩
  else return none

/-- Refuses an address at which there is no repository. -/
def refuseAddress {α : Type} (address : String) : Work α := do
  err ("fatal: '" ++ address ++ "' does not appear to be a git repository")
  err "fatal: Could not read from remote repository."
  err ""
  err "Please make sure you have the correct access rights"
  err "and the repository exists."
  quit 128

/-- Names, forgets or lists other repositories. -/
def remote (args : List String) : Work Unit := do
  let dir := (← read).repo.dir
  match args.filter fun a => a ≠ "-f" with
  | "add" :: name :: url :: _ =>
    if (← remoteAddress? name).isSome then
      err ("error: remote " ++ name ++ " already exists.")
      quit 3
    putSetting ("remote." ++ name ++ ".url") url
    putSetting ("remote." ++ name ++ ".fetch") ("+refs/heads/*:refs/remotes/" ++ name ++ "/*")
  | "remove" :: name :: _ | "rm" :: name :: _ =>
    if (← remoteAddress? name).isNone then
      err ("error: No such remote: '" ++ name ++ "'")
      quit 2
    keepSettings fun s => !(s.area = "remote" && s.part = name)
    removeFile ("refs/remotes/" ++ name)
  | "set-url" :: name :: url :: _ =>
    if (← remoteAddress? name).isNone then
      err ("error: No such remote '" ++ name ++ "'")
      quit 2
    putSetting ("remote." ++ name ++ ".url") url
  | "get-url" :: name :: _ =>
    match ← remoteAddress? name with
    | some url => out url
    | none =>
      err ("error: No such remote '" ++ name ++ "'")
      quit 2
  | "rename" :: old :: new :: _ =>
    match ← remoteAddress? old with
    | some url =>
      keepSettings fun s => !(s.area = "remote" && s.part = old)
      putSetting ("remote." ++ new ++ ".url") url
      putSetting ("remote." ++ new ++ ".fetch") ("+refs/heads/*:refs/remotes/" ++ new ++ "/*")
      removeFile ("refs/remotes/" ++ old)
    | none =>
      err ("error: No such remote: '" ++ old ++ "'")
      quit 2
  | rest =>
    for s in settings (← files) dir do
      if s.area = "remote" ∧ s.name = "url" then
        if rest.contains "-v" then
          out (s.part ++ "\t" ++ s.value ++ " (fetch)")
          out (s.part ++ "\t" ++ s.value ++ " (push)")
        else out s.part

-- ---------------------------------------------------------------------------
-- From another repository
-- ---------------------------------------------------------------------------

/-- Takes over the commits that a commit follows. -/
def takeHistory (ids : List Nat) : Work Unit := do
  let s ← store
  know (ids.flatMap s.history)

/-- Takes the branches of another repository over under its name. -/
def fetchFrom (name address : String) : Work Repo := do
  match ← repositoryAt address with
  | none => refuseAddress address
  | some other =>
    let heads := referencesIn (← files) other.dir "refs/heads"
    takeHistory (heads.map Prod.snd)
    if (← remoteAddress? name).isSome then
      for (branch, id) in heads do
        let full := "refs/remotes/" ++ name ++ "/" ++ branch
        writeReference full full id
    let tags := referencesIn (← files) other.dir "refs/tags"
    for (tag, id) in tags do
      let full := "refs/tags/" ++ tag
      if (reference? (← files) (← read).repo.dir full).isNone ∧ (← vault).known.contains id then
        writeReference full full id
    return other

/-- The name of the repository that a branch follows. -/
def usualRemote : Work String := do
  let dir := (← read).repo.dir
  match headBranch? (← files) dir with
  | some branch =>
    return (setting? (← files) dir ("branch." ++ branch ++ ".remote")).getD "origin"
  | none => return "origin"

/-- Takes the commits of another repository over. -/
def fetch (args : List String) : Work Unit := do
  let o := Options.read "" args
  let name ← match o.operands with
    | name :: _ => pure name
    | [] => usualRemote
  let address := (← remoteAddress? name).getD name
  let other ← fetchFrom name address
  let wanted := o.operands[1]?.getD "HEAD"
  let id := revisionIn (← files) other.dir (← store) wanted
  match id with
  | some id =>
    takeHistory [id]
    writeFile "FETCH_HEAD" (hexName id ++ "\n")
  | none =>
    if 1 < o.operands.length then fatal ("couldn't find remote ref " ++ wanted)

/-- Takes the commits of another repository over and joins them. -/
def pull (args : List String) : Work Unit := do
  let o := Options.read "" args
  let name ← match o.operands with
    | name :: _ => pure name
    | [] => usualRemote
  let dir := (← read).repo.dir
  let branch := (o.operands[1]?).getD ((headBranch? (← files) dir).getD "HEAD")
  let address := (← remoteAddress? name).getD name
  let other ← fetchFrom name address
  match revisionIn (← files) other.dir (← store) branch with
  | none => fatal ("couldn't find remote ref " ++ branch)
  | some id =>
    takeHistory [id]
    writeFile "FETCH_HEAD" (hexName id ++ "\n")
    let r : MergeRequest :=
      { quiet := o.has "q", noForward := o.has "no-ff", forwardOnly := o.has "ff-only",
        message := some ("Merge branch '" ++ branch ++ "' of " ++ address) }
    let head := head? (← files) dir
    let s ← store
    let diverged := head.any fun h => !s.follows h id && !s.follows id h
    if diverged ∧ !o.has "no-rebase" ∧ !o.has "no-ff" ∧
        (setting? (← files) dir "pull.rebase").isNone then
      fatal "Need to specify how to reconcile divergent branches."
    mergeNamed r "FETCH_HEAD"

/-- Makes a copy of a repository. -/
def cloneInto (address : String) (path : Path) (bare quiet : Bool) (branch : Option String) :
    Work Unit := do
  match ← repositoryAt address with
  | none => fatal ("repository '" ++ address ++ "' does not exist")
  | some other =>
    if !quiet then
      err ("Cloning into " ++ (if bare then "bare repository " else "") ++ "'" ++
        path.getLastD "" ++ "'...")
    let now ← files
    let current := branch.getD ((headBranch? now other.dir).getD "master")
    let repo ← onMachine (createAt path bare current)
    let inside {α : Type} (w : Work α) : Work α := fun s => w { s with repo := repo }
    let heads := referencesIn now other.dir "refs/heads"
    inside do
      takeHistory (heads.map Prod.snd)
      putSetting "remote.origin.url" (if bare then address else
        if address.startsWith "/" then address
        else Path.text (other.top.getD other.dir))
      if bare then
        for (name, id) in heads do
          writeReference name ("refs/heads/" ++ name) id
      else
        putSetting "remote.origin.fetch" "+refs/heads/*:refs/remotes/origin/*"
        for (name, id) in heads do
          writeReference name ("refs/remotes/origin/" ++ name) id
        for (name, id) in referencesIn now other.dir "refs/tags" do
          writeReference name ("refs/tags/" ++ name) id
        match valueAt current heads with
        | some id =>
          putSetting ("branch." ++ current ++ ".remote") "origin"
          putSetting ("branch." ++ current ++ ".merge") ("refs/heads/" ++ current)
          writeFile "refs/remotes/origin/HEAD" ("ref: refs/remotes/origin/" ++ current ++ "\n")
          writeReference "HEAD" ("refs/heads/" ++ current) id
          forceFiles ((← store).treeOf id)
        | none =>
          if heads.isEmpty then err "warning: You appear to have cloned an empty repository."
          else err "warning: remote HEAD refers to nonexistent ref, unable to checkout"

/-- Makes a copy of a repository. -/
def clone (args : List String) : Work Unit := do
  let o := Options.read "bo" args
  let p := (← read).process
  match o.operands with
  | [] => fatal "You must specify a repository to clone."
  | address :: rest =>
    let named := (Similarity.lastName (if address.endsWith "/" then (address.dropEnd 1).toString
      else address))
    let named := if named.endsWith ".git" then (named.dropEnd 4).toString else named
    let target := p.path (rest.headD named)
    let now ← files
    if now.exists? target ∧ !(now.children target).isEmpty then
      fatal ("destination path '" ++ rest.headD named ++
        "' already exists and is not an empty directory.")
    cloneInto address target (o.has "bare") (o.has "q" || o.has "quiet")
      ((o.value? "b").orElse fun _ => o.value? "branch")

-- ---------------------------------------------------------------------------
-- To another repository
-- ---------------------------------------------------------------------------

/-- A reference that is to be carried over. -/
structure Carried where
  /-- The name here, and what it names; nothing if the one there is to be removed. -/
  source : String
  commit : Option Nat
  target : String
  force : Bool := false
  deriving Inhabited

/-- What came of a reference that was to be carried over. -/
inductive Reception where
  | upToDate
  | done (isNew : Bool)
  /-- Refused here, for a reason. -/
  | rejected (reason : String)
  /-- Refused there, for a reason. -/
  | refused (reason : String)
  deriving DecidableEq, Inhabited, Repr

/-- The full name that a name on this side is short for. -/
def localReference (name : String) : Work (Except String (String × Nat)) := do
  let dir := (← read).repo.dir
  let now ← files
  let full := if name = "HEAD" ∨ name = "@" then
      ((headBranch? now dir).map fun b => ["refs/heads/" ++ b]).getD ["HEAD"]
    else (matching now dir name).filter fun f => f ≠ "HEAD"
  match full with
  | [one] =>
    match reference? now dir one with
    | some id => return .ok (one, id)
    | none => return .error ("src refspec " ++ name ++ " does not match any")
  | [] =>
    match ← revision? name with
    | some id => return .ok (name, id)
    | none => return .error ("src refspec " ++ name ++ " does not match any")
  | _ => return .error ("src refspec " ++ name ++ " matches more than one")

/-- Why a name on the other side could not be told from what it is to name. -/
def unclearTarget (source target : String) : String :=
  "The destination you provided is not a full refname (i.e.,\n" ++
  "starting with \"refs/\"). We tried to guess what you meant by:\n\n" ++
  "- Looking for a ref that matches '" ++ target ++ "' on the remote side.\n" ++
  "- Checking if the <src> being pushed ('" ++ source ++ "')\n" ++
  "  is a ref in \"refs/\x7bheads,tags\x7d/\". If so we add a corresponding\n" ++
  "  refs/\x7bheads,tags\x7d/ prefix on the remote side.\n\n" ++
  "Neither worked, so we gave up. You must fully qualify the ref.\n" ++
  "hint: The <src> part of the refspec is a commit object.\n" ++
  "hint: Did you mean to create a new branch by pushing to\n" ++
  "hint: '" ++ source ++ ":refs/heads/" ++ target ++ "'?"

/-- The full name that a name on the other side is short for. -/
def targetReference (other : Repo) (source name : String) : Work (Except String String) := do
  if name.startsWith "refs/" then return .ok name
  else
    match (matching (← files) other.dir name).filter fun full => full ≠ "HEAD" with
    | full :: _ => return .ok full
    | [] =>
      if source.isEmpty then
        return .error ("unable to delete '" ++ name ++ "': remote ref does not exist")
      else if source.startsWith "refs/heads/" then return .ok ("refs/heads/" ++ name)
      else if source.startsWith "refs/tags/" then return .ok ("refs/tags/" ++ name)
      else return .error (unclearTarget source name)

/-- A written pair of names, or a single one, asks for something. -/
def isCarriable (written : String) : Bool :=
  let written := if written.startsWith "+" then (written.drop 1).toString else written
  match written.splitOn ":" with
  | [source] => source = "@" || isReferenceName source
  | [_, target] => isReferenceName target
  | _ => false

/-- What a written pair of names asks to be carried over. -/
def carriedOf (other : Repo) (force : Bool) (written : String) :
    Work (Except String Carried) := do
  let (force, written) :=
    if written.startsWith "+" then (true, (written.drop 1).toString) else (force, written)
  let (source, target) := match written.splitOn ":" with
    | source :: target :: _ => (source, some target)
    | parts => (parts.headD "", none)
  if source.isEmpty then
    return (← targetReference other "" (target.getD "")).map fun full => ⟨"", none, full, force⟩
  else
    match ← localReference source with
    | .error reason => return .error reason
    | .ok (full, id) =>
      if target.isNone ∧ full.startsWith "refs/" then return .ok ⟨full, some id, full, force⟩
      else
        let there ← targetReference other full (target.getD source)
        return there.map fun there => ⟨full, some id, there, force⟩

/-- A name of a reference as a report shows it. -/
def shown (full : String) : String :=
  if full.startsWith "refs/heads/" then (full.drop 11).toString
  else if full.startsWith "refs/tags/" then (full.drop 10).toString
  else if full.startsWith "refs/remotes/" then (full.drop 13).toString
  else full

/-- What this side has to say against carrying a reference over. -/
def objection? (other : Repo) (c : Carried) : Work (Option Reception) := do
  let there := reference? (← files) other.dir c.target
  match c.commit, there with
  | some new, some old =>
    if new = old then return some .upToDate
    else if c.force then return none
    else if c.target.startsWith "refs/tags/" then return some (.rejected "already exists")
    else if !(← vault).known.contains old then return some (.rejected "fetch first")
    else if !(← store).follows new old then return some (.rejected "non-fast-forward")
    else return none
  | _, _ => return none

/-- The words in which the other side refuses to change what is checked out there. -/
def checkedOutAdvice (target : String) : List String :=
  ["error: refusing to update checked out branch: " ++ target,
   "error: By default, updating the current branch in a non-bare repository",
   "is denied, because it will make the index and work tree inconsistent",
   "with what you pushed, and will require 'git reset --hard' to match",
   "the work tree to HEAD.", "",
   "You can set the 'receive.denyCurrentBranch' configuration variable",
   "to 'ignore' or 'warn' in the remote repository to allow pushing into",
   "its current branch; however, this is not recommended unless you",
   "arranged to update its work tree to match what you pushed in some",
   "other way.", "",
   "To squelch this message and still keep the default behaviour, set",
   "'receive.denyCurrentBranch' configuration variable to 'refuse'."]

/-- Passes on what the other side said, each line with its mark. -/
def passOn (lines : List String) : Work Unit := do
  for line in lines do
    err ("remote: " ++ (if line.isEmpty then "" else line ++ "        "))

/-- Runs a program of the other side and passes on what it prints. -/
def runThere (other : Repo) (name : String) (args : List String) (input : String) :
    Work (Option Nat) := do
  let sink ← onMachine (newChannel (.sink []))
  let source ← onMachine (newChannel (.source input.toList))
  let there (s : Session) : Session :=
    { s with repo := { other with top := none }, process := s.process.withDescriptor 2 sink }
  let found ← (fun s => runHookWith source sink name args (there s) : Work (Option Nat))
  let text ← onMachine (Machine.written sink)
  passOn ((Tool.linesOf text.toList).map String.ofList)
  return found

/-- Forty zeros, which stand for no commit. -/
def noCommit : String := String.ofList (List.replicate 40 '0')

/-- The line that tells a program of a reference that changes. -/
def changeLine (other : Repo) (c : Carried) : Work String := do
  let old := reference? (← files) other.dir c.target
  return (old.map hexName).getD noCommit ++ " " ++ (c.commit.map hexName).getD noCommit ++ " " ++
    c.target

/-- Carries a reference over to the other side, which may refuse. -/
def carry (other : Repo) (c : Carried) : Work Reception := do
  let now ← files
  let old := reference? now other.dir c.target
  let current := (headBranch? now other.dir).map fun b => "refs/heads/" ++ b
  let policy := (setting? now other.dir "receive.denycurrentbranch").getD "refuse"
  let isBare := other.top.isNone
  let refuses := policy = "refuse" || policy = "true"
  if !isBare ∧ current = some c.target ∧ refuses ∧ c.commit.isSome then
    passOn (checkedOutAdvice c.target)
    return .refused "branch is currently checked out"
  if setting? now other.dir "receive.denynonfastforwards" = some "true" then
    match c.commit, old with
    | some new, some old =>
      if !(← store).follows new old then
        passOn ["error: denying non-fast-forward " ++ c.target ++
          " (you should pull first)"]
        return .refused "non-fast-forward"
    | _, _ => pure ()
  match ← runThere other "update" [c.target, (old.map hexName).getD noCommit,
      (c.commit.map hexName).getD noCommit] "" with
  | some 0 | none => pure ()
  | some _ =>
    passOn ["error: hook declined to update " ++ c.target]
    return .refused "hook declined"
  match referenceFault? now other.dir c.target with
  | some _ => return .refused "failed to update ref"
  | none =>
    let inside (w : Work Unit) : Work Unit := fun s => w { s with repo := other }
    inside do
      match c.commit with
      | some id =>
        takeHistory [id]
        writeReference c.target c.target id
      | none => dropReference c.target
    return .done old.isNone

/-- The line that tells what came of a reference. -/
def receptionLine (c : Carried) (old : Option Nat) : Reception → Option String
  | .upToDate => none
  | .done _ =>
    let pair := shown c.source ++ " -> " ++ shown c.target
    match c.commit, old with
    | none, _ => some (" - [deleted]         " ++ shown c.target)
    | some _, none =>
      some ((if c.target.startsWith "refs/tags/" then " * [new tag]         "
        else " * [new branch]      ") ++ pair)
    | some new, some old =>
      some ("   " ++ abbreviated old ++ ".." ++ abbreviated new ++ "  " ++ pair)
  | .rejected reason =>
    some (" ! [rejected]        " ++ shown c.source ++ " -> " ++ shown c.target ++ " (" ++ reason ++
      ")")
  | .refused reason =>
    let pair := if c.commit.isNone then shown c.target
      else shown c.source ++ " -> " ++ shown c.target
    some (" ! [remote rejected] " ++ pair ++ " (" ++ reason ++ ")")

/-- The advice on references that were rejected here. -/
def rejectionAdvice (current : Option String) (results : List (Carried × Reception)) :
    List String :=
  let rejectedFor (reason : String) : List Carried :=
    (results.filter fun r => r.2 = .rejected reason).map Prod.fst
  let behind := rejectedFor "non-fast-forward"
  let isCurrent (c : Carried) : Bool := current.any fun b => c.source = "refs/heads/" ++ b
  let note := "hint: See the 'Note about fast-forwards' in 'git push --help' for details."
  if behind.any isCurrent then
    ["hint: Updates were rejected because the tip of your current branch is behind",
     "hint: its remote counterpart. Integrate the remote changes (e.g.",
     "hint: 'git pull ...') before pushing again.", note]
  else if !behind.isEmpty then
    ["hint: Updates were rejected because a pushed branch tip is behind its remote",
     "hint: counterpart. Check out this branch and integrate the remote changes",
     "hint: (e.g. 'git pull ...') before pushing again.", note]
  else if !(rejectedFor "already exists").isEmpty then
    ["hint: Updates were rejected because the tag already exists in the remote."]
  else if !(rejectedFor "fetch first").isEmpty then
    ["hint: Updates were rejected because the remote contains work that you do",
     "hint: not have locally. This is usually caused by another repository pushing",
     "hint: to the same ref. You may want to first integrate the remote changes",
     "hint: (e.g., 'git pull ...') before pushing again.", note]
  else []

/-- Notes what the other side has now, for the repository by that name. -/
def noteRemote (name : String) (c : Carried) : Work Unit := do
  if (← remoteAddress? name).isSome ∧ c.target.startsWith "refs/heads/" then
    let full := "refs/remotes/" ++ name ++ "/" ++ (c.target.drop 11).toString
    match c.commit with
    | some id => writeReference full full id
    | none => dropReference full

/-- Carries references over to another repository. -/
def pushTo (name address : String) (other : Repo) (quiet setsTracking skipHooks : Bool)
    (wanted : List Carried) : Work Unit := do
  let dir := (← read).repo.dir
  let judged ← wanted.mapM fun c => do return (c, ← objection? other c)
  let lines ← wanted.mapM fun c => do
    let old := reference? (← files) other.dir c.target
    return (if c.source.isEmpty then "(delete)" else c.source) ++ " " ++
      (c.commit.map hexName).getD noCommit ++ " " ++ c.target ++ " " ++
      (old.map hexName).getD noCommit ++ "\n"
  let failed := "error: failed to push some refs to '" ++ address ++ "'"
  if !skipHooks then
    let source ← onMachine (newChannel (.source (String.join lines).toList))
    let p := (← read).process
    let output := (p.channel? 1).getD source
    match ← runHookWith source output "pre-push" [name, address] with
    | some 0 | none => pure ()
    | some _ =>
      err failed
      quit 1
  let before := wanted.map fun c => (c.target, c)
  let olds ← before.mapM fun (target, _) => do
    return (target, reference? (← files) other.dir target)
  let toCarry := (judged.filter fun j => j.2.isNone).map Prod.fst
  let mut declined := false
  if !toCarry.isEmpty then
    let changes ← toCarry.mapM (changeLine other)
    match ← runThere other "pre-receive" [] (String.join (changes.map (· ++ "\n"))) with
    | some 0 | none => pure ()
    | some _ => declined := true
  let mut results : List (Carried × Reception) := []
  for (c, objection) in judged do
    match objection with
    | some r => results := results ++ [(c, r)]
    | none =>
      if declined then results := results ++ [(c, .refused "pre-receive hook declined")]
      else results := results ++ [(c, ← carry other c)]
  let carriedOver := (results.filter fun r => r.2 matches .done _).map Prod.fst
  if !carriedOver.isEmpty then
    let changes := carriedOver.map fun c =>
      (((valueAt c.target olds).join).map hexName).getD noCommit ++ " " ++
        (c.commit.map hexName).getD noCommit ++ " " ++ c.target ++ "\n"
    let _ ← runThere other "post-receive" [] (String.join changes)
  for c in carriedOver do
    noteRemote name c
  if setsTracking then
    for (c, r) in results do
      if (r matches .done _) ∨ r = .upToDate then
        putSetting ("branch." ++ shown c.source ++ ".remote") name
        putSetting ("branch." ++ shown c.source ++ ".merge") c.target
        if !quiet then
          out ("branch '" ++ shown c.source ++ "' set up to track '" ++ name ++ "/" ++
            shown c.target ++ "'.")
  let failures := results.filter fun r => !((r.2 matches .done _) || r.2 = .upToDate)
  let told := if quiet then failures else results
  let told := told.filterMap fun (c, r) =>
    receptionLine c ((valueAt c.target olds).join) r
  if !told.isEmpty then
    err ("To " ++ address)
    for line in told do
      err line
  else if failures.isEmpty ∧ !quiet then err "Everything up-to-date"
  if !failures.isEmpty then
    err failed
    for line in rejectionAdvice (headBranch? (← files) dir) results do
      err line
    quit 1

/-- What is carried over if nothing is named. -/
def usualCarried (name : String) (setsTracking : Bool) : Work (List String) := do
  let dir := (← read).repo.dir
  match headBranch? (← files) dir with
  | none =>
    fatal ("You are not currently on a branch.\n" ++
      "To push the history leading to the current (detached HEAD)\nstate now, use\n\n" ++
      "    git push " ++ name ++ " HEAD:<name-of-remote-branch>\n")
  | some branch =>
    let isTracked := (setting? (← files) dir ("branch." ++ branch ++ ".merge")).isSome
    if !isTracked ∧ !setsTracking then
      fatal ("The current branch " ++ branch ++ " has no upstream branch.\n" ++
        "To push the current branch and set the remote as upstream, use\n\n" ++
        "    git push --set-upstream " ++ name ++ " " ++ branch ++ "\n\n" ++
        "To have this happen automatically for branches without a tracking\n" ++
        "upstream, see 'push.autoSetupRemote' in 'git help config'.\n")
    return [branch]

/-- Carries commits over to another repository. -/
def push (args : List String) : Work Unit := do
  let o := Options.read "o" args
  let dir := (← read).repo.dir
  let setsTracking := o.has "u" || o.has "set-upstream"
  let name ← match o.operands with
    | name :: _ => pure name
    | [] => usualRemote
  let address? ← remoteAddress? name
  if o.operands.isEmpty ∧ address?.isNone then
    fatal ("No configured push destination.\n" ++
      "Either specify the URL from the command-line or configure a remote repository using\n\n" ++
      "    git remote add <name> <url>\n\nand then push using the remote name\n\n" ++
      "    git push <name>\n")
  let address := address?.getD name
  let written ←
    if o.has "all" then
      pure ((referencesIn (← files) dir "refs/heads").map fun r => "refs/heads/" ++ r.1)
    else if o.has "tags" then
      pure ((referencesIn (← files) dir "refs/tags").map fun r => "refs/tags/" ++ r.1)
    else
      match o.operands.drop 1 with
      | [] => usualCarried name setsTracking
      | names => pure (if o.has "delete" ∨ o.has "d" then names.map (":" ++ ·) else names)
  for name in written do
    if !isCarriable name then fatal ("invalid refspec '" ++ name ++ "'")
  if address.isEmpty then
    fatal "no path specified; see 'git help pull' for valid url syntax"
  match ← repositoryAt address with
  | none => refuseAddress address
  | some other =>
    let found ← written.mapM (carriedOf other (o.has "f" || o.has "force"))
    let faults := found.filterMap fun f => match f with
      | .error reason => some reason
      | .ok _ => none
    if !faults.isEmpty then
      for reason in faults do
        err ("error: " ++ reason)
      err ("error: failed to push some refs to '" ++ address ++ "'")
      quit 1
    let wanted := found.filterMap fun f => match f with
      | .ok c => some c
      | .error _ => none
    pushTo name address other (o.has "q" || o.has "quiet") setsTracking (o.has "no-verify") wanted

end Errand.Machine.Git
