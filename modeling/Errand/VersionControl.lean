import Errand.Child.Host
import Errand.Request

/-!
# Errand — the repository

The repository is worked on through the command line of Git. Each operation
is one or two commands, and its failure quotes what the command printed.

* `VersionControl.stageAll`, `commit`, `currentBranch`, `checkout`, `merge`,
  `abortMerge`, `push` — the operations that a run asks for.
* `hasStagedChanges`, `mergeInProgress` — the two questions they rest on.

All of them are written over a function that runs one command, so they can be
read against any behaviour of that command.
-/

namespace Errand.VersionControl

/-- A way to run one command of Git, given its arguments. -/
abbrev Runner (m : Type → Type) := List String → m (Except Failure ChildOutput)

variable {m : Type → Type} [Monad m]

/-- The commands of Git on a host. -/
def onHost (host : Host m) : Runner m := fun args => do
  match ← host.run { program := "git", arguments := args } with
  | .error f => return .error ⟨["spawn git " ++ String.intercalate " " args, f.reason]⟩
  | .ok o => return .ok o

-- ---------------------------------------------------------------------------
-- Reports
-- ---------------------------------------------------------------------------

/-- What a command printed: both streams, trimmed, a blank one left out. -/
def report (o : ChildOutput) : String :=
  String.intercalate "\n"
    ([Text.trim o.stdoutText, Text.trim o.stderrText].filter fun s => !s.isEmpty)

/-- The failure of a command. -/
def commandFailure (args : List String) (o : ChildOutput) : Failure :=
  .of ("git " ++ String.intercalate " " args ++ " failed: " ++ report o)

/-- Runs a command that has to succeed. -/
def checked (git : Runner m) (args : List String) : m (Except Failure ChildOutput) := do
  match ← git args with
  | .error f => return .error f
  | .ok o => return if o.status.isSuccess then .ok o else .error (commandFailure args o)

/-- Runs a command of which only the success matters. -/
def perform (git : Runner m) (args : List String) : m (Except Failure Unit) := do
  match ← checked git args with
  | .error f => return .error f
  | .ok _ => return .ok ()

-- ---------------------------------------------------------------------------
-- Questions
-- ---------------------------------------------------------------------------

/-- Something is staged: the list of staged paths is not blank. -/
def hasStagedChanges (git : Runner m) : m (Except Failure Bool) := do
  match ← git ["diff", "--cached", "--name-only"] with
  | .error f => return .error f
  | .ok o => return .ok (!Text.isBlank o.stdoutText)

/-- A merge was begun and not concluded. -/
def mergeInProgress (git : Runner m) : m (Except Failure Bool) := do
  match ← git ["rev-parse", "--verify", "--quiet", "MERGE_HEAD"] with
  | .error f => return .error f
  | .ok o => return .ok o.status.isSuccess

/-- A report that says that there was nothing to commit. -/
def saysNothingToCommit (text : String) : Bool :=
  ["nothing to commit", "nothing added to commit"].any fun phrase =>
    Text.contains text.toList phrase.toList

-- ---------------------------------------------------------------------------
-- Operations
-- ---------------------------------------------------------------------------

/-- Stages every change that is not ignored. -/
def stageAll (git : Runner m) : m (Except Failure Unit) := perform git ["add", "-A"]

/-- What a finished commit command means. -/
def commitStatus (o : ChildOutput) : Except Failure CommitStatus :=
  if o.status.isSuccess then .ok .committed
  else if saysNothingToCommit (report o) then .ok .nothingToCommit
  else .error (.of ("git commit failed: " ++ report o))

/-- Commits what is staged. -/
def commit (git : Runner m) (message : String) : m (Except Failure CommitStatus) := do
  match ← hasStagedChanges git with
  | .error f => return .error f
  | .ok false => return .ok .nothingToCommit
  | .ok true =>
    match ← git ["commit", "-m", message] with
    | .error f => return .error f
    | .ok o => return commitStatus o

/-- The branch that is checked out; without one there is nothing to return to. -/
def currentBranch (git : Runner m) : m (Except Failure String) := do
  match ← checked git ["rev-parse", "--abbrev-ref", "HEAD"] with
  | .error f => return .error f
  | .ok o =>
    let name := Text.trim o.stdoutText
    return if name = "HEAD" then .error (.of "detached HEAD (refuse to integrate)") else .ok name

/-- Checks a branch out. -/
def checkout (git : Runner m) (branch : String) : m (Except Failure Unit) :=
  perform git ["checkout", branch]

/-- Merges a branch; a merge that fails is a conflict. -/
def merge (git : Runner m) (branch : String) : m (Except Failure MergeStatus) := do
  match ← git ["merge", "--no-edit", branch] with
  | .error f => return .error f
  | .ok o => return .ok (if o.status.isSuccess then .merged else .conflict (report o))

/-- Undoes a merge that was begun; without one there is nothing to undo. -/
def abortMerge (git : Runner m) : m (Except Failure Unit) := do
  match ← mergeInProgress git with
  | .error f => return .error f
  | .ok false => return .ok ()
  | .ok true => perform git ["merge", "--abort"]

/-- Pushes a branch. -/
def push (git : Runner m) (remote branch : String) : m (Except Failure Unit) :=
  perform git ["push", remote, branch]

end Errand.VersionControl
