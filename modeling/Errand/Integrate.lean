import Errand.Config.Basic
import Errand.Dialogue
import Errand.Outcome

/-!
# Errand — committing and merging

The changes of a run are staged, committed on the working branch, merged into
the integration branch and pushed, and the working branch is checked out
again whatever happened in between. A conflict or a failed push is a warning;
what fails before that aborts the run.

* `Committer`           — how far the sequence got, and the cancel token.
* `Committer.integrate` — the sequence.
* `Committer.compensate` — the way back to the working branch.
-/

namespace Errand

/-- How far the sequence got, which decides what has to be undone. -/
inductive Stage where
  | clean
  | staged
  /-- Committed on this branch, which is still checked out. -/
  | committed (branch : String)
  /-- On the integration branch, coming from this one. -/
  | onIntegration (branch : String)
  /-- A merge of this branch into the integration branch was begun. -/
  | mergeAttempted (branch : String)
  deriving DecidableEq, Inhabited, Repr

/-- The state that outlives one integration. -/
structure Committer where
  stage : Stage := .clean
  /-- The cancel token has been tripped. -/
  interrupted : Bool := false
  deriving DecidableEq, Inhabited, Repr

namespace Committer

/-- The answer of one integration, and the committer afterwards. -/
abbrev Course := Dialogue (Except RunError Integration × Committer)

-- ---------------------------------------------------------------------------
-- Single steps
-- ---------------------------------------------------------------------------

/-- Asks a question and takes note of an interrupt. -/
def ask (c : Committer) (r : Request) : Dialogue (r.Reply × Committer) :=
  .ask r fun answer =>
    .done (answer.reply, { c with interrupted := c.interrupted || answer.interrupted })

/-- Checks the working branch out again; a failure is a warning. -/
def restore (c : Committer) (branch : String) : Dialogue (Option Warning × Committer) := do
  let (reply, c) ← c.ask (.checkout branch)
  match reply with
  | .ok () => return (none, { c with stage := .committed branch })
  | .error e => return (some (.branchNotRestored branch e.text), c)

/-- Goes back to the working branch as far as the stage requires. -/
def compensate (c : Committer) : Dialogue Committer :=
  match c.stage with
  | .clean | .staged | .committed _ => return c
  | .onIntegration branch => do
    let (_, c) ← c.restore branch
    return c
  | .mergeAttempted branch => do
    let (_, c) ← c.ask .abortMerge
    let (_, c) ← c.restore branch
    return c

/-- Ends an interrupted integration. -/
def giveUp (c : Committer) : Course := do
  let c ← c.compensate
  return (.error .interrupted, c)

/--
Ends an integration whose step failed. An interrupt kills the step in flight
too, so a failure under a tripped token is reported as the interrupt.
-/
def fail (c : Committer) (detail : String) : Course := do
  let c ← c.compensate
  if c.interrupted then return (.error .interrupted, c)
  return (.error (.commitFailed detail), c)

/-- Pushes the integration branch if the settings say so; a failure is a warning. -/
def push (settings : GitSettings) (c : Committer) : Dialogue (List Warning × Committer) := do
  if settings.push then
    let target := settings.integrationBranch
    let (reply, c) ← c.ask (.push settings.remote target)
    match reply with
    | .ok () => return ([], c)
    | .error e => return ([.pushFailed target e.text], c)
  else return ([], c)

-- ---------------------------------------------------------------------------
-- The sequence
-- ---------------------------------------------------------------------------

/-- Checks the working branch out and closes the account of an integration. -/
def conclude (c : Committer) (branch : String) (i : Integration) : Course := do
  let (warning, c) ← c.restore branch
  return (.ok { i with warnings := i.warnings ++ warning.toList }, c)

/-- Merges the working branch, from the integration branch on. -/
def mergeFrom (settings : GitSettings) (c : Committer) (branch : String) : Course := do
  if c.interrupted then return ← c.giveUp
  let c := { c with stage := .mergeAttempted branch }
  let (reply, c) ← c.ask (.merge branch)
  match reply with
  | .error e =>
    c.fail ("merge " ++ branch ++ " into " ++ settings.integrationBranch ++ ": " ++ e.text)
  | .ok .merged =>
    if c.interrupted then return ← c.giveUp
    let (warnings, c) ← push settings c
    c.conclude branch ⟨true, warnings⟩
  | .ok (.conflict detail) =>
    let (_, c) ← c.ask .abortMerge
    c.conclude branch ⟨false, [.mergeConflict branch detail]⟩

/-- Brings what was committed on the working branch into the integration branch. -/
def deliver (settings : GitSettings) (c : Committer) (branch : String) : Course := do
  if c.interrupted then return ← c.giveUp
  let target := settings.integrationBranch
  if branch = target then
    let (warnings, c) ← push settings c
    return (.ok ⟨true, warnings⟩, c)
  let (reply, c) ← c.ask (.checkout target)
  match reply with
  | .error e => c.fail ("switch to " ++ target ++ ": " ++ e.text)
  | .ok () => mergeFrom settings { c with stage := .onIntegration branch } branch

/-- Finds out the working branch after a commit. -/
def locate (settings : GitSettings) (c : Committer) : Course := do
  let (reply, c) ← c.ask .currentBranch
  match reply with
  | .error e => c.fail ("read current branch: " ++ e.text)
  | .ok branch => deliver settings { c with stage := .committed branch } branch

/-- Commits what is staged; with nothing to commit the work counts as merged. -/
def record (settings : GitSettings) (c : Committer) (description : String) : Course := do
  if c.interrupted then return ← c.giveUp
  let (reply, c) ← c.ask (.commit (commitMessage settings.commitLead description))
  match reply with
  | .error e => c.fail e.text
  | .ok .nothingToCommit => return (.ok ⟨true, []⟩, c)
  | .ok .committed => locate settings c

/--
Stages, commits, merges and pushes the changes of a run, and returns to the
working branch. Without modified files nothing is asked and the work counts as
merged.
-/
def integrate (settings : GitSettings) (c : Committer) (description : String)
    (files : List String) : Course := do
  if files.isEmpty then return (.ok ⟨true, []⟩, c)
  if c.interrupted then return ← c.giveUp
  let (reply, c) ← c.ask .stageAll
  match reply with
  | .error e => c.fail ("stage changes: " ++ e.text)
  | .ok () => record settings { c with stage := .staged } description

end Committer

end Errand
