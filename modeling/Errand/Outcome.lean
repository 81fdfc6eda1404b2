import Errand.Mode
import Errand.Result.Basic

/-!
# Errand — how a run turned out

What a run that was not aborted leaves behind, with everything it absorbed on
its way as warnings.

* `Warning`      — a failure that a run absorbs.
* `Integration`  — the outcome of merging.
* `Outcome`      — the whole run.
-/

namespace Errand

/-- A failure that a run absorbs. -/
inductive Warning where
  /-- The tracker did not take an issue. -/
  | issueCreationFailed (title reason : String)
  /-- The branch could not be merged by machine. -/
  | mergeConflict (branch detail : String)
  /-- The merged branch could not be pushed. -/
  | pushFailed (branch detail : String)
  /-- The working branch could not be checked out again. -/
  | branchNotRestored (branch detail : String)
  deriving DecidableEq, Inhabited, Repr

namespace Warning

/-- The line that a user reads. -/
def message : Warning → String
  | .issueCreationFailed title reason =>
    "issue creation failed for '" ++ title ++ "': " ++ reason
  | .mergeConflict branch detail =>
    "merge conflict integrating '" ++ branch ++ "', manual resolution needed: " ++ detail
  | .pushFailed branch detail => "push of '" ++ branch ++ "' failed: " ++ detail
  | .branchNotRestored branch detail =>
    "could not return to branch '" ++ branch ++ "': " ++ detail

/-- The members of a warning in a report: its kind, then its parts. -/
def members : Warning → List (String × String)
  | .issueCreationFailed title reason =>
    [("kind", "issue_creation_failed"), ("title", title), ("reason", reason)]
  | .mergeConflict branch detail =>
    [("kind", "merge_conflict"), ("branch", branch), ("detail", detail)]
  | .pushFailed branch detail =>
    [("kind", "push_failed"), ("branch", branch), ("detail", detail)]
  | .branchNotRestored branch detail =>
    [("kind", "branch_not_restored"), ("branch", branch), ("detail", detail)]

end Warning

/-- The outcome of merging a working branch. -/
structure Integration where
  merged : Bool
  warnings : List Warning := []
  deriving DecidableEq, Inhabited, Repr

/-- A run that was not aborted. -/
structure Outcome where
  mode : Mode
  result : AgentResult
  dryRun : Bool := false
  createdIssues : List String := []
  /-- Absent if the result was not to be merged. -/
  merged : Option Bool := none
  notified : Bool := false
  warnings : List Warning := []
  deriving Inhabited

/-- A run succeeds exactly when its agent says so; warnings do not change that. -/
def Outcome.succeeded (o : Outcome) : Bool := o.result.success

end Errand
