import Errand.Mode
import Errand.Result.Basic
import Errand.RunError
import Errand.Task

/-!
# Errand — what a run asks of its collaborators

A run does nothing by itself: it asks an agent, a tracker, a repository and a
messenger. What it may ask, and what kind of answer each question has, are
data here.

* `AgentRequest`, `IssueRequest` — the two requests with arguments of their own.
* `Request`, `Request.Reply`     — every question, and the type of its answer.
* `Answer`                       — a reply, and whether the user interrupted
  the run while it was awaited.
-/

namespace Errand

-- ---------------------------------------------------------------------------
-- Requests with arguments
-- ---------------------------------------------------------------------------

/-- A task and the mode to work on it. -/
structure AgentRequest where
  mode : Mode
  task : Task
  deriving DecidableEq, Inhabited, Repr

namespace AgentRequest

/-- The arguments that name the task. -/
def target : Task → List String
  | .issue id => ["--issue", id]
  | .stream _ => ["--stdin"]
  | .text t => ["--task", t]

/-- The arguments of the agent: the mode if it is lite, then the task. -/
def args (r : AgentRequest) : List String :=
  (if r.mode = .lite then ["--lite"] else []) ++ target r.task

/-- The text piped to the agent, for a task that came that way. -/
def input (r : AgentRequest) : Option String :=
  match r.task with
  | .stream t => some t
  | .issue _ | .text _ => none

end AgentRequest

/-- An issue to be filed, with every default filled in. -/
structure IssueRequest where
  title : String
  description : Option String := none
  issueType : String
  priority : String
  label : String
  deriving DecidableEq, Inhabited, Repr

/-- The arguments of the tracker. -/
def IssueRequest.args (r : IssueRequest) : List String :=
  ["--title", r.title, "--type", r.issueType, "--priority", r.priority, "--label", r.label] ++
    match r.description with
    | some d => ["--description", d]
    | none => []

-- ---------------------------------------------------------------------------
-- Questions and answers
-- ---------------------------------------------------------------------------

/-- Everything that a run may ask. -/
inductive Request where
  | invoke (r : AgentRequest)
  | createIssue (r : IssueRequest)
  | stageAll
  | commit (message : String)
  | currentBranch
  | checkout (branch : String)
  | merge (branch : String)
  | abortMerge
  | push (remote branch : String)
  | send (recipient message : String)
  deriving DecidableEq, Inhabited, Repr

/-- What a commit did. -/
inductive CommitStatus where
  | committed
  | nothingToCommit
  deriving DecidableEq, Inhabited, Repr

/-- What a merge did. -/
inductive MergeStatus where
  | merged
  | conflict (detail : String)
  deriving DecidableEq, Inhabited, Repr

/-- The type of the answer to a request. -/
def Request.Reply : Request → Type
  | .invoke _ => Except RunError AgentResult
  | .createIssue _ => Except Failure (Option String)
  | .stageAll => Except Failure Unit
  | .commit _ => Except Failure CommitStatus
  | .currentBranch => Except Failure String
  | .checkout _ => Except Failure Unit
  | .merge _ => Except Failure MergeStatus
  | .abortMerge => Except Failure Unit
  | .push _ _ => Except Failure Unit
  | .send _ _ => Except Failure Unit

/-- An answer: the reply, and whether the run was interrupted while waiting for it. -/
structure Answer (r : Request) where
  reply : r.Reply
  interrupted : Bool

end Errand
