import Errand.Integrate
import Errand.Notify
import Errand.Publish

/-!
# Errand — a whole run

The agent works on the task, the issues that it found are filed, its changes
are merged, and the originator gets a reply; in this order and each at most
once. A run that is only tried out ends after the agent.

* `RunOptions` — the caller's choices.
* `dispatch`   — the run.
-/

namespace Errand

/-- The caller's choices for one run. -/
structure RunOptions where
  choice : Mode.Choice := .auto
  /-- Who gets the reply. -/
  recipient : Option String := none
  /-- Only try the task out: nothing is filed, merged or sent. -/
  dryRun : Bool := false
  deriving DecidableEq, Inhabited, Repr

/-- A run's course; with its value comes whether it was interrupted. -/
abbrev Course := Dialogue (Except RunError Outcome × Bool)

/-- Replies to the originator and ends the run. -/
def conclude (settings : NotifySettings) (recipient : Option String) (o : Outcome)
    (interrupted : Bool) : Course := do
  if interrupted then return (.error .interrupted, interrupted)
  let notice ← notify settings recipient o.result.success o.result.summary interrupted
  if notice.interrupted then return (.error .interrupted, notice.interrupted)
  return (.ok { o with notified := notice.sent }, notice.interrupted)

/-- Merges the changes, if they are to be merged, and goes on to the reply. -/
def mergeAndConclude (config : Config) (task : Task) (options : RunOptions) (o : Outcome)
    (interrupted : Bool) : Course := do
  if o.result.isIntegrable then
    let committer : Committer := { interrupted := interrupted }
    let (reply, committer) ←
      committer.integrate config.git task.describe o.result.filesModified
    match reply with
    | .error e => return (.error e, committer.interrupted)
    | .ok i =>
      let o := { o with merged := some i.merged, warnings := o.warnings ++ i.warnings }
      conclude config.notify options.recipient o committer.interrupted
  else conclude config.notify options.recipient o interrupted

/-- Files the issues, merges the changes and replies. -/
def follow (config : Config) (task : Task) (options : RunOptions) (o : Outcome)
    (interrupted : Bool) : Course := do
  if options.dryRun then return (.ok o, interrupted)
  let (reply, interrupted) ← publish config.tracker interrupted {} o.result.discoveredIssues
  match reply with
  | .error e => return (.error e, interrupted)
  | .ok p =>
    let o := { o with createdIssues := p.created, warnings := p.warnings }
    mergeAndConclude config task options o interrupted

/-- The run of a task. -/
def dispatch (config : Config) (task : Task) (options : RunOptions) (interrupted : Bool) :
    Course := do
  if interrupted then return (.error .interrupted, interrupted)
  let mode := Mode.resolve options.choice task.wording
  .ask (.invoke ⟨mode, task⟩) fun answer =>
    if answer.interrupted then .done (.error .interrupted, answer.interrupted)
    else match answer.reply with
      | .error e => .done (.error e, answer.interrupted)
      | .ok result =>
        let o : Outcome := { mode := mode, result := result, dryRun := options.dryRun }
        follow config task options o answer.interrupted

end Errand
