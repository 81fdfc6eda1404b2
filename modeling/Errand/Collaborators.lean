import Errand.Agent
import Errand.Dispatch
import Errand.Messenger
import Errand.Tracker
import Errand.VersionControl

/-!
# Errand — a run with programs

The questions of a run are answered by programs: the agent, the tracker and
the messenger by the commands of the settings, the repository by Git.

* `Collaborators`         — the place, the settings and the compiled pattern.
* `Collaborators.answer`  — the answer to any question of a run.
* `Collaborators.perform` — a whole run.
-/

namespace Errand

/-- What is needed to answer the questions of a run. -/
structure Collaborators (m : Type → Type) where
  host : Host m
  config : Config
  /-- The pattern of an issue's id. -/
  pattern : Pattern
  /-- Copy the agent's diagnostics on. -/
  echo : Bool := false

namespace Collaborators

variable {m : Type → Type} [Monad m]

/-- The reply to a question. -/
def reply (c : Collaborators m) : (r : Request) → m r.Reply
  | .invoke r => Agent.invoke c.host c.config.agent c.echo r
  | .createIssue r => Tracker.create c.host c.config.tracker c.pattern r
  | .stageAll => VersionControl.stageAll (VersionControl.onHost c.host)
  | .commit message => VersionControl.commit (VersionControl.onHost c.host) message
  | .currentBranch => VersionControl.currentBranch (VersionControl.onHost c.host)
  | .checkout branch => VersionControl.checkout (VersionControl.onHost c.host) branch
  | .merge branch => VersionControl.merge (VersionControl.onHost c.host) branch
  | .abortMerge => VersionControl.abortMerge (VersionControl.onHost c.host)
  | .push remote branch => VersionControl.push (VersionControl.onHost c.host) remote branch
  | .send recipient message => Messenger.send c.host c.config.notify recipient message

/-- The answer to a question: the reply, and the cancel token after it. -/
def answer (c : Collaborators m) (r : Request) : m (Answer r) := do
  let reply ← c.reply r
  return ⟨reply, ← c.host.interrupted⟩

/-- A whole run. -/
def perform (c : Collaborators m) (task : Task) (options : RunOptions) :
    m (Except RunError Outcome) := do
  let (result, _) ← (dispatch c.config task options (← c.host.interrupted)).play c.answer
  return result

end Collaborators

end Errand
