import Errand.Config.Basic
import Errand.Dialogue
import Errand.Outcome

/-!
# Errand — filing discovered issues

Every issue that the agent found is put before the tracker, one after the
other. A refusal becomes a warning; only an interrupt stops the rest.

* `buildRequest` — an issue with the defaults and the label filled in.
* `publish`      — the whole list.
-/

namespace Errand

/-- An issue with every blank part replaced by its default. -/
def buildRequest (settings : TrackerSettings) (issue : DiscoveredIssue) : IssueRequest :=
  let given (part : Option String) : Option String := part.bind Text.nonBlank?
  let priority := issue.priority.map Priority.text
  { title := (given issue.title).getD settings.defaultTitle,
    description := given issue.description,
    issueType := (given issue.issueType).getD settings.defaultType,
    priority := (priority.filter fun p => !Text.isBlank p).getD
      (toString settings.defaultPriority),
    label := settings.label }

/-- What became of some issues. -/
structure Publication where
  /-- The ids read back from the tracker, in the order of the issues. -/
  created : List String := []
  warnings : List Warning := []
  deriving DecidableEq, Inhabited, Repr

namespace Publication

/-- Adds what the tracker answered to a request. -/
def record (p : Publication) (request : IssueRequest) :
    Except Failure (Option String) → Publication
  | .ok (some id) => { p with created := p.created ++ [id] }
  | .ok none => p
  | .error e =>
    { p with warnings := p.warnings ++ [.issueCreationFailed request.title e.text] }

end Publication

/--
Files the issues in order. The token is looked at before each one; the second
component of the answer is the token afterwards.
-/
def publish (settings : TrackerSettings) (interrupted : Bool) (p : Publication) :
    List DiscoveredIssue → Dialogue (Except RunError Publication × Bool)
  | [] => .done (.ok p, interrupted)
  | issue :: rest =>
    if interrupted then .done (.error .interrupted, interrupted)
    else
      let request := buildRequest settings issue
      .ask (.createIssue request) fun answer =>
        publish settings answer.interrupted (p.record request answer.reply) rest

end Errand
