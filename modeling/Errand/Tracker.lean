import Errand.Child.Host
import Errand.Config.Basic
import Errand.Json.Reader
import Errand.Pattern.Match
import Errand.Pattern.Reader
import Errand.Request

/-!
# Errand — the tracker

The id of a filed issue is read from what the tracker printed: the member `id`
of a structured answer, or else the first place in the text that fits a
pattern.

* `structuredId?`   — the id in a structured answer.
* `extractIssueId`  — the id in any answer.
* `Tracker.create`  — the tracker's command run on a request.
-/

namespace Errand

/-- The id in a structured answer: a member of that name, a text and not empty. -/
def structuredId? (response : String) : Option String := do
  let v ← Json.parse? response
  let id ← (v.get? "id").bind Json.asString?
  if id.isEmpty then none else some id

/-- The first place that fits a pattern: its first group if that took part, else all of it. -/
def patternId? (pattern : Pattern) (response : String) : Option String :=
  let text := response.toList.toArray
  (pattern.find? text).map fun m => (m.group? text 1).getD (m.whole text)

/-- The id that a tracker's answer names. -/
def extractIssueId (pattern : Pattern) (response : String) : Option String :=
  let trimmed := Text.trim response
  (structuredId? trimmed).or (patternId? pattern trimmed)

namespace Tracker

/-- How many bytes of the tracker's output are kept. -/
def outputLimit : Nat := 65536

/-- The command line of the tracker for a request. -/
def command (settings : TrackerSettings) (program : String) (leading : List String)
    (r : IssueRequest) : Command :=
  { program := program,
    arguments := leading ++ r.args ++ (if settings.jsonOutput then ["--json"] else []),
    deadline := deadlineOf settings.timeoutSecs,
    limit := some outputLimit }

/-- What the output of a finished tracker means. -/
def interpret (pattern : Pattern) (program : String) (o : ChildOutput) :
    Except Failure (Option String) :=
  if o.timedOut then .error (.of (program ++ " timed out"))
  else if o.status.isSuccess then .ok (extractIssueId pattern o.stdoutText)
  else .error (exitFailure program o)

/-- Files an issue; the id is absent if none can be read from the answer. -/
def create {m : Type → Type} [Monad m] (host : Host m) (settings : TrackerSettings)
    (pattern : Pattern) (r : IssueRequest) : m (Except Failure (Option String)) := do
  match settings.command with
  | [] => return .error (.of "tracker command is empty")
  | program :: leading =>
    match ← host.run (command settings program leading r) with
    | .error f => return .error f.failure
    | .ok o => return interpret pattern program o

end Tracker

end Errand
