import Errand.Json.Basic

/-!
# Errand — the agent's result

What one agent run reports: how it went, what it changed, and the work it
found on its way.

* `AgentStatus`      — the declared outcome.
* `DiscoveredIssue`  — follow-up work, every part optional.
* `AgentResult`      — the whole report.
* `AgentResult.isIntegrable` — whether its changes are to be merged.
-/

namespace Errand

open Number (Double)

/-- The outcome that an agent declares; `unknown` covers every other word. -/
inductive AgentStatus where
  | completed
  | partly
  | blocked
  | failed
  | decomposed
  | unknown
  deriving DecidableEq, Inhabited, Repr

namespace AgentStatus

/-- The word for a status. -/
def name : AgentStatus → String
  | .completed => "completed"
  | .partly => "partial"
  | .blocked => "blocked"
  | .failed => "failed"
  | .decomposed => "decomposed"
  | .unknown => "unknown"

/-- The status that a word stands for. -/
def ofName (word : String) : AgentStatus :=
  ([.completed, .partly, .blocked, .failed, .decomposed].find? fun s => s.name = word).getD
    .unknown

/-- A status is read back from its own word. -/
theorem ofName_name (s : AgentStatus) : ofName s.name = s := by
  cases s <;> decide

end AgentStatus

/-- How urgent an issue is: a level or a tracker's label. -/
inductive Priority where
  | level (n : Int)
  | label (text : String)
  deriving DecidableEq, Inhabited, Repr

/-- The priority as the tracker reads it. -/
def Priority.text : Priority → String
  | .level n => toString n
  | .label t => t

/-- Follow-up work that the agent found outside its task. -/
structure DiscoveredIssue where
  title : Option String := none
  description : Option String := none
  issueType : Option String := none
  priority : Option Priority := none
  deriving DecidableEq, Inhabited, Repr

/-- The report of one agent run; every part has a default. -/
structure AgentResult where
  status : AgentStatus := .unknown
  success : Bool := false
  iterations : Nat := 0
  converged : Bool := false
  durationSeconds : Double := ⟨0⟩
  filesModified : List String := []
  /-- The outcome of each quality gate, passed on as it came. -/
  qualityGates : List (String × Json) := []
  discoveredIssues : List DiscoveredIssue := []
  puntedItems : List String := []
  summary : String := ""
  error : Option String := none
  message : Option String := none
  decomposition : Option Json := none
  deriving Inhabited

/-- Only a result that is completed and successful has its changes merged. -/
def AgentResult.isIntegrable (r : AgentResult) : Bool :=
  r.success && r.status = .completed

end Errand
