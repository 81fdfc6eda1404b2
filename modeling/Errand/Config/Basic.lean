/-!
# Errand — settings

The settings of a run in four sections, one for each collaborator, with the
values they have when nothing is said.

* `Config` — the four sections; `{}` is the stock configuration.
-/

namespace Errand

/-- How the agent is run. -/
structure AgentSettings where
  /-- The program and its leading arguments. -/
  command : List String := ["vc", "exec", "--polecat-mode"]
  /-- Seconds until the agent is killed; none waits forever. -/
  timeoutSecs : Option Nat := none
  /-- How many bytes of each output stream are kept. -/
  outputLimit : Nat := 1000000
  deriving DecidableEq, Inhabited, Repr

/-- How discovered issues are filed. -/
structure TrackerSettings where
  command : List String := ["bd", "create"]
  /-- The label of every issue filed. -/
  label : String := "discovered:related"
  defaultTitle : String := "Discovered issue"
  defaultType : String := "task"
  defaultPriority : Int := 2
  /-- The pattern of an issue's id in the tracker's answer. -/
  idPattern : String := "(vc-[a-z0-9]+)"
  /-- Ask the tracker for a structured answer. -/
  jsonOutput : Bool := false
  timeoutSecs : Option Nat := none
  deriving DecidableEq, Inhabited, Repr

/-- How changes are merged. -/
structure GitSettings where
  /-- The branch that finished work is merged into. -/
  integrationBranch : String := "main"
  remote : String := "origin"
  /-- Push the integration branch after a merge. -/
  push : Bool := true
  /-- The lead of every commit message. -/
  commitLead : String := "VC: "
  deriving DecidableEq, Inhabited, Repr

/-- How the originator of a task is answered. -/
structure NotifySettings where
  command : List String := ["gm", "reply"]
  /-- The template of the reply, with `status` and `summary` in scope. -/
  template : String := "Task \x7b\x7b status \x7d\x7d: \x7b\x7b summary \x7d\x7d"
  timeoutSecs : Option Nat := none
  deriving DecidableEq, Inhabited, Repr

/-- The settings of a run. -/
structure Config where
  agent : AgentSettings := {}
  tracker : TrackerSettings := {}
  git : GitSettings := {}
  notify : NotifySettings := {}
  deriving DecidableEq, Inhabited, Repr

end Errand
