import Errand.Config.Validate
import Errand.RunError
import Errand.Text.Utf8
import Errand.Toml.Reader

/-!
# Errand — settings from a file

A settings file lays its members over the stock configuration: what it does
not name stays as it is, names it does not know are ignored, and a known name
with a value of the wrong kind spoils the whole file.

* `Config.ofToml?`   — the configuration that a document describes.
* `ConfigSource`     — what was found under the name of the file.
* `Config.load`      — the validated configuration of a source, or the error.
-/

namespace Errand

namespace Config

-- ---------------------------------------------------------------------------
-- Kinds of values
-- ---------------------------------------------------------------------------

/-- A text. -/
def textOf : Toml → Option String
  | .string s => some s
  | _ => none

/-- A truth value. -/
def truthOf : Toml → Option Bool
  | .bool b => some b
  | _ => none

/-- A list of texts. -/
def textsOf : Toml → Option (List String)
  | .array items => items.mapM textOf
  | _ => none

/-- A whole number of 64 bits without a sign. -/
def countOf : Toml → Option Nat
  | .integer n => if 0 ≤ n ∧ n < Nat.pow 2 64 then some n.toNat else none
  | _ => none

/-- A whole number of 64 bits with a sign. -/
def levelOf : Toml → Option Int
  | .integer n => if -(Nat.pow 2 63 : Int) ≤ n ∧ n < Nat.pow 2 63 then some n else none
  | _ => none

-- ---------------------------------------------------------------------------
-- Sections
-- ---------------------------------------------------------------------------

/-- The value of a member: its own if it is there and of the right kind, else the default. -/
def field {α : Type} (members : Toml.Members) (name : String) (kind : Toml → Option α)
    (default : α) : Option α :=
  match Toml.member? name members with
  | some v => kind v
  | none => some default

/--
The members of a section. A section may also be an array of its values in the
order of their names; a moment counts as a section without known members.
-/
def sectionMembers (names : List String) : Toml → Option Toml.Members
  | .table _ members => some members
  | .array items => some (names.zip items)
  | .rows tables => some (names.zip (tables.reverse.map fun t => .table .header t))
  | .moment => some []
  | _ => none

/-- The section on the agent. -/
def agentOf (v : Toml) : Option AgentSettings := do
  let stock : AgentSettings := {}
  let m ← sectionMembers ["command", "timeout_secs", "output_limit_bytes"] v
  let command ← field m "command" textsOf stock.command
  let timeoutSecs ← field m "timeout_secs" (fun v => (countOf v).map some) stock.timeoutSecs
  let outputLimit ← field m "output_limit_bytes" countOf stock.outputLimit
  some { command, timeoutSecs, outputLimit }

/-- The section on the tracker. -/
def trackerOf (v : Toml) : Option TrackerSettings := do
  let stock : TrackerSettings := {}
  let m ← sectionMembers
    ["command", "label", "default_title", "default_type", "default_priority", "id_pattern",
     "json_output", "timeout_secs"] v
  let command ← field m "command" textsOf stock.command
  let label ← field m "label" textOf stock.label
  let defaultTitle ← field m "default_title" textOf stock.defaultTitle
  let defaultType ← field m "default_type" textOf stock.defaultType
  let defaultPriority ← field m "default_priority" levelOf stock.defaultPriority
  let idPattern ← field m "id_pattern" textOf stock.idPattern
  let jsonOutput ← field m "json_output" truthOf stock.jsonOutput
  let timeoutSecs ← field m "timeout_secs" (fun v => (countOf v).map some) stock.timeoutSecs
  some { command, label, defaultTitle, defaultType, defaultPriority, idPattern, jsonOutput,
         timeoutSecs }

/-- The section on merging. -/
def gitOf (v : Toml) : Option GitSettings := do
  let stock : GitSettings := {}
  let m ← sectionMembers ["integration_branch", "remote", "push", "commit_prefix"] v
  let integrationBranch ← field m "integration_branch" textOf stock.integrationBranch
  let remote ← field m "remote" textOf stock.remote
  let push ← field m "push" truthOf stock.push
  let commitLead ← field m "commit_prefix" textOf stock.commitLead
  some { integrationBranch, remote, push, commitLead }

/-- The section on the reply. -/
def notifyOf (v : Toml) : Option NotifySettings := do
  let stock : NotifySettings := {}
  let m ← sectionMembers ["command", "template", "timeout_secs"] v
  let command ← field m "command" textsOf stock.command
  let template ← field m "template" textOf stock.template
  let timeoutSecs ← field m "timeout_secs" (fun v => (countOf v).map some) stock.timeoutSecs
  some { command, template, timeoutSecs }

/-- The configuration that the members of a document describe. -/
def ofMembers? (m : Toml.Members) : Option Config := do
  let agent ← field m "agent" agentOf {}
  let tracker ← field m "tracker" trackerOf {}
  let git ← field m "git" gitOf {}
  let notify ← field m "notify" notifyOf {}
  some { agent, tracker, git, notify }

/-- The configuration that a document describes. -/
def ofToml? (text : String) : Option Config := do
  let m ← Toml.read? text
  ofMembers? m

-- ---------------------------------------------------------------------------
-- Sources
-- ---------------------------------------------------------------------------

/-- What was found under the name of the file. -/
inductive Source where
  | missing
  /-- There is something, but its contents cannot be had. -/
  | unreadable (reason : String)
  | contents (bytes : Text.Bytes)
  deriving DecidableEq, Inhabited, Repr

/-- Why no configuration could be had. -/
inductive LoadFault where
  | unreadable (path reason : String)
  /-- The document is no settings file. -/
  | malformed (path : String)
  | invalid (path : String) (fault : ConfigFault)
  /-- The stock configuration breaks a rule. -/
  | badStock (fault : ConfigFault)
  deriving DecidableEq, Inhabited, Repr

/-- The account of a fault, from outside to root. -/
def LoadFault.failure : LoadFault → Failure
  | .unreadable path reason => ⟨["read " ++ path, reason]⟩
  | .malformed path => ⟨["parse " ++ path]⟩
  | .invalid path fault => ⟨["invalid config " ++ path, fault.message]⟩
  | .badStock fault => ⟨[fault.message]⟩

/-- The reason when the bytes of a file are no text. -/
def noTextReason : String := "stream did not contain valid UTF-8"

/-- The validated configuration of a source; without a file it is the stock one. -/
def load (path : String) : Source → Except LoadFault Config
  | .missing =>
    match ({} : Config).validate with
    | .ok () => .ok {}
    | .error fault => .error (.badStock fault)
  | .unreadable reason => .error (.unreadable path reason)
  | .contents bytes =>
    match Text.decode? bytes with
    | none => .error (.unreadable path noTextReason)
    | some text =>
      match ofToml? text with
      | none => .error (.malformed path)
      | some c =>
        match c.validate with
        | .ok () => .ok c
        | .error fault => .error (.invalid path fault)

end Config

end Errand
