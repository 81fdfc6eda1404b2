import Errand.Config.Basic
import Errand.Pattern.Reader
import Errand.Template.Render
import Errand.Text.Blank

/-!
# Errand — which settings are acceptable

The rules that settings have to keep, in the order in which they are looked
at. Of several broken rules the first is reported.

* `ConfigFault`        — a broken rule.
* `Config.faults`      — all broken rules, in order.
* `Config.validate`    — the first of them.
-/

namespace Errand

/-- A rule that settings break. -/
inductive ConfigFault where
  /-- A command without a program. -/
  | emptyCommand (key : String)
  /-- A time limit of zero. -/
  | zeroTimeout (key : String)
  | zeroOutputLimit
  /-- A text that must not be blank. -/
  | blank (key : String)
  /-- A pattern that cannot be read. -/
  | badPattern (pattern : String)
  /-- Pushing without a remote. -/
  | blankRemote
  /-- A template that cannot be read. -/
  | badTemplate
  deriving DecidableEq, Inhabited, Repr

/-- The text of a broken rule. -/
def ConfigFault.message : ConfigFault → String
  | .emptyCommand key => key ++ " must be a non-empty array"
  | .zeroTimeout key => key ++ " must be > 0 when set"
  | .zeroOutputLimit => "agent.output_limit_bytes must be > 0"
  | .blank key => key ++ " must not be empty"
  | .badPattern pattern => "tracker.id_pattern '" ++ pattern ++ "'"
  | .blankRemote => "git.remote must not be empty when git.push is enabled"
  | .badTemplate => "notify.template"

namespace Config

/-- The command names a program. -/
def namesProgram (command : List String) : Bool :=
  match command with
  | program :: _ => !Text.isBlank program
  | [] => false

/-- The rules in order, each with whether it is kept. -/
def rules (c : Config) : List (Bool × ConfigFault) :=
  [(namesProgram c.agent.command, .emptyCommand "agent.command"),
   (namesProgram c.tracker.command, .emptyCommand "tracker.command"),
   (namesProgram c.notify.command, .emptyCommand "notify.command"),
   (c.agent.timeoutSecs != some 0, .zeroTimeout "agent.timeout_secs"),
   (c.tracker.timeoutSecs != some 0, .zeroTimeout "tracker.timeout_secs"),
   (c.notify.timeoutSecs != some 0, .zeroTimeout "notify.timeout_secs"),
   (c.agent.outputLimit != 0, .zeroOutputLimit),
   (!Text.isBlank c.tracker.label, .blank "tracker.label"),
   (!Text.isBlank c.tracker.defaultTitle, .blank "tracker.default_title"),
   ((Pattern.read? c.tracker.idPattern).isSome, .badPattern c.tracker.idPattern),
   (!Text.isBlank c.git.integrationBranch, .blank "git.integration_branch"),
   (!c.git.push || !Text.isBlank c.git.remote, .blankRemote),
   (Template.isWellFormed c.notify.template, .badTemplate)]

/-- The broken rules in order. -/
def faults (c : Config) : List ConfigFault :=
  c.rules.filterMap fun (kept, fault) => if kept then none else some fault

/-- The first broken rule, if there is one. -/
def validate (c : Config) : Except ConfigFault Unit :=
  match c.faults with
  | [] => .ok ()
  | fault :: _ => .error fault

end Config

end Errand
