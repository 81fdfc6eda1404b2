import Errand.Config.Basic
import Errand.Dialogue
import Errand.Template.Render

/-!
# Errand — the reply

The originator of a task gets one message at the end, made from a template.
A template that makes no sense is replaced by the stock wording, and a message
that cannot be sent changes nothing but the flag that says so.

* `replyText`  — the message.
* `notify`     — the message on its way, if there is somebody to read it.
-/

namespace Errand

/-- The word for how a task went. -/
def statusWord (success : Bool) : String := if success then "completed" else "failed"

/-- The summary of a run that has none. -/
def emptySummary : String := "No summary available"

/-- The summary, unless it is blank. -/
def summaryOrNote (summary : String) : String :=
  if Text.isBlank summary then emptySummary else summary

/-- The stock wording. -/
def stockReply (status summary : String) : String := "Task " ++ status ++ ": " ++ summary

/-- The message that a template makes of a run's success and summary. -/
def replyText (template : String) (success : Bool) (summary : String) : String :=
  let status := statusWord success
  let summary := summaryOrNote summary
  (Template.render? template [("status", .ofText status), ("summary", .ofText summary)]).getD
    (stockReply status summary)

/-- What became of a message. -/
structure Notice where
  sent : Bool := false
  interrupted : Bool
  deriving DecidableEq, Inhabited, Repr

/-- Sends the message to a recipient that is not blank. -/
def notify (settings : NotifySettings) (recipient : Option String) (success : Bool)
    (summary : String) (interrupted : Bool) : Dialogue Notice :=
  match recipient.filter fun r => !Text.isBlank r with
  | none => .done ⟨false, interrupted⟩
  | some r =>
    .ask (.send r (replyText settings.template success summary)) fun answer =>
      .done ⟨answer.reply.toBool, interrupted || answer.interrupted⟩

end Errand
