import Errand.Child.Host
import Errand.Config.Basic

/-!
# Errand — the messenger

The reply goes out through a program that takes a recipient and a message.

* `Messenger.send` — the messenger's command run on both.
-/

namespace Errand.Messenger

/-- How many bytes of the messenger's output are kept. -/
def outputLimit : Nat := 16384

/-- The command line of the messenger. -/
def command (settings : NotifySettings) (program : String) (leading : List String)
    (recipient message : String) : Command :=
  { program := program,
    arguments := leading ++ [recipient, message],
    deadline := deadlineOf settings.timeoutSecs,
    limit := some outputLimit }

/-- Sends a message. -/
def send {m : Type → Type} [Monad m] (host : Host m) (settings : NotifySettings)
    (recipient message : String) : m (Except Failure Unit) := do
  match settings.command with
  | [] => return .error (.of "messenger command is empty")
  | program :: leading =>
    match ← host.run (command settings program leading recipient message) with
    | .error f => return .error f.failure
    | .ok o => return if o.isSuccess then .ok () else .error (exitFailure program o)

end Errand.Messenger
