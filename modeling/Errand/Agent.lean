import Errand.Child.Host
import Errand.Config.Basic
import Errand.Request
import Errand.Result.Decode

/-!
# Errand — the agent

An agent that prints a result has a result, whatever its exit status. Only an
agent that was killed at its deadline, or that failed and printed nothing that
looks like a result, counts as broken.

* `interpretOutput` — the result of a finished agent, or the error.
* `Agent.invoke`    — the agent's command run on a request.
-/

namespace Errand

/-- A duration of whole seconds; none at all is written in the smallest unit. -/
def secondsText : Option Nat → String
  | none | some 0 => "0ns"
  | some n => toString n ++ "s"

/-- The text starts like an object, after white space. -/
def looksLikeObject (s : String) : Bool :=
  (Text.trimFront s.toList).head? = some '\x7b'

/-- The result of a finished agent that had this many seconds. -/
def interpretOutput (timeoutSecs : Option Nat) (o : ChildOutput) : Except RunError AgentResult :=
  if o.timedOut then
    .error (.agentFailed o.status.code?
      ("agent timed out after " ++ secondsText timeoutSecs ++ "\n" ++ o.stderrText))
  else if !o.status.isSuccess && !looksLikeObject o.stdoutText then
    .error (.agentFailed o.status.code? o.stderrText)
  else AgentResult.read o.stdoutText

namespace Agent

/-- The command line of the agent for a request. -/
def command (settings : AgentSettings) (echo : Bool) (r : AgentRequest) : Command :=
  { program := settings.command.headD "",
    arguments := settings.command.tail ++ r.args,
    input := r.input.map Text.encode,
    deadline := deadlineOf settings.timeoutSecs,
    limit := some settings.outputLimit,
    echo := echo }

/-- Runs the agent on a request; `echo` copies its diagnostics on. -/
def invoke {m : Type → Type} [Monad m] (host : Host m) (settings : AgentSettings) (echo : Bool)
    (r : AgentRequest) : m (Except RunError AgentResult) := do
  match ← host.run (command settings echo r) with
  | .error f => return .error (.agentUnavailable f.program f.reason)
  | .ok o => return interpretOutput settings.timeoutSecs o

end Agent

end Errand
