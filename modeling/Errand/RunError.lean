import Errand.Text.Blank

/-!
# Errand — what ends a run

The causes that abort a run, and their wording. What a run absorbs (an issue
that could not be filed, a merge conflict, a failed push) is a `Warning`
instead.

* `RunError`          — the causes.
* `RunError.message`  — the text that a user reads.
* `Failure`           — why a collaborator's call failed, from outside to root.
-/

namespace Errand

/-- A cause that aborts a run. -/
inductive RunError where
  /-- No task was named, or more than one. -/
  | usage (detail : String)
  /-- The agent could not be started. -/
  | agentUnavailable (program reason : String)
  /-- The agent ended badly and left no result. -/
  | agentFailed (code : Option Int) (diagnostics : String)
  /-- The agent's output is no result. -/
  | invalidOutput (reason excerpt : String)
  /-- Staging, committing or switching branches failed. -/
  | commitFailed (detail : String)
  /-- The user interrupted the run. -/
  | interrupted
  deriving DecidableEq, Inhabited, Repr

namespace RunError

/-- How many characters of an unreadable output are kept. -/
def excerptLength : Nat := 500

/-- The part of an output that an error quotes. -/
def excerpt (raw : String) : String := Text.truncate excerptLength raw

/-- The error for an output that is no result. -/
def ofOutput (reason raw : String) : RunError := .invalidOutput reason (excerpt raw)

/-- An exit code, or the word for the lack of one. -/
def codeText : Option Int → String
  | some code => toString code
  | none => "none"

/-- The text that a user reads. -/
def message : RunError → String
  | .usage detail => "usage: " ++ detail
  | .agentUnavailable program reason =>
    "agent \x60" ++ program ++ "\x60 is unavailable (is it installed and on PATH?): " ++ reason
  | .agentFailed code diagnostics =>
    "agent execution failed (exit code " ++ codeText code ++ "): " ++ Text.trim diagnostics
  | .invalidOutput reason excerpt =>
    "failed to parse agent output: " ++ reason ++ "\noutput: " ++ excerpt
  | .commitFailed detail => "commit failed: " ++ detail
  | .interrupted => "interrupted"

end RunError

/-- Why a call to a collaborator failed: the outermost account first, the root last. -/
structure Failure where
  causes : List String
  deriving DecidableEq, Inhabited, Repr

namespace Failure

/-- A failure with a single account. -/
def of (cause : String) : Failure := ⟨[cause]⟩

/-- All accounts in a line, from outside to root. -/
def text (f : Failure) : String := String.intercalate ": " f.causes

end Failure

end Errand
