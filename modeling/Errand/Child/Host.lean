import Errand.Child.Basic

/-!
# Errand — where programs run

The collaborators of a run are programs. What is needed of the place where
they run is little: a way to run a command to its end, and a look at the
cancel token.

* `Host`        — such a place, in any monad.
* `exitFailure` — the failure of a program that ended badly.
-/

namespace Errand

/-- A place where programs run. -/
structure Host (m : Type → Type) where
  /-- Runs a program to its end. -/
  run : Command → m (Except StartFailure ChildOutput)
  /-- The user has interrupted the run. -/
  interrupted : m Bool

/-- The milliseconds of a time limit given in seconds. -/
def deadlineOf (timeoutSecs : Option Nat) : Option Nat := timeoutSecs.map (1000 * ·)

/-- An exit code as a failure tells it. -/
def exitText (s : ExitStatus) : String :=
  match s.code? with
  | some code => "Some(" ++ toString code ++ ")"
  | none => "None"

/-- The failure of a program that ended badly: its exit code and its diagnostics. -/
def exitFailure (program : String) (o : ChildOutput) : Failure :=
  .of (program ++ " exited with " ++ exitText o.status ++ ": " ++ Text.trim o.stderrText)

end Errand
