import Errand.Child.Capture
import Errand.RunError

/-!
# Errand — child processes

What is asked of a child process, and what it leaves behind: how it ended, and
the two streams as far as they were kept.

* `Command`      — a program, its arguments, its input and its limits.
* `ExitStatus`   — an exit code, or the signal that killed it.
* `ChildOutput`  — a finished child.
* `StartFailure` — a program that could not be started at all.
-/

namespace Errand

open Text (Bytes)

/-- A program to run. -/
structure Command where
  program : String
  arguments : List String := []
  /-- What the program reads; without it there is nothing to read. -/
  input : Option Bytes := none
  /-- Milliseconds until the program is killed. -/
  deadline : Option Nat := none
  /-- How many bytes of each stream are kept; without a bound all are. -/
  limit : Option Nat := none
  /-- Copy the program's diagnostics on while it runs. -/
  echo : Bool := false
  deriving DecidableEq, Inhabited, Repr

/-- How a process ended. -/
inductive ExitStatus where
  | exited (code : Nat)
  | killed (signal : Nat)
  deriving DecidableEq, Inhabited, Repr

namespace ExitStatus

/-- The exit code, which a killed process does not have. -/
def code? : ExitStatus → Option Int
  | .exited code => some code
  | .killed _ => none

/-- The signal that ended the process. -/
def signal? : ExitStatus → Option Nat
  | .exited _ => none
  | .killed signal => some signal

/-- Only an exit with code zero is a success. -/
def isSuccess (s : ExitStatus) : Bool := s = .exited 0

end ExitStatus

/-- A finished child. -/
structure ChildOutput where
  status : ExitStatus
  stdout : Capture := {}
  stderr : Capture := {}
  timedOut : Bool := false
  deriving DecidableEq, Inhabited, Repr

namespace ChildOutput

/-- The kept output as text. -/
def stdoutText (o : ChildOutput) : String := Text.decodeLossy o.stdout.bytes

/-- The kept diagnostics as text. -/
def stderrText (o : ChildOutput) : String := Text.decodeLossy o.stderr.bytes

/-- The child ended by itself and well. -/
def isSuccess (o : ChildOutput) : Bool := !o.timedOut && o.status.isSuccess

end ChildOutput

/-- A program that could not be started. -/
structure StartFailure where
  program : String
  reason : String
  deriving DecidableEq, Inhabited, Repr

/-- The text of a failed start. -/
def StartFailure.message (f : StartFailure) : String := "spawn " ++ f.program ++ ": " ++ f.reason

/-- A failed start as a caller passes it on: the account of the start, then its reason. -/
def StartFailure.failure (f : StartFailure) : Failure := ⟨[f.message, f.reason]⟩

end Errand
