import Errand.Machine.Host

/-!
# Errand — the command

The program as a command. Its run takes place on the machine, which begins
with its usual directories and programs; the settings file is written there
from a variable of the environment, so that a run can be tried without touching
anything outside.

* `settingsVariable` — the variable that holds the text of the settings file.
* `main`             — reads what the program is given, runs it, and prints its end.
-/

namespace Errand

/-- The variable that holds the text of the settings file. -/
def settingsVariable : String := "ERRAND_SETTINGS"

/-- The directory of the machine that the program runs in. -/
def home : Machine.Path := ["root"]

/-- The words ask for standard input. -/
def wantsInput (words : List String) : Bool :=
  match Arguments.read words with
  | .ok a => a.stdin
  | .error _ => false

/-- The machine with a settings file. -/
def machineWith (settings : Option String) : Machine.World :=
  let w := Machine.World.furnished
  match settings with
  | some text =>
    let path := home ++ [Arguments.defaultConfig]
    { w with files := w.files.write path (Machine.Octets.ofText text) }
  | none => w

/-- The end of the program on the machine, and what its programs let through. -/
def runOn (w : Machine.World) (words : List String) (input : Text.Bytes) : Exit × String :=
  let (exit, w) :=
    (CommandLine.run (Machine.surroundings (Machine.driving home) input) words).run w
  (exit, Text.decodeLossy w.console.toList)

end Errand

open Errand in
/-- Runs the program on the machine and prints its end. -/
def main (words : List String) : IO UInt32 := do
  let settings ← IO.getEnv settingsVariable
  let input ← if wantsInput words then (← IO.getStdin).readBinToEnd else pure ByteArray.empty
  let (exit, echoed) := runOn (machineWith settings) words input.toList
  IO.eprint (echoed ++ exit.stderr)
  IO.print exit.stdout
  return exit.code.toUInt32
