import Errand.Collaborators
import Errand.CommandLine.Arguments
import Errand.Config.Load
import Errand.Report

/-!
# Errand — the program

From the words of the command line to an exit code: the task is read, the
settings are loaded, the run is performed, and its report or its error is
printed.

* `Surroundings`     — what the program finds around it.
* `Exit`             — the exit code and what is printed.
* `CommandLine.run`  — the program.
-/

namespace Errand

/-- What the program finds around it: programs to run, its input, and files. -/
structure Surroundings (m : Type → Type) extends Host m where
  /-- Reads standard input to its end. -/
  readInput : m Text.Bytes
  /-- Looks up a settings file. -/
  readConfig : String → m Config.Source

/-- How the program ends. -/
structure Exit where
  code : Nat
  stdout : String := ""
  stderr : String := ""
  deriving DecidableEq, Inhabited, Repr

namespace CommandLine

/-- The exit code of a run that succeeded. -/
def okCode : Nat := 0

/-- The exit code of a run that failed, and of every error but one. -/
def failedCode : Nat := 1

/-- The exit code of an interrupted run. -/
def interruptedCode : Nat := 130

/-- The line that tells the version. -/
def versionLine : String := "polecat 0.1.0\n"

/-- The lines that tell how the program is used. -/
def helpText : String :=
  "Run one task through the coding agent and integrate the result\n\n" ++
  "Usage: polecat [OPTIONS] [TASK]\n\n" ++
  "Arguments:\n  [TASK]  Task description\n\n" ++
  "Options:\n" ++
  "  -i, --issue <ID>       Work on an existing tracker issue instead of a description\n" ++
  "      --stdin            Read the task description from stdin\n" ++
  "  -l, --lite             Force lite mode\n" ++
  "      --force-lite       Force lite mode (alias kept for dispatchers)\n" ++
  "      --full             Force full mode\n" ++
  "  -m, --message-id <ID>  Message to reply to with the final status\n" ++
  "  -n, --dry-run          Run the agent but skip issues, commit and reply\n" ++
  "  -v, --verbose          Debug logging and live agent diagnostics on stderr\n" ++
  "      --json             Print a JSON summary instead of text lines\n" ++
  "      --config <PATH>    Config file (missing file means defaults)\n" ++
  "  -h, --help             Print help\n" ++
  "  -V, --version          Print version\n"

/-- The line that refuses the words of the command line. -/
def refusal : String := "error: invalid arguments\n"

/-- The end of a program whose words ask for no run. -/
def stopped : Arguments.Stop → Exit
  | .help => { code := okCode, stdout := helpText }
  | .version => { code := okCode, stdout := versionLine }
  | .refused => { code := failedCode, stderr := refusal }

/-- The end of a run that was aborted. -/
def aborted : RunError → Exit
  | .interrupted => { code := interruptedCode, stderr := "Interrupted\n" }
  | e => { code := failedCode, stderr := "error: " ++ e.message ++ "\n" }

/-- The end of a program that could not begin its run. -/
def unable (f : Failure) : Exit :=
  { code := failedCode, stderr := "error: " ++ f.text ++ "\n" }

/-- The end of a run that came to its outcome. -/
def reported (json : Bool) (o : Outcome) : Exit :=
  { code := if o.succeeded then okCode else failedCode,
    stdout := (if json then o.jsonReport else o.humanReport) ++ "\n" }

/-- The end of a run. -/
def finished (json : Bool) : Except RunError Outcome → Exit
  | .error e => aborted e
  | .ok o => reported json o

variable {m : Type → Type} [Monad m]

/-- The task text from standard input, if it is to be read from there. -/
def readStream (s : Surroundings m) (a : Arguments) : m (Except Failure (Option String)) := do
  if a.stdin then
    return match Text.decode? (← s.readInput) with
      | some text => .ok (some text)
      | none => .error ⟨["read task from stdin", Config.noTextReason]⟩
  else return .ok none

/-- The run under a configuration. -/
def runWith (s : Surroundings m) (a : Arguments) (task : Task) (config : Config) : m Exit := do
  match Pattern.read? config.tracker.idPattern with
  | none =>
    return unable (.of ("compile tracker id pattern '" ++ config.tracker.idPattern ++ "'"))
  | some pattern =>
    let c : Collaborators m := { host := s.toHost, config, pattern, echo := a.verbose }
    return finished a.json (← c.perform task a.runOptions)

/-- The run of a task. -/
def runTask (s : Surroundings m) (a : Arguments) (task : Task) : m Exit := do
  match Config.load a.configPath (← s.readConfig a.configPath) with
  | .error fault => return unable fault.failure
  | .ok config => runWith s a task config

/-- The program: from the words of the command line to its end. -/
def run (s : Surroundings m) (words : List String) : m Exit := do
  match Arguments.read words with
  | .error stop => return stopped stop
  | .ok a =>
    match ← readStream s a with
    | .error f => return unable f
    | .ok stream =>
      match Task.ofInputs a.task a.issue stream with
      | .error e => return aborted e
      | .ok task => runTask s a task

end CommandLine

end Errand
