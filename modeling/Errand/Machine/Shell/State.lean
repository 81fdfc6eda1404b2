import Errand.Machine.Shell.Script
import Errand.Machine.World

/-!
# Errand — the state of a shell

What a shell knows while it runs a script, and the ways in which a command can
leave the normal course.

* `Shell`    — variables, parameters, functions and options.
* `Flow`     — leaving the shell, a loop or a function.
* `ShellM`   — computations of a shell.
* `Runner`   — how commands and programs inside a command are run.
-/

namespace Errand.Machine

namespace Shell

/-- A variable of the shell. -/
structure Variable where
  value : Option String
  exported : Bool := false
  readOnly : Bool := false
  deriving Inhabited

/-- The switches of a shell. -/
structure Switches where
  /-- End at the first command that fails. -/
  exitOnError : Bool := false
  /-- A variable without a value is an error. -/
  strict : Bool := false
  /-- Show every command before it is run. -/
  trace : Bool := false
  /-- Take patterns for plain text. -/
  noGlob : Bool := false
  deriving Inhabited

/-- How a command leaves the normal course. -/
inductive Flow where
  | exit (status : ExitStatus)
  | breakLoop (levels : Nat)
  | nextRound (levels : Nat)
  /-- Back from a function or a script that was read in. -/
  | leave
  deriving DecidableEq, Inhabited

/-- A command in the background. -/
structure Job where
  pid : Nat
  /-- When it is done, and how it ends. -/
  done : Nat
  status : ExitStatus
  deriving Inhabited

end Shell

/-- A shell that runs a script. -/
structure Shell where
  process : Process
  /-- The name that the shell goes by. -/
  name : String := "sh"
  /-- The number that the script takes for the shell's. -/
  number : Nat
  parameters : List String := []
  bindings : List (String × Shell.Variable) := []
  functions : List (String × Shell.Command) := []
  /-- The exit code of the last command. -/
  status : Nat := 0
  /-- The exit code of the last script inside the words of the command at hand. -/
  inner : Option Nat := none
  line : Nat := 1
  switches : Shell.Switches := {}
  /-- Inside a test, where failing is no error. -/
  testing : Bool := false
  /-- What to do on a signal, or at the end; an empty text means to ignore it. -/
  traps : List (String × String) := []
  /-- The number of loops that run. -/
  loops : Nat := 0
  /-- For each function that runs, the variables to be put back after it. -/
  locals : List (List (String × Option Shell.Variable)) := []
  /-- What was sent to the background and not yet waited for, the latest first. -/
  jobs : List Shell.Job := []
  /-- The process that was sent to the background last. -/
  lastJob : Option Nat := none
  deriving Inhabited

namespace Shell

/-- Computations of a shell. -/
abbrev ShellM := ExceptT Flow (StateT Shell M)

/-- What a name stands for where a program is wanted. -/
inductive Finding where
  | found (path : String)
  | missing
  | refused
  deriving DecidableEq, Inhabited, Repr

/-- How commands and programs inside a command are run. -/
structure Runner where
  execute : Command → ShellM Unit
  /-- Looks a program up. -/
  find : Process → String → M Finding
  /-- Runs a program by its name and arguments in a process. -/
  launch : Process → String → List String → M ExitStatus

/-- A computation of the machine as one of a shell. -/
def onMachine {α : Type} (m : M α) : ShellM α := ExceptT.lift (StateT.lift m)

/-- The exit code that a shell sees of a program. -/
def codeOf : ExitStatus → Nat
  | .exited code => code
  | .killed number => 128 + number

/-- Sets the exit code of the last command. -/
def setStatus (code : Nat) : ShellM Unit := modify fun s => { s with status := code }

/-- Leaves the normal course. -/
def leaveBy {α : Type} (f : Flow) : ShellM α := throw f

/-- Ends the shell with an exit code. -/
def exitWith {α : Type} (code : Nat) : ShellM α := throw (.exit (.exited (code % 256)))

/-- Writes to standard output. -/
def out (piece : String) : ShellM Unit := do onMachine (say (← get).process piece)

/-- Writes a diagnostic of the shell. -/
def warn (detail : String) : ShellM Unit := do
  let s ← get
  onMachine (complain s.process (s.name ++ ": " ++ toString s.line ++ ": " ++ detail ++ "\n"))

/-- Writes a diagnostic and ends the shell. -/
def die {α : Type} (detail : String) : ShellM α := do
  warn detail
  exitWith 2

-- ---------------------------------------------------------------------------
-- Variables
-- ---------------------------------------------------------------------------

/-- A variable by its name. -/
def lookUp? (s : Shell) (name : String) : Option Variable :=
  (s.bindings.find? fun v => v.1 = name).map Prod.snd

/-- Puts a variable under its name. -/
def putVariable (s : Shell) (name : String) (v : Variable) : Shell :=
  { s with bindings := (name, v) :: s.bindings.filter fun old => old.1 ≠ name }

/-- Gives a variable a value. -/
def assign (name value : String) : ShellM Unit := do
  let v := ((← get).lookUp? name).getD ⟨none, false, false⟩
  if v.readOnly then die (name ++ ": is read only")
  modify fun s => s.putVariable name { v with value := some value }

/-- The value of a parameter or a variable. -/
def valueOf? (s : Shell) (name : String) : Option String :=
  match name with
  | "#" => some (toString s.parameters.length)
  | "?" => some (toString s.status)
  | "$" => some (toString s.number)
  | "!" => s.lastJob.map toString
  | "-" => some ""
  | "0" => some s.name
  | "PPID" => some (toString s.process.parent)
  | name =>
    match name.toNat? with
    | some n => s.parameters[n - 1]?
    | none => (s.lookUp? name).bind Variable.value

/-- The variables that programs get to see. -/
def exportedVariables (s : Shell) : List (String × String) :=
  s.bindings.filterMap fun (name, v) =>
    if v.exported then v.value.map fun value => (name, value) else none

/-- The characters that separate words. -/
def separators (s : Shell) : List Char :=
  match s.lookUp? "IFS" with
  | some ⟨some value, _, _⟩ => value.toList
  | _ => [' ', '\t', '\n']

/-- A shell for a process, with the variables of that process. -/
def ofProcess (p : Process) (name : String) (parameters : List String) : Shell :=
  { process := p, name, number := p.pid, parameters,
    bindings := p.environment.map fun (key, value) => (key, ⟨some value, true, false⟩) }

-- ---------------------------------------------------------------------------
-- Running
-- ---------------------------------------------------------------------------

/-- How a computation of a shell ended, as the end of a process. -/
def endOf (s : Shell) : Except Flow Unit → ExitStatus
  | .error (.exit status) => status
  | _ => .exited (s.status % 256)

/-- Runs a computation in a shell to its end. -/
def runIn (s : Shell) (body : ShellM Unit) : M (ExitStatus × Shell) := do
  let (result, s) ← (ExceptT.run body).run s
  return (s.endOf result, s)

end Shell

end Errand.Machine
