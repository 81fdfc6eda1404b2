import Errand.Machine.Shell.Execute
import Errand.Machine.Tool.Edit
import Errand.Machine.Tool.Tree

/-!
# Errand — the programs of the machine

Which programs there are, how one is found by its name, and how it is run.

* `Programs.find`   — a program by its name, over the directories of `PATH`.
* `Programs.launch` — runs a program in a process.
* `Programs.runner` — how commands run programs, up to a depth of nesting.
-/

namespace Errand.Machine

open Shell (Runner Finding)

namespace Programs

-- ---------------------------------------------------------------------------
-- Finding
-- ---------------------------------------------------------------------------

/-- The small programs by their names. -/
def tools : List (String × Tool) :=
  [("[", Condition.bracket), ("basename", Tool.basename), ("cat", Tool.cat), ("chmod", Tool.chmod),
   ("cp", Tool.cp), ("cut", Tool.cut), ("dirname", Tool.dirname), ("echo", Print.echo),
   ("expr", Tool.expr), ("false", fun _ _ => return .exited 1), ("head", Tool.head),
   ("ls", Tool.ls), ("mkdir", Tool.mkdir), ("mv", Tool.mv), ("nl", Tool.nl), ("paste", Tool.paste),
   ("printf", Print.printf), ("rm", Tool.rm), ("rmdir", Tool.rmdir), ("sed", Edit.sed),
   ("seq", Tool.seq), ("sleep", Tool.sleep), ("sort", Tool.sort),
   ("sync", fun _ _ => return .exited 0),
   ("tac", Tool.tac), ("tail", Tool.tail), ("tee", Tool.tee), ("test", Condition.test),
   ("touch", Tool.touch), ("tr", Tool.tr), ("true", fun _ _ => return .exited 0),
   ("uniq", Tool.uniq), ("wc", Tool.wc), ("yes", Tool.yes)]

/-- What a program is. -/
inductive Program where
  | tool (run : Tool)
  | shell
  | environment
  | workingDirectory
  | git
  /-- A file with the program that it names to be run by, and that program's argument. -/
  | script (path interpreter argument : String)
  /-- A file that can be run but names no program to be run by. -/
  | plainScript (path : String)

/-- A program that the machine has by itself. -/
def standard? (name : String) : Option Program :=
  match name with
  | "sh" | "dash" => some .shell
  | "env" | "printenv" => some .environment
  | "pwd" => some .workingDirectory
  | "git" => some .git
  | name => (tools.find? fun t => t.1 = name).map fun t => .tool t.2

/-- The directories with the programs that the machine has by itself. -/
def isStandardDirectory (path : Path) : Bool := path = ["usr", "bin"] || path = ["bin"]

/-- The program that a file names in its first line to be run by. -/
def interpreter? (content : String) : Option (String × String) :=
  match content.toList with
  | '#' :: '!' :: rest =>
    let line := (rest.takeWhile (· ≠ '\n')).dropWhile (· = ' ')
    let (name, argument) := line.span (· ≠ ' ')
    let argument := argument.dropWhile (· = ' ')
    some (String.ofList name, String.ofList argument)
  | _ => none

/-- What stands at a written path where a program is wanted. -/
def atPath (p : Process) (files : Files) (written : String) : Finding × Option Program :=
  let path := p.path written
  let standard := if isStandardDirectory path.dropLast then standard? (path.getLastD "") else none
  match standard with
  | some program => (.found written, some program)
  | none =>
    match files.find? path with
    | none => (if passesFile files path then .refused else .missing, none)
    | some .directory => (.refused, none)
    | some (.file content executable) =>
      if !executable then (.refused, none)
      else
        match interpreter? content with
        | some (name, argument) =>
          let path := p.path name
          let isThere := isStandardDirectory path.dropLast && (standard? (path.getLastD "")).isSome
          if isThere ∨ files.isFile path then (.found written, some (.script written name argument))
          else (.missing, none)
        | none => (.found written, some (.plainScript written))

/-- The directories of programs when none are named. -/
def usualDirectories : String := "/usr/local/sbin:/usr/local/bin:/usr/sbin:/usr/bin:/sbin:/bin"

/-- A variable of a process. -/
def setting? (p : Process) (name : String) : Option String :=
  (p.environment.find? fun v => v.1 = name).map Prod.snd

/-- The first program of a name in some directories; one that may not be run is remembered. -/
def search (p : Process) (files : Files) (name : String) (refused : Bool) :
    List String → Finding × Option Program
  | [] => (if refused then .refused else .missing, none)
  | directory :: rest =>
    let written := (if directory.isEmpty then "." else directory) ++ "/" ++ name
    match atPath p files written with
    | (.found path, program) => (.found path, program)
    | (.refused, _) => search p files name (refused || files.isFile (p.path written)) rest
    | (.missing, _) => search p files name refused rest

/-- A program by its name. -/
def lookUp (p : Process) (name : String) : M (Finding × Option Program) := do
  let files := (← get).files
  if name.isEmpty then return (.missing, none)
  else if name.contains '/' then return atPath p files name
  else return search p files name false (((setting? p "PATH").getD usualDirectories).splitOn ":")

/-- Where a program is, by its name. -/
def find (p : Process) (name : String) : M Finding := return (← lookUp p name).1

-- ---------------------------------------------------------------------------
-- The shell as a program
-- ---------------------------------------------------------------------------

/-- How a shell was asked to run. -/
structure ShellRequest where
  switches : Shell.Switches := {}
  /-- The script is the first operand. -/
  isInline : Bool := false
  /-- The script is read from standard input. -/
  isInput : Bool := false
  operands : List String := []

/-- Reads the letters of an option of the shell. -/
def shellLetters (on : Bool) (r : ShellRequest) : List Char → ShellRequest
  | [] => r
  | 'c' :: rest => shellLetters on { r with isInline := true } rest
  | 's' :: rest => shellLetters on { r with isInput := true } rest
  | letter :: rest =>
    let switches := (Shell.Builtin.switched r.switches on letter).getD r.switches
    shellLetters on { r with switches } rest

/-- Reads the arguments of the shell. -/
def shellRequest (r : ShellRequest) : List String → ShellRequest
  | [] => r
  | "--" :: rest => { r with operands := rest }
  | "-o" :: name :: rest =>
    shellRequest (shellLetters true r [Shell.Builtin.switchLetter name]) rest
  | arg :: rest =>
    match arg.toList with
    | '-' :: c :: letters => shellRequest (shellLetters true r (c :: letters)) rest
    | '+' :: c :: letters => shellRequest (shellLetters false r (c :: letters)) rest
    | _ => { r with operands := arg :: rest }

/-- Runs a shell. -/
def shell (run : Runner) : Tool := fun p args => do
  let r := shellRequest {} args
  let begin (name : String) (parameters : List String) (script : Shell.Command) : M ExitStatus :=
    let s := (Shell.ofProcess p name parameters).putVariable "PWD"
      ⟨some (Path.text p.directory), false, false⟩
    Shell.runShell run { s with switches := r.switches } script
  if r.isInline then
    match r.operands with
    | [] =>
      complain p "sh: 0: -c requires an argument\n"
      return .exited 2
    | text :: rest =>
      begin (rest.headD "sh") (rest.drop 1) (Shell.Script.read text.toList).markLast
  else
    match r.isInput, r.operands with
    | false, name :: parameters =>
      match ← openForReading p name with
      | .error _ =>
        complain p ("sh: 0: cannot open " ++ name ++ ": No such file\n")
        return .exited 2
      | .ok id => begin name parameters (Shell.Script.read (← drainChannel id))
    | _, parameters => begin "sh" parameters (Shell.Script.read (← readAll p 0))

-- ---------------------------------------------------------------------------
-- Running
-- ---------------------------------------------------------------------------

/-- Shows variables, or runs a program with some of them changed. -/
def environment (run : Runner) (pairs : List (String × String)) (p : Process) :
    List String → M ExitStatus
  | [] => do
    for (name, value) in pairs do
      say p (name ++ "=" ++ value ++ "\n")
    return Tool.success
  | "-i" :: rest => environment run [] p rest
  | "-u" :: name :: rest => environment run (pairs.filter fun v => v.1 ≠ name) p rest
  | arg :: rest =>
    if arg.contains '=' then
      let (name, value) := Shell.Builtin.definition arg
      environment run ((pairs.filter fun v => v.1 ≠ name) ++ [(name, value.getD "")]) p rest
    else do
      let child := { p with environment := pairs }
      match ← find child arg with
      | .found _ => run.launch child arg rest
      | .missing =>
        complain p ("env: " ++ Tool.quoted arg ++ ": No such file or directory\n")
        return .exited 127
      | .refused =>
        complain p ("env: " ++ Tool.quoted arg ++ ": Permission denied\n")
        return .exited 126

/-- A program that is told how to run others. -/
abbrev Extension := (Process → String → List String → M ExitStatus) → Tool

/-- Runs a program that was found. -/
def start (git : Extension) (run : Runner) (p : Process) (args : List String) :
    Program → M ExitStatus
  | .tool tool => tool p args
  | .shell => shell run p args
  | .environment => environment run p.environment p args
  | .workingDirectory => do
    say p (Path.text p.directory ++ "\n")
    return Tool.success
  | .git => git run.launch p args
  | .plainScript path => shell run p (path :: args)
  | .script path interpreter argument =>
    run.launch p interpreter ((if argument.isEmpty then [] else [argument]) ++ path :: args)

/-- Runs a program by its name; a signal or the end of its time may be the end of it. -/
def launch (git : Extension) (run : Runner) (p : Process) (name : String) (args : List String) :
    M ExitStatus := do
  match ← lookUp p name with
  | (_, none) => return .exited 127
  | (_, some program) =>
    living p.pid do
      let status ← start git run p args program
      if ← isOverdue p.pid then return .killed killSignal
      let deadly := (← takeSignals p.pid).filter fun n => !Signals.isMild n
      return match status, deadly with
        | .exited _, n :: _ => .killed n
        | status, _ => status

/-- How deep programs and commands may be nested. -/
def depth : Nat := 600

/-- How commands run programs, up to a depth of nesting. -/
def runner (git : Extension) : Nat → Runner
  | 0 =>
    { execute := fun _ => Shell.die "Maximum function recursion depth (1000) reached"
      find := find
      launch := fun _ _ _ => return .exited 2 }
  | n + 1 =>
    { execute := fun c => Shell.executeWith (runner git n) c
      find := find
      launch := fun p name args => launch git (runner git n) p name args }

end Programs

end Errand.Machine
