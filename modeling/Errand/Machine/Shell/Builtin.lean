import Errand.Machine.Shell.Expand
import Errand.Machine.Shell.Reader
import Errand.Machine.Signals
import Errand.Machine.Tool.Condition
import Errand.Machine.Tool.Print

/-!
# Errand — commands inside the shell

The commands that a shell carries out itself, because they change its own
state or because a program for them would be too much.

* `Builtin`   — such a command: from its arguments to its effects.
* `isSpecial` — the ones whose assignments stay and whose faults end the shell.
* `builtin?`  — a command by its name.
-/

namespace Errand.Machine.Shell

/-- A command inside the shell. -/
abbrev Builtin := List String → ShellM Unit

namespace Builtin

/-- Ends a command with a diagnostic. -/
def fail (name detail : String) (code : Nat) : ShellM Unit := do
  warn (name ++ ": " ++ detail)
  setStatus code

/-- Ends the shell with a diagnostic of a command. -/
def failHard {α : Type} (name detail : String) : ShellM α := die (name ++ ": " ++ detail)

-- ---------------------------------------------------------------------------
-- Output
-- ---------------------------------------------------------------------------

/-- Prints words. -/
def echo : Builtin := fun args => do
  out (Print.echoed args)
  setStatus 0

/-- Prints words by a format. -/
def printf : Builtin := fun args => do
  match args with
  | [] | ["--"] => fail "printf" "usage: printf format [arg ...]" 2
  | args =>
    let args := if args.head? = some "--" then args.drop 1 else args
    let printing := Print.formatted true (args.headD "") (args.drop 1)
    out printing.output
    for fault in printing.faults do
      warn ("printf: " ++ fault)
    setStatus (if printing.malformed then 2 else if printing.faults.isEmpty then 0 else 1)

/-- Prints the directory that the shell is in. -/
def pwd : Builtin := fun _ => do
  out (Path.text (← get).process.directory ++ "\n")
  setStatus 0

-- ---------------------------------------------------------------------------
-- Conditions
-- ---------------------------------------------------------------------------

/-- Sets the exit code by a condition. -/
def decided (name : String) (words : List String) : ShellM Unit := do
  let outcome ← onMachine (Condition.holds (← get).process words)
  match outcome with
  | .ok holds => setStatus (if holds then 0 else 1)
  | .error reason => fail name reason 2

/-- A condition by its name of letters. -/
def test : Builtin := decided "test"

/-- A condition by its name of a bracket. -/
def bracket : Builtin := fun words => do
  match Condition.inBrackets words with
  | .ok words => decided "[" words
  | .error reason => fail "[" reason 2

-- ---------------------------------------------------------------------------
-- Flow
-- ---------------------------------------------------------------------------

/-- The number that an argument means, or the end of the shell. -/
def numberOf (name written : String) : ShellM Nat := do
  match written.toNat? with
  | some n => return n
  | none => failHard name ("Illegal number: " ++ written)

/-- Ends the shell. -/
def exit : Builtin := fun args => do
  match args with
  | [] => exitWith (← get).status
  | written :: _ =>
    let n ← numberOf "exit" written
    exitWith n

/-- Goes back from a function or from a script that was read in. -/
def back : Builtin := fun args => do
  match args with
  | [] => leaveBy .leave
  | written :: _ =>
    let n ← numberOf "return" written
    setStatus n
    leaveBy .leave

/-- Does something to so many of the loops that run; without a loop there is nothing to do. -/
def ofLoops (name : String) (flow : Nat → Flow) : Builtin := fun args => do
  let n ← match args with
    | [] => pure 1
    | written :: _ => numberOf name written
  setStatus 0
  let s ← get
  if 0 < s.loops then leaveBy (flow (min n s.loops))

/-- Leaves loops. -/
def breakLoop : Builtin := ofLoops "break" .breakLoop

/-- Goes on with the next round of a loop. -/
def nextRound : Builtin := ofLoops "continue" .nextRound

-- ---------------------------------------------------------------------------
-- Variables and parameters
-- ---------------------------------------------------------------------------

/-- A name and, behind an equals sign, a value. -/
def definition (written : String) : String × Option String :=
  let (name, rest) := written.toList.span (· ≠ '=')
  (String.ofList name, match rest with
    | _ :: value => some (String.ofList value)
    | [] => none)

/-- Gives variables values, and marks them. -/
def declare (name : String) (mark : Variable → Variable) : Builtin := fun args => do
  for written in args do
    let (key, value) := definition written
    if !Reader.isName key.toList then
      failHard name (key ++ ": bad variable name")
    if let some value := value then assign key value
    modify fun s => s.putVariable key (mark ((s.lookUp? key).getD ⟨none, false, false⟩))
  setStatus 0

/-- Makes variables visible to programs. -/
def exportVariables : Builtin := fun args => do
  if args.isEmpty ∨ args = ["-p"] then
    let s ← get
    for (name, value) in (s.exportedVariables.mergeSort fun a b => a.1 ≤ b.1) do
      out ("export " ++ name ++ "='" ++ value ++ "'\n")
    setStatus 0
  else declare "export" (fun v => { v with exported := true }) args

/-- Makes variables immutable. -/
def freeze : Builtin := declare "readonly" fun v => { v with readOnly := true }

/-- Gives variables values that hold until the function ends. -/
def localVariables : Builtin := fun args => do
  for written in args do
    let (key, value) := definition written
    modify fun s => match s.locals with
      | scope :: outer => { s with locals := ((key, s.lookUp? key) :: scope) :: outer }
      | [] => s
    if let some value := value then assign key value
  setStatus 0

/-- Removes variables or functions. -/
def unset : Builtin := fun args => do
  let names := args.filter fun a => !a.startsWith "-"
  for name in names do
    if args.head? = some "-f" then
      modify fun s => { s with functions := s.functions.filter fun f => f.1 ≠ name }
    else
      if ((← get).lookUp? name).any Variable.readOnly then
        failHard "unset" (name ++ ": is read only")
      modify fun s => { s with bindings := s.bindings.filter fun v => v.1 ≠ name }
  setStatus 0

/-- Drops parameters from the front. -/
def shift : Builtin := fun args => do
  let n ← match args with
    | [] => pure 1
    | written :: _ => numberOf "shift" written
  let s ← get
  if s.parameters.length < n then failHard "shift" "can't shift that many"
  set { s with parameters := s.parameters.drop n, status := 0 }

/-- The switches with one of them on or off. -/
def switched (sw : Switches) (on : Bool) (letter : Char) : Option Switches :=
  match letter with
  | 'e' => some { sw with exitOnError := on }
  | 'u' => some { sw with strict := on }
  | 'x' => some { sw with trace := on }
  | 'f' => some { sw with noGlob := on }
  | c => if "abCmnpsvVEI".toList.contains c then some sw else none

/-- The letter of a switch by its name. -/
def switchLetter (name : String) : Char :=
  match name with
  | "errexit" => 'e'
  | "nounset" => 'u'
  | "xtrace" => 'x'
  | "noglob" => 'f'
  | "allexport" => 'a'
  | "noclobber" => 'C'
  | "verbose" => 'v'
  | _ => '?'

/-- Turns switches on or off. -/
def setSwitches (on : Bool) (letters : List Char) : ShellM Unit := do
  for letter in letters do
    let s ← get
    match switched s.switches on letter with
    | some sw => set { s with switches := sw }
    | none =>
      failHard "set" ("Illegal option " ++ (if on then "-" else "+") ++ String.singleton letter)

/-- Sets switches and parameters. -/
def setParameters (fuel : Nat) (args : List String) : ShellM Unit := do
  match fuel with
  | 0 => pure ()
  | fuel + 1 =>
    let replace (parameters : List String) : ShellM Unit :=
      modify fun s => { s with parameters := parameters }
    match args with
    | [] => pure ()
    | "--" :: rest => replace rest
    | "-o" :: name :: rest =>
      setSwitches true [switchLetter name]
      setParameters fuel rest
    | "+o" :: name :: rest =>
      setSwitches false [switchLetter name]
      setParameters fuel rest
    | arg :: rest =>
      match arg.toList with
      | '-' :: c :: cs =>
        setSwitches true (c :: cs)
        setParameters fuel rest
      | '+' :: c :: cs =>
        setSwitches false (c :: cs)
        setParameters fuel rest
      | _ => replace args

/-- Sets switches and parameters. -/
def setAll : Builtin := fun args => do
  if args.isEmpty then
    for (name, v) in ((← get).bindings.mergeSort fun a b => a.1 ≤ b.1) do
      if let some value := v.value then out (name ++ "='" ++ value ++ "'\n")
  else setParameters (args.length + 1) args
  setStatus 0

/-- A line without its backslashes: what follows one is taken as it is. -/
def unescaped : List Char → List Marked
  | [] => []
  | '\\' :: c :: rest => (c, true) :: unescaped rest
  | c :: rest => (c, false) :: unescaped rest

/-- The fields of a line for some number of variables; the last one takes what is left. -/
def fieldsOf (separators : List Char) (count : Nat) (cs : List Marked) : List String :=
  let isBlank (m : Marked) : Bool := !m.2 && separators.contains m.1 && m.1.isWhitespace
  let isSign (m : Marked) : Bool := !m.2 && separators.contains m.1
  let text (ms : List Marked) : String := String.ofList (ms.map Prod.fst)
  let cs := cs.dropWhile isBlank
  match count with
  | 0 => []
  | 1 => [text (cs.reverse.dropWhile isBlank).reverse]
  | count + 1 =>
    let field := cs.takeWhile fun m => !isSign m
    let rest := (cs.drop field.length).dropWhile isBlank
    let rest := match rest with
      | m :: more => if isSign m then more.dropWhile isBlank else rest
      | [] => []
    text field :: fieldsOf separators count rest

/-- Reads a line into variables. -/
def read : Builtin := fun args => do
  let isRaw := args.head? = some "-r"
  let names := args.filter fun a => a ≠ "-r"
  if names.isEmpty then fail "read" "arg count" 2
  else
    let s ← get
    let (line, whole) ← onMachine (readLine s.process 0)
    let cs := if isRaw then line.map fun c => (c, false) else unescaped line
    for (name, value) in names.zip (fieldsOf s.separators names.length cs) do
      assign name value
    setStatus (if whole then 0 else 1)

-- ---------------------------------------------------------------------------
-- Directories
-- ---------------------------------------------------------------------------

/-- Changes the directory. -/
def cd : Builtin := fun args => do
  let s ← get
  let args := if args.head? = some "--" then args.drop 1 else args
  let wanted := match args with
    | [] => (s.valueOf? "HOME").getD ""
    | "-" :: _ => (s.valueOf? "OLDPWD").getD ""
    | path :: _ => path
  let target := s.process.path wanted
  let files ← onMachine (return (← get).files)
  if files.isDirectory target then
    let before := Path.text s.process.directory
    modify fun s => { s with process := { s.process with directory := target } }
    assign "OLDPWD" before
    assign "PWD" (Path.text target)
    if args.head? = some "-" then out (Path.text target ++ "\n")
    setStatus 0
  else fail "cd" ("can't cd to " ++ wanted) 2

-- ---------------------------------------------------------------------------
-- Scripts and programs
-- ---------------------------------------------------------------------------

/-- Runs words as a script. -/
def eval (run : Runner) : Builtin := fun args => do
  setStatus 0
  run.execute (Script.read (String.intercalate " " args).toList)

/-- Runs a command from which one may go back. -/
def returning (body : ShellM Unit) : ShellM Unit :=
  tryCatch body fun f => match f with
    | .leave => pure ()
    | f => throw f

/-- Runs the script in a file. -/
def source (run : Runner) : Builtin := fun args => do
  match args with
  | [] => failHard "." "filename argument required"
  | name :: _ =>
    let opened ← onMachine (openForReading (← get).process name)
    match opened with
    | .error _ => failHard "." ("cannot open " ++ name ++ ": No such file")
    | .ok id =>
      let text ← onMachine (drainChannel id)
      setStatus 0
      returning (run.execute (Script.read text))

/-- The process that a program gets: the variables are those that programs may see. -/
def programProcess (s : Shell) : Process := { s.process with environment := s.exportedVariables }

/-- Puts a program in the place of the shell. -/
def replaceBy (run : Runner) : Builtin := fun args => do
  let s ← get
  match args with
  | [] => setStatus 0
  | name :: rest =>
    match ← onMachine (run.find (programProcess s) name) with
    | .missing =>
      warn ("exec: " ++ name ++ ": not found")
      exitWith 127
    | .refused =>
      warn ("exec: " ++ name ++ ": Permission denied")
      exitWith 126
    | .found _ =>
      let status ← onMachine (run.launch (programProcess s) name rest)
      throw (.exit status)

-- ---------------------------------------------------------------------------
-- Signals
-- ---------------------------------------------------------------------------

/-- Sends a signal to a process; whether there is one of that number. -/
def sendSignal (pid number : Nat) : ShellM Bool := do
  let now ← onMachine (return (← get).clock)
  match (← get).jobs.find? fun job => job.pid = pid ∧ now < job.done with
  | none => onMachine (Machine.signal pid number)
  | some _ =>
    if !Signals.isMild number then
      modify fun s => { s with jobs := s.jobs.map fun job =>
        if job.pid = pid then ⟨pid, now, .killed number⟩ else job }
      onMachine unwriteAhead
    return true

/-- Tells how signals are sent. -/
def killUsage : ShellM Unit := do
  warn "kill: Usage: kill [-s sigspec | -signum | -sigspec] [pid | job]... or"
  onMachine (complain (← get).process "kill -l [exitstatus]\n")
  setStatus 2

/-- The names of all signals, or of those that the given exit codes tell of. -/
def listSignals (codes : List String) : ShellM Unit := do
  let names := match codes.head?.bind String.toNat? with
    | some n => [Signals.name (n % 128)]
    | none => Signals.names
  for name in names do
    out (name ++ "\n")
  setStatus 0

/-- Sends a signal to each process of a list. -/
def killAll (number : Nat) : List String → ShellM Unit
  | [] => return
  | target :: rest => do
    match target.toNat? with
    | none =>
      warn ("kill: Illegal number: " ++ target)
      setStatus 2
    | some pid =>
      if !(← sendSignal pid number) then
        warn "kill: No such process\n"
        setStatus 1
      killAll number rest

/-- Sends a signal to processes. -/
def kill : Builtin := fun args => do
  let (signal, fault, targets) := match args with
    | "-s" :: [] => (none, "No arg for -s option", [])
    | "-s" :: name :: rest =>
      (Signals.number? name, "invalid signal number or name: " ++ name, rest)
    | "--" :: rest => (some 15, "", rest)
    | arg :: rest =>
      if arg.startsWith "-" then
        (Signals.number? (arg.drop 1).toString,
          "Illegal option " ++ String.ofList (arg.toList.take 2), rest)
      else (some 15, "", args)
    | [] => (some 15, "", [])
  let targets := if targets.head? = some "--" then targets.drop 1 else targets
  if args.head? = some "-l" then listSignals (args.drop 1)
  else
    match signal with
    | none => fail "kill" fault 2
    | some number =>
      if targets.isEmpty then killUsage
      else
        setStatus 0
        killAll number targets

/-- Says what to do on signals. -/
def trap : Builtin := fun args => do
  let args := if args.head? = some "--" then args.drop 1 else args
  let put (action : Option String) (names : List String) : ShellM Unit := do
    for name in names do
      match Signals.number? name with
      | none => failHard "trap" (name ++ ": bad trap")
      | some n =>
        let key := Signals.name n
        modify fun s =>
          let others := s.traps.filter fun t => t.1 ≠ key
          { s with traps := match action with
            | some action => others ++ [(key, action)]
            | none => others }
  match args with
  | [] =>
    for (name, action) in (← get).traps do
      out ("trap -- '" ++ action ++ "' " ++ name ++ "\n")
  | [name] => put none [name]
  | action :: names =>
    if action = "-" ∨ action.toNat?.isSome then
      put none (if action = "-" then names else args)
    else put (some action) names
  setStatus 0

/-- Waits for what runs in the background; the end of a process is mentioned once. -/
def wait : Builtin := fun args => do
  setStatus 0
  if args.isEmpty then
    let done := ((← get).jobs.map Shell.Job.done).foldl max 0
    onMachine (modify fun w => { w with clock := max w.clock done })
    modify fun s => { s with jobs := [] }
  for target in args do
    match (← get).jobs.find? fun job => toString job.pid = target with
    | none => setStatus 127
    | some job =>
      onMachine (modify fun w => { w with clock := max w.clock job.done })
      onMachine (Signals.mention (← get).process job.status)
      let code := codeOf job.status
      modify fun s => { s with jobs := s.jobs.map fun other =>
        if other.pid = job.pid then { other with status := .exited code } else other }
      setStatus code

end Builtin

/-- The commands whose assignments stay and whose faults end the shell. -/
def isSpecial (name : String) : Bool :=
  [".", ":", "break", "continue", "eval", "exec", "exit", "export", "readonly", "return", "set",
   "shift", "times", "trap", "unset"].contains name

/-- The names of all commands inside the shell. -/
def builtinNames : List String :=
  [".", ":", "[", "break", "cd", "command", "continue", "echo", "eval", "exec", "exit", "export",
   "false", "hash", "kill", "local", "printf", "pwd", "read", "readonly", "return", "set", "shift",
   "test", "times", "trap", "true", "type", "ulimit", "umask", "unset", "wait"]

namespace Builtin

/-- Tells what a name stands for. -/
def describe (run : Runner) (short : Bool) : Builtin := fun names => do
  setStatus 0
  for name in names do
    let s ← get
    if (s.functions.any fun f => f.1 = name) then
      out (name ++ (if short then "\n" else " is a shell function\n"))
    else if builtinNames.contains name then
      out (name ++ (if short then "\n"
        else if isSpecial name then " is a special shell builtin\n" else " is a shell builtin\n"))
    else if Reader.reservedWords.contains name then
      out (name ++ (if short then "\n" else " is a shell keyword\n"))
    else
      match ← onMachine (run.find (programProcess s) name) with
      | .found path => out (if short then path ++ "\n" else name ++ " is " ++ path ++ "\n")
      | _ =>
        if !short then out (name ++ ": not found\n")
        setStatus 127

end Builtin

/-- A command inside the shell by its name. -/
def builtin? (run : Runner) (name : String) : Option Builtin :=
  match name with
  | ":" | "true" => some fun _ => setStatus 0
  | "false" => some fun _ => setStatus 1
  | "." => some (Builtin.source run)
  | "[" => some Builtin.bracket
  | "test" => some Builtin.test
  | "break" => some Builtin.breakLoop
  | "continue" => some Builtin.nextRound
  | "cd" => some Builtin.cd
  | "echo" => some Builtin.echo
  | "eval" => some (Builtin.eval run)
  | "exec" => some (Builtin.replaceBy run)
  | "exit" => some Builtin.exit
  | "export" => some Builtin.exportVariables
  | "kill" => some Builtin.kill
  | "local" => some Builtin.localVariables
  | "printf" => some Builtin.printf
  | "pwd" => some Builtin.pwd
  | "read" => some Builtin.read
  | "readonly" => some Builtin.freeze
  | "return" => some Builtin.back
  | "set" => some Builtin.setAll
  | "shift" => some Builtin.shift
  | "trap" => some Builtin.trap
  | "type" => some (Builtin.describe run false)
  | "umask" => some fun args => do
    if args.isEmpty then out "0022\n"
    setStatus 0
  | "unset" => some Builtin.unset
  | "wait" => some Builtin.wait
  | "times" | "hash" | "ulimit" => some fun _ => setStatus 0
  | _ => none

end Errand.Machine.Shell
