import Errand.Machine.Shell.Builtin

/-!
# Errand — running commands of the shell

What the commands of a script do. A pipeline runs its stages one after the
other, each in a shell of its own, and each reads what the one before it
wrote. A command in the background runs at once, in a time of its own: what it
writes has its place among the rest by that time.

* `redirecting`  — a command under redirections.
* `callProgram`  — a program started by the shell.
* `executeWith`  — the effect of a command.
* `runShell`     — a shell from its start to its end.
-/

namespace Errand.Machine.Shell

-- ---------------------------------------------------------------------------
-- Redirections
-- ---------------------------------------------------------------------------

/-- Why a file cannot be opened, in the words of the shell. -/
def openFault (creating : Bool) : FileFault → String
  | .isDirectory => "Is a directory"
  | .badDescriptor => "Bad file descriptor"
  | _ => if creating then "Directory nonexistent" else "No such file"

/-- A process with a redirection carried out, or why that cannot be done. -/
def redirected (run : Runner) (p : Process) : Redirect → ShellM (Except String Process)
  | .mk descriptor direction target => do
    let text ← expandText run target
    let opened (creating : Bool) (found : Except FileFault Nat) : Except String Process :=
      match found with
      | .ok id => .ok (p.withDescriptor descriptor id)
      | .error fault =>
        .error ("cannot " ++ (if creating then "create " else "open ") ++ text ++ ": " ++
          openFault creating fault)
    match direction with
    | .input =>
      match ← onMachine (openForReading p text) with
      | .error .isDirectory =>
        return .ok (p.withDescriptor descriptor (← onMachine (newChannel .void)))
      | found => return opened false found
    | .output => return opened true (← onMachine (openForWriting p text false))
    | .append => return opened true (← onMachine (openForWriting p text true))
    | .text =>
      let id ← onMachine (newChannel (.source text.toList))
      return .ok (p.withDescriptor descriptor id)
    | .copy =>
      if text = "-" then return .ok (p.closing descriptor)
      else
        match text.toNat? with
        | none => die ("Syntax error: Bad fd number")
        | some n =>
          match p.channel? n with
          | some id => return .ok (p.withDescriptor descriptor id)
          | none => return .error (toString n ++ ": Bad file descriptor")

/-- A process with redirections carried out in order, or the first fault. -/
def redirectedAll (run : Runner) (p : Process) : List Redirect → ShellM (Except String Process)
  | [] => return .ok p
  | r :: rest => do
    match ← redirected run p r with
    | .ok p => redirectedAll run p rest
    | .error reason => return .error reason

/-- Runs a command under redirections, which end with it. -/
def redirecting (run : Runner) (redirects : List Redirect) (isHard : Bool) (body : ShellM Unit) :
    ShellM Unit := do
  if redirects.isEmpty then body
  else
    let before := (← get).process
    match ← redirectedAll run before redirects with
    | .error reason =>
      if isHard then die reason
      warn reason
      setStatus 2
    | .ok p =>
      modify fun s => { s with process := p }
      let back : ShellM Unit := modify fun s =>
        { s with process := { s.process with descriptors := before.descriptors } }
      tryCatch body fun f => do
        back
        throw f
      back

-- ---------------------------------------------------------------------------
-- The end of processes
-- ---------------------------------------------------------------------------

/-- Takes notice of the end of a process: one that a signal ended is mentioned. -/
def reap (status : ExitStatus) : ShellM Unit := do
  onMachine (Signals.mention (← get).process status)
  setStatus (codeOf status)

/-- Obeys the signals that were sent to the shell. -/
def obeySignals (run : Runner) : ShellM Unit := do
  let s ← get
  if ← onMachine (isOverdue s.process.pid) then throw (.exit (.killed killSignal))
  for number in ← onMachine (takeSignals s.process.pid) do
    let action := (s.traps.find? fun t => t.1 = Signals.name number).map Prod.snd
    match action with
    | some action =>
      if number = killSignal then throw (.exit (.killed number))
      if !action.isEmpty then
        let before := (← get).status
        run.execute (Script.read action.toList)
        setStatus before
    | none => if !Signals.isMild number then throw (.exit (.killed number))

/-- Ends the shell after a failure, if it is to end then. -/
def minding (run : Runner) : ShellM Unit := do
  obeySignals run
  let s ← get
  if s.switches.exitOnError ∧ !s.testing ∧ s.status ≠ 0 then exitWith s.status

-- ---------------------------------------------------------------------------
-- Simple commands
-- ---------------------------------------------------------------------------

/-- Gives variables their values, in order, and tells them as they were written. -/
def assignAll (run : Runner) : List (String × Word) → ShellM (List String)
  | [] => return []
  | (name, value) :: rest => do
    let text ← expandText run value
    assign name text
    let more ← assignAll run rest
    return (name ++ "=" ++ text) :: more

/-- Shows a command, if commands are to be shown. -/
def traceWords (words : List String) : ShellM Unit := do
  let s ← get
  if s.switches.trace then
    onMachine (complain s.process ("+ " ++ String.intercalate " " words ++ "\n"))

/-- Runs a command, shown by its words, under assignments that end with it. -/
def assigningFor (run : Runner) (assignments : List (String × Word)) (words : List String)
    (body : ShellM Unit) : ShellM Unit := do
  let before := (← get).bindings
  let shown ← assignAll run assignments
  traceWords (shown ++ words)
  let names := assignments.map Prod.fst
  modify fun s => { s with bindings := s.bindings.map fun (name, v) =>
    (name, if names.contains name then { v with exported := true } else v) }
  let back : ShellM Unit := modify fun s =>
    { s with bindings :=
        (before.filter fun v => names.contains v.1) ++
        s.bindings.filter fun v => !names.contains v.1 }
  tryCatch body fun f => do
    back
    throw f
  back

/-- Calls a function. -/
def callFunction (run : Runner) (body : Command) (args : List String) : ShellM Unit := do
  let outer ← get
  modify fun s => { s with parameters := args, loops := 0, locals := [] :: s.locals }
  let back : ShellM Unit := modify fun s =>
    let restored := (s.locals.headD []).foldl
      (fun (s : Shell) (name, old) => match old with
        | some v => s.putVariable name v
        | none => { s with bindings := s.bindings.filter fun v => v.1 ≠ name }) s
    { restored with
      parameters := outer.parameters, loops := outer.loops, locals := s.locals.drop 1 }
  tryCatch (Builtin.returning (run.execute body)) fun f => do
    back
    throw f
  back

/-- Starts a program; as the last command it takes the place of the shell. -/
def callProgram (run : Runner) (last : Bool) (redirects : List Redirect) (name : String)
    (args : List String) : ShellM Unit := do
  let s ← get
  let replaces := last && s.traps.isEmpty
  let parent := Builtin.programProcess s
  let child ← if replaces then pure parent else onMachine parent.fork
  match ← redirectedAll run child redirects with
  | .error reason =>
    warn reason
    setStatus 2
  | .ok child =>
    let complainThere (detail : String) : ShellM Unit := onMachine
      (complain child (s.name ++ ": " ++ toString s.line ++ ": " ++ name ++ ": " ++ detail ++ "\n"))
    match ← onMachine (run.find child name) with
    | .missing =>
      complainThere "not found"
      setStatus 127
    | .refused =>
      complainThere "Permission denied"
      setStatus 126
    | .found _ =>
      let status ← onMachine (run.launch child name args)
      if replaces then throw (.exit status)
      onMachine (Signals.mention child status)
      setStatus (codeOf status)

/-- Runs a command by its words. -/
def callWords (run : Runner) (last : Bool) (assignments : List (String × Word))
    (redirects : List Redirect) (plain : Bool) (name : String) (args : List String) :
    ShellM Unit := do
  let s ← get
  let words := name :: args
  let function := if plain then none else s.functions.find? fun f => f.1 = name
  match function with
  | some (_, body) =>
    assigningFor run assignments words
      (redirecting run redirects false (callFunction run body args))
  | none =>
    if name = "exec" ∧ args.isEmpty then
      let shown ← assignAll run assignments
      traceWords (shown ++ words)
      match ← redirectedAll run s.process redirects with
      | .ok p =>
        modify fun s => { s with process := p }
        setStatus 0
      | .error reason => die reason
    else
      match builtin? run name with
      | some builtin =>
        if isSpecial name then
          let shown ← assignAll run assignments
          traceWords (shown ++ words)
          redirecting run redirects true (builtin args)
        else assigningFor run assignments words (redirecting run redirects false (builtin args))
      | none => assigningFor run assignments words (callProgram run last redirects name args)

/-- Runs a simple command by its expanded words. -/
def callCommand (run : Runner) (last : Bool) (assignments : List (String × Word))
    (redirects : List Redirect) (fuel : Nat) (plain : Bool) (words : List String) :
    ShellM Unit := do
  match fuel, words with
  | 0, _ | _, [] => setStatus 0
  | fuel + 1, "command" :: rest =>
    match rest with
    | "-v" :: names => redirecting run redirects false (Builtin.describe run true names)
    | "-V" :: names => redirecting run redirects false (Builtin.describe run false names)
    | "--" :: rest | "-p" :: rest =>
      callCommand run last assignments redirects fuel true ("command" :: rest)
    | rest => callCommand run last assignments redirects fuel true rest
  | _, name :: args => callWords run last assignments redirects plain name args

/-- Runs a simple command. -/
def simple (run : Runner) (last : Bool) (assignments : List (String × Word)) (words : List Word)
    (redirects : List Redirect) : ShellM Unit := do
  modify fun s => { s with inner := none }
  match ← expandWords run words with
  | [] =>
    let shown ← assignAll run assignments
    if !shown.isEmpty then traceWords shown
    let status := (← get).inner.getD 0
    redirecting run redirects false (setStatus status)
  | words => callCommand run last assignments redirects words.length.succ false words

-- ---------------------------------------------------------------------------
-- Compound commands
-- ---------------------------------------------------------------------------

/-- Runs a command whose failing is no error. -/
def asTest (body : ShellM Unit) : ShellM Unit := do
  let before := (← get).testing
  modify fun s => { s with testing := true }
  let back : ShellM Unit := modify fun s => { s with testing := before }
  tryCatch body fun f => do
    back
    throw f
  back

/-- Runs a command in a shell of its own, with streams of its own. -/
def inSubshell (run : Runner) (adjust : Process → Process) (body : Command) :
    ShellM ExitStatus := do
  let s ← get
  onMachine do
    let child ← s.process.fork
    let inner : Shell := { s with process := adjust child, traps := [], jobs := [] }
    let (status, _) ← living child.pid (runIn inner (run.execute body))
    return status

/-- What was written to a channel becomes what can be read from it. -/
def turnRound (id : Nat) : M Unit := do
  match ← channel id with
  | .sink pieces => setChannel id (.source (inOrder pieces).toList)
  | _ => pure ()

/-- Runs the stages of a pipeline; `input` is what the first one reads. -/
def stages (run : Runner) (input : Option Nat) : List Command → ShellM Unit
  | [] => return
  | [stage] => do
    let adjust (p : Process) : Process := match input with
      | some id => p.withDescriptor 0 id
      | none => p
    let status ← inSubshell run adjust stage.markLast
    reap status
  | stage :: rest => do
    let pipe ← onMachine (newChannel (.sink []))
    let adjust (p : Process) : Process :=
      let p := p.withDescriptor 1 pipe
      match input with
      | some id => p.withDescriptor 0 id
      | none => p
    let status ← inSubshell run adjust stage.markLast
    reap status
    onMachine (turnRound pipe)
    stages run (some pipe) rest

/-- What a loop does after a round. -/
inductive AfterRound where
  | again
  | stop
  deriving DecidableEq, Inhabited

/-- Runs the body of a loop once. -/
def round (body : ShellM Unit) : ShellM AfterRound :=
  tryCatch (do body; return .again) fun f => match f with
    | .breakLoop n => if n ≤ 1 then return .stop else throw (.breakLoop (n - 1))
    | .nextRound n => if n ≤ 1 then return .again else throw (.nextRound (n - 1))
    | f => throw f

/-- Runs a loop, which breaks and further rounds refer to. -/
def asLoop (body : ShellM Unit) : ShellM Unit := do
  let before := (← get).loops
  modify fun s => { s with loops := s.loops + 1 }
  let back : ShellM Unit := modify fun s => { s with loops := before }
  tryCatch body fun f => do
    back
    throw f
  back

/-- The number of rounds after which a loop is taken to go on for ever. -/
def manyRounds : Nat := 200000

/-- Waits for ever: the shell ends when its time is over. -/
def hang : ShellM Unit := do
  onMachine (modify fun w =>
    { w with clock := (w.deadline.map Prod.snd).elim w.clock fun time => max w.clock time })
  throw (.exit (.killed killSignal))

/-- Runs a loop; the exit code is that of its last round. -/
def loop (run : Runner) (untilTrue : Bool) (test body : Command) (fuel last : Nat) :
    ShellM Unit := do
  match fuel with
  | 0 => hang
  | fuel + 1 =>
    let passed ← round (asTest (run.execute test))
    if passed = .stop then setStatus last
    else if ((← get).status = 0) = untilTrue then setStatus last
    else
      let after ← round (run.execute body)
      match after with
      | .stop => pure ()
      | .again => loop run untilTrue test body fuel (← get).status

/-- Runs a loop over words. -/
def eachWord (run : Runner) (name : String) (body : Command) : List String → ShellM Unit
  | [] => return
  | word :: rest => do
    assign name word
    let after ← round (run.execute body)
    match after with
    | .stop => return
    | .again => eachWord run name body rest

/-- One of the patterns fits a text. -/
def fitsSome (run : Runner) (text : String) : List Word → ShellM Bool
  | [] => return false
  | pattern :: rest => do
    if Glob.fits (← expandPattern run pattern) text.toList then return true
    else fitsSome run text rest

/-- Runs the first branch of which a pattern fits. -/
def select (run : Runner) (text : String) : List (List Word × Command) → ShellM Unit
  | [] => setStatus 0
  | (patterns, body) :: rest => do
    if ← fitsSome run text patterns then
      setStatus 0
      run.execute body
    else select run text rest

/-- Runs a command in the background: it has its own time, and starts a moment later. -/
def inBackground (run : Runner) (body : Command) : ShellM Unit := do
  let s ← get
  let before ← onMachine (return (← get).clock)
  let empty ← onMachine (newChannel .void)
  let pid ← onMachine (return (← get).nextPid)
  onMachine (pass 1)
  let status ← inSubshell run (fun p => p.withDescriptor 0 empty) body.markLast
  let done ← onMachine (return (← get).clock)
  onMachine (modify fun w => { w with clock := before })
  set { s with jobs := ⟨pid, done, status⟩ :: s.jobs, lastJob := some pid, status := 0 }

/-- The effect of a command; what is inside it is run by `run`. -/
def executeWith (run : Runner) : Command → ShellM Unit
  | .nothing => return
  | .sequence first second => do
    run.execute first
    executeWith run second
  | .simple line last assignments words redirects => do
    modify fun s => { s with line := line }
    simple run last assignments words redirects
    minding run
  | .pipeline found => do
    stages run none found
    minding run
  | .negation body => do
    asTest (run.execute body)
    setStatus (if (← get).status = 0 then 1 else 0)
  | .both first second => do
    asTest (run.execute first)
    if (← get).status = 0 then run.execute second
  | .either first second => do
    asTest (run.execute first)
    if (← get).status ≠ 0 then run.execute second
  | .background body => inBackground run body
  | .group body => run.execute body
  | .subshell body => do
    let status ← inSubshell run id body
    reap status
    minding run
  | .choice test body otherwise => do
    asTest (run.execute test)
    if (← get).status = 0 then run.execute body
    else
      setStatus 0
      run.execute otherwise
  | .loop untilTrue test body => asLoop (loop run untilTrue test body manyRounds 0)
  | .each name words body => do
    let chosen ← match words with
      | some words => expandWords run words
      | none => pure (← get).parameters
    setStatus 0
    asLoop (eachWord run name body chosen)
  | .select word branches => do
    let text ← expandText run word
    select run text branches
  | .define name body => do
    modify fun s => { s with functions := (name, body) :: s.functions.filter fun f => f.1 ≠ name }
    setStatus 0
  | .redirected body redirects => do
    redirecting run redirects false (run.execute body)
    minding run
  | .malformed line reason => do
    modify fun s => { s with line := line }
    die reason

-- ---------------------------------------------------------------------------
-- Shells
-- ---------------------------------------------------------------------------

/-- Does what is to be done at the end of a shell. -/
def atEnd (run : Runner) (s : Shell) (status : ExitStatus) : M ExitStatus := do
  match status, s.traps.find? fun t => t.1 = "EXIT" with
  | .exited code, some (_, action) =>
    if action.isEmpty then return status
    let s := { s with status := code, traps := s.traps.filter fun t => t.1 ≠ "EXIT" }
    let body : ShellM Unit := do
      run.execute (Script.read action.toList)
      setStatus code
    return (← runIn s body).1
  | status, _ => return status

/-- Runs a script in a shell from its start to its end. -/
def runShell (run : Runner) (s : Shell) (script : Command) : M ExitStatus := do
  let (status, s) ← runIn s (run.execute script)
  atEnd run s status

end Errand.Machine.Shell
