import Errand.Child.Host
import Errand.CommandLine.Run
import Errand.Machine.Git.Program

/-!
# Errand — the machine as a host

A run needs a place where its programs run. Here that place is the machine:
a command becomes a process of it, and its streams are captured when it ends.

* `World.furnished`     — a machine with its usual directories.
* `Machine.runCommand`  — a command run to its end.
* `Machine.host`        — the place where a run may take place.
* `Machine.surroundings` — what the whole program finds around it.
-/

namespace Errand.Machine

-- ---------------------------------------------------------------------------
-- The machine at rest
-- ---------------------------------------------------------------------------

/-- A machine with its usual directories. -/
def World.furnished : World :=
  let files : Files := {}
  let files := [["tmp"], ["usr", "bin"], ["usr", "local", "bin"], ["bin"], ["etc"], ["root"],
    ["dev"]].foldl Files.makePath files
  let files := files.put ["etc", "passwd"]
    (.file "root:x:0:0:root:/root:/bin/sh\n" false)
  { files }

/-- The variables that every program finds. -/
def usualVariables : List (String × String) :=
  [("PATH", Programs.usualDirectories), ("HOME", "/root"), ("LC_ALL", "C")]

/-- The program that drives the machine, in a directory. -/
def driving (directory : Path) : Process :=
  { pid := hostPid, parent := 1, directory, environment := usualVariables }

-- ---------------------------------------------------------------------------
-- Commands
-- ---------------------------------------------------------------------------

/-- Why a program cannot be started, in the words of the system. -/
def startFault (p : Process) (name : String) (words : List String) : M (Option String) := do
  if (name :: words).any fun w => w.contains (Char.ofNat 0) then
    return some "nul byte found in provided data"
  let (finding, program) ← Programs.lookUp p name
  return match finding, program with
    | .found _, some (.plainScript _) => some "Exec format error (os error 8)"
    | .found _, some _ => none
    | .refused, _ => some "Permission denied (os error 13)"
    | _, _ => some "No such file or directory (os error 2)"

/-- What was written to a channel, as a capture under a limit. -/
def captured (limit : Option Nat) (channel : Nat) : M Capture := do
  let bytes := Octets.toBytes (← written channel)
  return Capture.ofChunks (limit.getD bytes.length) [bytes]

/-- What was written to a channel, as a capture under a limit; its lines are copied on. -/
def capturedAndEchoed (limit : Option Nat) (channel : Nat) : M Capture := do
  let bytes := Octets.toBytes (← written channel)
  let (capture, echoed) := Capture.ofLines (limit.getD bytes.length) [bytes]
  modify fun w => { w with console := w.console ++ echoed.toArray }
  return capture

/-- The process of a command, with the channels of its output and its diagnostics. -/
def processOf (p : Process) (c : Errand.Command) : M (Process × Nat × Nat) := do
  let input ← newChannel (match c.input with
    | some bytes => .source (Octets.ofBytes bytes).toList
    | none => .void)
  let stdout ← newChannel (.sink [])
  let stderr ← newChannel (.sink [])
  let child ← p.fork
  return ({ child with descriptors := [(0, input), (1, stdout), (2, stderr)] }, stdout, stderr)

/-- Runs a command to its end. -/
def runCommand (p : Process) (c : Errand.Command) : M (Except StartFailure ChildOutput) := do
  let name := Octets.ofText c.program
  let arguments := c.arguments.map Octets.ofText
  match ← startFault p name arguments with
  | some reason => return .error ⟨c.program, reason⟩
  | none =>
    let (child, stdout, stderr) ← processOf p c
    modify fun w => { w with deadline := c.deadline.map fun d => (child.pid, w.clock + d) }
    let status ← (Programs.runner Git.program Programs.depth).launch child name arguments
    let timedOut ← isOverdue child.pid
    modify fun w => { w with deadline := none }
    let out ← captured c.limit stdout
    let err ← if c.echo then capturedAndEchoed c.limit stderr else captured c.limit stderr
    return .ok { status, stdout := out, stderr := err, timedOut }

-- ---------------------------------------------------------------------------
-- Hosts
-- ---------------------------------------------------------------------------

/-- The machine as a place where programs run. -/
def host (p : Process) : Host M :=
  { run := runCommand p, interrupted := return (← get).interrupted }

/-- What stands under the name of a settings file. -/
def configSource (p : Process) (name : String) : M Config.Source := do
  let path := p.path (Octets.ofText name)
  let files := (← get).files
  if name.isEmpty then return .missing
  if path = ["dev", "null"] then return .contents []
  return match files.find? path with
    | some (.file content _) => .contents (Octets.toBytes content)
    | some .directory => .unreadable "Is a directory (os error 21)"
    | none => .missing

/-- What the whole program finds around it. -/
def surroundings (p : Process) (input : Text.Bytes) : Surroundings M :=
  { toHost := host p, readInput := return input, readConfig := configSource p }

end Errand.Machine
