import Errand.Child.Basic
import Errand.Machine.Git.Store
import Errand.Machine.Octets

/-!
# Errand — the machine

A small machine on which programs run, one at a time: files, streams, a clock
that only sleeping moves, and signals. Nothing runs by itself, so a pipeline
is its stages one after the other. What is written to a stream carries its
time, and is read in the order of these times.

* `World`            — the state of the machine.
* `Channel`          — a stream: what can be read from it, or what was written.
* `Process`          — a running program: its number, directory and streams.
* `M`                — computations on the machine.
* `write`, `readAll` — the two ends of a stream.
* `written`          — all that was written to a stream, in order.
-/

namespace Errand.Machine

-- ---------------------------------------------------------------------------
-- State
-- ---------------------------------------------------------------------------

/-- A stream. -/
inductive Channel where
  /-- Nothing to read, and nothing is kept of what is written. -/
  | void
  /-- Some text, and after it another over and over without end. -/
  | endless (ready cycle : List Char)
  /-- What is left to be read. -/
  | source (rest : List Char)
  /-- What was written and when, the latest to be written first. -/
  | sink (pieces : List (Nat × String))
  /-- A file open for writing at a place, or at its end. -/
  | file (path : Path) (place : Nat) (appending : Bool)
  deriving Inhabited

/-- The state of the machine. -/
structure World where
  files : Files := {}
  channels : Array Channel := #[]
  /-- Milliseconds since the machine was started. -/
  clock : Nat := 0
  /-- The process that is waited for, and when it will be killed. -/
  deadline : Option (Nat × Nat) := none
  nextPid : Nat := 1001
  /-- The processes that run, the innermost first. -/
  alive : List Nat := []
  /-- Signals that were sent and not yet taken. -/
  signals : List (Nat × Nat) := []
  /-- The user has interrupted the program that drives the machine. -/
  interrupted : Bool := false
  git : Git.Store := {}
  /-- What was copied on to the console. -/
  console : Array UInt8 := #[]
  deriving Inhabited

/-- The number of the program that drives the machine. -/
def hostPid : Nat := 1000

/-- A running program. -/
structure Process where
  pid : Nat
  parent : Nat := hostPid
  directory : Path := []
  environment : List (String × String) := []
  /-- The channel behind each descriptor. -/
  descriptors : List (Nat × Nat) := []
  deriving Inhabited

/-- Computations on the machine. -/
abbrev M := StateM World

-- ---------------------------------------------------------------------------
-- Channels
-- ---------------------------------------------------------------------------

/-- Adds a channel. -/
def newChannel (c : Channel) : M Nat := modifyGet fun w =>
  (w.channels.size, { w with channels := w.channels.push c })

/-- Changes a channel. -/
def setChannel (id : Nat) (c : Channel) : M Unit := modify fun w =>
  { w with channels := w.channels.setIfInBounds id c }

/-- A channel. -/
def channel (id : Nat) : M Channel := return (← get).channels.getD id .void

/-- Pieces of text in the order of their times, as one text; of one time, the last comes last. -/
def inOrder (pieces : List (Nat × String)) : String :=
  String.join ((pieces.reverse.mergeSort fun a b => a.1 ≤ b.1).map Prod.snd)

/-- What was written to a channel. -/
def written (id : Nat) : M String := do
  match ← channel id with
  | .sink pieces => return inOrder pieces
  | _ => return ""

/-- Takes back what was written ahead of the time that it is. -/
def unwriteAhead : M Unit := modify fun w =>
  { w with channels := w.channels.map fun c => match c with
    | .sink pieces => .sink (pieces.filter fun piece => piece.1 ≤ w.clock)
    | c => c }

/-- The channel behind a descriptor. -/
def Process.channel? (p : Process) (descriptor : Nat) : Option Nat :=
  (p.descriptors.find? fun d => d.1 = descriptor).map Prod.snd

/-- The same process with a channel behind a descriptor. -/
def Process.withDescriptor (p : Process) (descriptor id : Nat) : Process :=
  { p with descriptors :=
      (descriptor, id) :: p.descriptors.filter fun d => d.1 ≠ descriptor }

/-- The same process without a descriptor. -/
def Process.closing (p : Process) (descriptor : Nat) : Process :=
  { p with descriptors := p.descriptors.filter fun d => d.1 ≠ descriptor }

/-- A text with another text written over it from a place on; a gap is filled with zeros. -/
def overwrite (content : String) (place : Nat) (piece : String) : String :=
  if place = content.length then content ++ piece
  else
    let cs := content.toList
    let gap := List.replicate (place - cs.length) (Char.ofNat 0)
    String.ofList (cs.take place ++ gap ++ piece.toList ++ cs.drop (place + piece.length))

/-- Writes to a channel. -/
def writeChannel (id : Nat) (piece : String) : M Unit := do
  match ← channel id with
  | .sink pieces => setChannel id (.sink (((← get).clock, piece) :: pieces))
  | .file path place appending =>
    let files := (← get).files
    let content := (files.content? path).getD ""
    let place := if appending then content.length else place
    modify fun w => { w with files := w.files.write path (overwrite content place piece) }
    setChannel id (.file path (place + piece.length) appending)
  | _ => return ()

/-- Writes to a descriptor; whether it is open for writing. -/
def write (p : Process) (descriptor : Nat) (piece : String) : M Bool := do
  match p.channel? descriptor with
  | none => return false
  | some id =>
    if !piece.isEmpty then writeChannel id piece
    return true

/-- Writes to standard output. -/
def say (p : Process) (piece : String) : M Unit := do
  let _ ← write p 1 piece

/-- Writes to the diagnostics. -/
def complain (p : Process) (piece : String) : M Unit := do
  let _ ← write p 2 piece

/-- Takes up to some number of bytes from a channel. -/
def takeChannel (id count : Nat) : M (List Char) := do
  match ← channel id with
  | .source rest =>
    setChannel id (.source (rest.drop count))
    return rest.take count
  | .endless ready cycle =>
    let copies := (count - ready.length) / max cycle.length 1 + 1
    let ready := ready ++ (List.replicate copies cycle).flatten
    setChannel id (.endless (ready.drop count) cycle)
    return ready.take count
  | _ => return []

/-- Takes all that is left in a channel. -/
def drainChannel (id : Nat) : M (List Char) := do
  match ← channel id with
  | .source rest =>
    setChannel id (.source [])
    return rest
  | _ => return []

/-- Takes all that is left to be read from a descriptor. -/
def readAll (p : Process) (descriptor : Nat) : M (List Char) :=
  match p.channel? descriptor with
  | some id => drainChannel id
  | none => return []

/-- Takes a line from a descriptor; the second part tells whether its end was met. -/
def readLine (p : Process) (descriptor : Nat) : M (List Char × Bool) := do
  match p.channel? descriptor with
  | none => return ([], false)
  | some id =>
    match ← channel id with
    | .source rest =>
      let (line, rest) := rest.span (· ≠ '\n')
      match rest with
      | _ :: rest =>
        setChannel id (.source rest)
        return (line, true)
      | [] =>
        setChannel id (.source [])
        return (line, false)
    | _ => return ([], false)

-- ---------------------------------------------------------------------------
-- Files
-- ---------------------------------------------------------------------------

/-- The path that a written path means to a process. -/
def Process.path (p : Process) (written : String) : Path := Path.resolve p.directory written

/-- Changes the tree of files. -/
def alterFiles (change : Files → Files) : M Unit := modify fun w =>
  { w with files := change w.files }

/-- Why a file cannot be had. -/
inductive FileFault where
  | missing
  | isDirectory
  | notDirectory
  /-- The directory that would hold the file does not exist. -/
  | noParent
  | badDescriptor
  deriving DecidableEq, Inhabited, Repr

/-- The usual words for a fault. -/
def FileFault.text : FileFault → String
  | .missing | .noParent => "No such file or directory"
  | .isDirectory => "Is a directory"
  | .notDirectory => "Not a directory"
  | .badDescriptor => "Bad file descriptor"

/-- The descriptor that a path under `/dev` means. -/
def deviceDescriptor? (path : Path) : Option Nat :=
  match path with
  | ["dev", "stdin"] => some 0
  | ["dev", "stdout"] => some 1
  | ["dev", "stderr"] => some 2
  | ["dev", "fd", n] => n.toNat?
  | _ => none

/-- One of the directories above a path is a file. -/
def passesFile (files : Files) (path : Path) : Bool :=
  (List.range path.length).any fun n => files.isFile (path.take n)

/-- Opens a file for reading. -/
def openForReading (p : Process) (written : String) : M (Except FileFault Nat) := do
  let path := p.path written
  match deviceDescriptor? path with
  | some d =>
    return match p.channel? d with
      | some id => .ok id
      | none => .error .missing
  | none =>
    if path = ["dev", "null"] then return .ok (← newChannel .void)
    else if path = ["dev", "zero"] then return .ok (← newChannel (.endless [] [Char.ofNat 0]))
    else
      let files := (← get).files
      if written = "" then return .error .missing
      match files.find? path with
      | some (.file content _) => return .ok (← newChannel (.source content.toList))
      | some .directory => return .error .isDirectory
      | none => return .error (if passesFile files path then .notDirectory else .missing)

/-- Opens a file for writing; unless `appending`, what is in it is lost. -/
def openForWriting (p : Process) (written : String) (appending : Bool) :
    M (Except FileFault Nat) := do
  let path := p.path written
  match deviceDescriptor? path with
  | some d =>
    return match p.channel? d with
      | some id => .ok id
      | none => .error .missing
  | none =>
    if path = ["dev", "null"] ∨ path = ["dev", "zero"] then return .ok (← newChannel .void)
    else
      let files := (← get).files
      if written = "" then return .error .missing
      match files.find? path with
      | some .directory => return .error .isDirectory
      | some (.file _ _) =>
        if !appending then alterFiles (·.write path "")
        return .ok (← newChannel (.file path 0 appending))
      | none =>
        if files.isDirectory path.dropLast then
          alterFiles (·.write path "")
          return .ok (← newChannel (.file path 0 appending))
        else return .error (if passesFile files path then .notDirectory else .noParent)

-- ---------------------------------------------------------------------------
-- Processes
-- ---------------------------------------------------------------------------

/-- A new process number. -/
def newPid : M Nat := modifyGet fun w => (w.nextPid, { w with nextPid := w.nextPid + 1 })

/-- A child of a process: the same directory, variables and streams under a new number. -/
def Process.fork (p : Process) : M Process := do
  let pid ← newPid
  return { p with pid := pid, parent := p.pid }

/-- Runs a computation as a process that others can send signals to. -/
def living {α : Type} (pid : Nat) (body : M α) : M α := do
  modify fun w => { w with alive := pid :: w.alive }
  let a ← body
  modify fun w =>
    { w with alive := w.alive.erase pid, signals := w.signals.filter fun s => s.1 ≠ pid }
  return a

/-- The time of a process is over. -/
def isOverdue (pid : Nat) : M Bool := do
  let w ← get
  return w.deadline.any fun (watched, time) => watched = pid && time ≤ w.clock

/-- Lets some milliseconds pass. -/
def pass (milliseconds : Nat) : M Unit := modify fun w =>
  { w with clock := w.clock + milliseconds }

/-- The signal that interrupts. -/
def interruptSignal : Nat := 2

/-- The signal that cannot be refused. -/
def killSignal : Nat := 9

/-- Sends a signal; whether there is a process of that number. -/
def signal (pid number : Nat) : M Bool := do
  let w ← get
  if pid = hostPid then
    if number = interruptSignal then set { w with interrupted := true }
    return true
  else if w.alive.contains pid then
    if number ≠ 0 then set { w with signals := w.signals ++ [(pid, number)] }
    return true
  else return false

/-- The signals sent to a process, which are taken by this. -/
def takeSignals (pid : Nat) : M (List Nat) := modifyGet fun w =>
  ((w.signals.filter fun s => s.1 = pid).map Prod.snd,
   { w with signals := w.signals.filter fun s => s.1 ≠ pid })

end Errand.Machine
