import Errand.Dispatch

/-!
# Errand — the command line

The words of the command line, read from left to right: options with and
without a value, clusters of short ones, and at most one plain word, the task.
What is refused at a word is refused before anything that a later word asks
for; what two options together rule out is looked at once all are read.

* `Arguments`        — what the words amount to.
* `Arguments.read`   — the reading: a run, one of the two notices, or a refusal.
-/

namespace Errand

/-- What the words of a command line amount to. -/
structure Arguments where
  task : Option String := none
  issue : Option String := none
  stdin : Bool := false
  lite : Bool := false
  forceLite : Bool := false
  full : Bool := false
  messageId : Option String := none
  dryRun : Bool := false
  verbose : Bool := false
  json : Bool := false
  config : Option String := none
  deriving DecidableEq, Inhabited, Repr

namespace Arguments

/-- An option without a value. -/
inductive Flag where
  | stdin
  | lite
  | forceLite
  | full
  | dryRun
  | verbose
  | json
  deriving DecidableEq, Inhabited, Repr

/-- An option with a value. -/
inductive Slot where
  | issue
  | messageId
  | config
  deriving DecidableEq, Inhabited, Repr

/-- What a name stands for. -/
inductive Name where
  | flag (f : Flag)
  | slot (s : Slot)
  | help
  | version
  deriving DecidableEq, Inhabited, Repr

/-- The long names. -/
def longNames : List (String × Name) :=
  [("stdin", .flag .stdin), ("lite", .flag .lite), ("force-lite", .flag .forceLite),
   ("full", .flag .full), ("dry-run", .flag .dryRun), ("verbose", .flag .verbose),
   ("json", .flag .json), ("issue", .slot .issue), ("message-id", .slot .messageId),
   ("config", .slot .config), ("help", .help), ("version", .version)]

/-- The short names. -/
def shortNames : List (Char × Name) :=
  [('i', .slot .issue), ('l', .flag .lite), ('m', .slot .messageId), ('n', .flag .dryRun),
   ('v', .flag .verbose), ('h', .help), ('V', .version)]

/-- Why reading stopped before the end. -/
inductive Stop where
  | help
  | version
  /-- A word that cannot be accepted. -/
  | refused
  deriving DecidableEq, Inhabited, Repr

/-- The flag is set. -/
def has (a : Arguments) : Flag → Bool
  | .stdin => a.stdin
  | .lite => a.lite
  | .forceLite => a.forceLite
  | .full => a.full
  | .dryRun => a.dryRun
  | .verbose => a.verbose
  | .json => a.json

/-- Sets a flag, which may be done once. -/
def setFlag (a : Arguments) (f : Flag) : Except Stop Arguments :=
  if a.has f then .error .refused
  else match f with
    | .stdin => .ok { a with stdin := true }
    | .lite => .ok { a with lite := true }
    | .forceLite => .ok { a with forceLite := true }
    | .full => .ok { a with full := true }
    | .dryRun => .ok { a with dryRun := true }
    | .verbose => .ok { a with verbose := true }
    | .json => .ok { a with json := true }

/-- Gives an option its value, which may be done once; a path may not be empty. -/
def fill (a : Arguments) (s : Slot) (value : String) : Except Stop Arguments :=
  match s with
  | .issue => if a.issue.isSome then .error .refused else .ok { a with issue := some value }
  | .messageId =>
    if a.messageId.isSome then .error .refused else .ok { a with messageId := some value }
  | .config =>
    if a.config.isSome ∨ value.isEmpty then .error .refused
    else .ok { a with config := some value }

/-- Takes a plain word as the task, of which there is at most one. -/
def takeTask (a : Arguments) (word : String) : Except Stop Arguments :=
  if a.task.isSome then .error .refused else .ok { a with task := some word }

/-- A word that stands for itself: it does not begin with a dash, or is a dash alone. -/
def isPlain (word : String) : Bool :=
  match word.toList with
  | '-' :: _ :: _ => false
  | _ => true

/-- The value of an option: the text attached to it, or the next word if that is plain. -/
def valueOf (attached : Option String) (rest : List String) :
    Except Stop (String × List String) :=
  match attached, rest with
  | some value, rest => .ok (value, rest)
  | none, word :: rest => if isPlain word then .ok (word, rest) else .error .refused
  | none, [] => .error .refused

/-- A long option, with the text after its equals sign. -/
def long (a : Arguments) (name : String) (attached : Option String) (rest : List String) :
    Except Stop (Arguments × List String) :=
  match (longNames.find? fun entry => entry.1 = name).map Prod.snd, attached with
  | some (.flag f), none => do
    let a ← a.setFlag f
    .ok (a, rest)
  | some (.slot s), attached => do
    let (value, rest) ← valueOf attached rest
    let a ← a.fill s value
    .ok (a, rest)
  | some .help, none => .error .help
  | some .version, none => .error .version
  | _, _ => .error .refused

/-- The text after an equals sign, or all of it without one; nothing if there is no text. -/
def attachedText : List Char → Option String
  | [] => none
  | '=' :: value => some (String.ofList value)
  | value => some (String.ofList value)

/-- A cluster of short options; one with a value takes the rest of the cluster. -/
def cluster (a : Arguments) (rest : List String) :
    List Char → Except Stop (Arguments × List String)
  | [] => .ok (a, rest)
  | c :: more =>
    match (shortNames.find? fun entry => entry.1 = c).map Prod.snd with
    | some (.flag f) => do
      let a ← a.setFlag f
      cluster a rest more
    | some (.slot s) => do
      let (value, rest) ← valueOf (attachedText more) rest
      let a ← a.fill s value
      .ok (a, rest)
    | some .help => .error .help
    | some .version => .error .version
    | none => .error .refused

/-- A word that begins with a dash. -/
def option (a : Arguments) (word : List Char) (rest : List String) :
    Except Stop (Arguments × List String) :=
  match word with
  | '-' :: '-' :: name =>
    let (name, value) := name.span (· ≠ '=')
    a.long (String.ofList name)
      (match value with
       | [] => none
       | _ :: value => some (String.ofList value)) rest
  | _ :: letters => a.cluster rest letters
  | [] => .ok (a, rest)

/-- Takes words that can only be the task. -/
def plainWords (a : Arguments) : List String → Except Stop Arguments
  | [] => .ok a
  | word :: rest => do
    let a ← a.takeTask word
    a.plainWords rest

/-- Reads the words; two dashes make all that follows plain. -/
def readWords (fuel : Nat) (a : Arguments) (words : List String) : Except Stop Arguments :=
  match fuel, words with
  | 0, _ | _, [] => .ok a
  | fuel + 1, word :: rest =>
    if word = "--" then a.plainWords rest
    else if isPlain word then do
      let a ← a.takeTask word
      readWords fuel a rest
    else do
      let (a, rest) ← a.option word.toList rest
      readWords fuel a rest

/-- How many of the three ways to name a task are used. -/
def targets (a : Arguments) : Nat :=
  a.task.isSome.toNat + a.issue.isSome.toNat + a.stdin.toNat

/-- No two options rule each other out. -/
def isConsistent (a : Arguments) : Bool :=
  a.targets ≤ 1 && !(a.full && (a.lite || a.forceLite))

/-- What the words of a command line amount to. -/
def read (words : List String) : Except Stop Arguments := do
  let a ← readWords (words.length + 1) {} words
  if a.isConsistent then .ok a else .error .refused

/-- The caller's say in the choice of mode. -/
def choice (a : Arguments) : Mode.Choice :=
  if a.lite || a.forceLite then .lite else if a.full then .full else .auto

/-- The caller's choices for the run. -/
def runOptions (a : Arguments) : RunOptions :=
  { choice := a.choice, recipient := a.messageId, dryRun := a.dryRun }

/-- The settings file that is looked for when none is named. -/
def defaultConfig : String := "polecat.toml"

/-- The path of the settings file. -/
def configPath (a : Arguments) : String := a.config.getD defaultConfig

end Arguments

end Errand
