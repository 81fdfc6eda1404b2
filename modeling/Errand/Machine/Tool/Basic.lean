import Errand.Machine.World

/-!
# Errand — small programs of the machine

What the small programs have in common: each is given a process and its
arguments, reads and writes the streams of the process, and ends with a code.

* `Tool`        — a small program.
* `Options`     — arguments sorted into options and operands.
* `Tool.inputs` — the texts of the files named, or standard input.
-/

namespace Errand.Machine

/-- A small program: from its process and its arguments to its end. -/
abbrev Tool := Process → List String → M ExitStatus

/-- Arguments sorted into options and operands. -/
structure Options where
  /-- Options in order, each with its value if it takes one. -/
  given : List (String × String) := []
  operands : List String := []
  deriving Inhabited

namespace Options

/-- Whether an option was given. -/
def has (o : Options) (name : String) : Bool := o.given.any fun g => g.1 = name

/-- The value of an option, the latest if it was given more than once. -/
def value? (o : Options) (name : String) : Option String :=
  (o.given.reverse.find? fun g => g.1 = name).map Prod.snd

/-- A cluster of short options; one that takes a value takes the rest, or the next argument. -/
def cluster (valued : List Char) (o : Options) (rest : List String) :
    List Char → Options × List String
  | [] => (o, rest)
  | c :: more =>
    let name := String.singleton c
    if valued.contains c then
      if more.isEmpty then
        ({ o with given := o.given ++ [(name, rest.headD "")] }, rest.drop 1)
      else ({ o with given := o.given ++ [(name, String.ofList more)] }, rest)
    else cluster valued { o with given := o.given ++ [(name, "")] } rest more

/-- Reads arguments; `valued` are the short options that take a value. -/
def readFrom (valued : List Char) (fuel : Nat) (o : Options) (args : List String) : Options :=
  match fuel, args with
  | 0, _ | _, [] => o
  | fuel + 1, arg :: rest =>
    match arg.toList with
    | ['-', '-'] => { o with operands := o.operands ++ rest }
    | '-' :: '-' :: name =>
      let (name, value) := name.span (· ≠ '=')
      readFrom valued fuel
        { o with given := o.given ++ [(String.ofList name, String.ofList (value.drop 1))] } rest
    | '-' :: c :: more =>
      let (o, rest) := cluster valued o rest (c :: more)
      readFrom valued fuel o rest
    | _ => readFrom valued fuel { o with operands := o.operands ++ [arg] } rest

/-- Reads arguments; `valued` are the short options that take a value. -/
def read (valued : String) (args : List String) : Options :=
  readFrom valued.toList (args.length + 1) {} args

end Options

namespace Tool

/-- The end of a program that did what it was asked to. -/
def success : ExitStatus := .exited 0

/-- The end of a program, by whether all went well. -/
def endWith (allWell : Bool) : ExitStatus := .exited (if allWell then 0 else 1)

/-- Writes a diagnostic of a program. -/
def report (p : Process) (name detail : String) : M Unit :=
  complain p (name ++ ": " ++ detail ++ "\n")

/-- A file name between quotes, as diagnostics show it. -/
def quoted (name : String) : String := "'" ++ name ++ "'"

/-- The text of a file or, for a dash, of standard input. -/
def textOf (p : Process) (name : String) : M (Except FileFault (List Char)) := do
  if name = "-" then return .ok (← readAll p 0)
  else
    match ← openForReading p name with
    | .error fault => return .error fault
    | .ok id => return .ok (← drainChannel id)

/-- The names whose texts are read: those given, or standard input. -/
def inputNames (names : List String) : List String := if names.isEmpty then ["-"] else names

/--
The texts of the files named, or of standard input, with their names; a file
that cannot be had is reported in the words of `complaint`.
-/
def inputs (p : Process) (program : String) (complaint : String → FileFault → String) :
    List String → M (List (String × List Char) × Bool)
  | [] => return ([], true)
  | name :: rest => do
    let found ← textOf p name
    match found with
    | .ok text =>
      let (more, allWell) ← inputs p program complaint rest
      return ((name, text) :: more, allWell)
    | .error fault =>
      report p program (complaint name fault)
      let (more, _) ← inputs p program complaint rest
      return (more, false)

/-- A diagnostic that names a file and its fault. -/
def plainComplaint (name : String) (fault : FileFault) : String := name ++ ": " ++ fault.text

/-- A diagnostic on a file that cannot be opened. -/
def openComplaint (name : String) (fault : FileFault) : String :=
  "cannot open " ++ quoted name ++ " for reading: " ++ fault.text

/-- The lines of a text, each without its line break; a last one may lack it. -/
def linesOf (cs : List Char) : List (List Char) :=
  let step (c : Char) (lines : List (List Char)) : List (List Char) :=
    if c = '\n' then [] :: lines
    else match lines with
      | [] => [[c]]
      | line :: rest => (c :: line) :: rest
  cs.foldr step []

/-- Lines as a text, each with a line break after it. -/
def unlines (lines : List (List Char)) : String :=
  String.ofList (lines.flatMap fun line => line ++ ['\n'])

end Tool

end Errand.Machine
