import Errand.Machine.Shell.Arithmetic
import Errand.Machine.Shell.Glob
import Errand.Machine.Shell.State
import Errand.Machine.Signals

/-!
# Errand — words of the shell

From the parts of a word to the words that a command gets: variables and the
output of scripts are put in, what came from them without quotes is split at
separators, and patterns become the names that fit.

* `Piece`         — expanded text, with what may still be done to it.
* `expandWords`   — the words of a command.
* `expandText`    — a word as a single text.
* `expandPattern` — a word as a pattern.
-/

namespace Errand.Machine.Shell

-- ---------------------------------------------------------------------------
-- Pieces
-- ---------------------------------------------------------------------------

/-- Expanded text. -/
inductive Piece where
  /-- Text; what is quoted is left alone, and what `splits` may be split. -/
  | text (cs : List Char) (isQuoted splits : Bool)
  /-- The end of one parameter and the start of the next. -/
  | cut
  deriving Inhabited

/-- The characters of some pieces, each with whether it was quoted. -/
def marked : List Piece → List Marked
  | [] => []
  | .text cs isQuoted _ :: rest => cs.map (fun c => (c, isQuoted)) ++ marked rest
  | .cut :: rest => (' ', true) :: marked rest

/-- The text of some pieces. -/
def plain (pieces : List Piece) : String := String.ofList ((marked pieces).map Prod.fst)

/-- A word being gathered: its characters, latest first, and whether it is there at all. -/
structure Gathering where
  current : List Marked := []
  present : Bool := false
  /-- The words that are complete, latest first. -/
  words : List (List Marked) := []

namespace Gathering

/-- Ends the current word, if it is there. -/
def close (g : Gathering) : Gathering :=
  if g.present then ⟨[], false, g.current.reverse :: g.words⟩ else g

/-- Adds a character to the current word. -/
def push (g : Gathering) (c : Char) (isQuoted : Bool) : Gathering :=
  { g with current := (c, isQuoted) :: g.current, present := true }

/-- Adds a character at which words may be split. -/
def split (separators : List Char) (g : Gathering) (c : Char) : Gathering :=
  if separators.contains c then
    if c = ' ' ∨ c = '\t' ∨ c = '\n' then g.close
    else ⟨[], false, g.current.reverse :: g.words⟩
  else g.push c false

/-- Adds a piece. -/
def add (separators : List Char) (g : Gathering) : Piece → Gathering
  | .cut => g.close
  | .text cs isQuoted splits =>
    if splits then cs.foldl (split separators) g
    else
      let g := cs.foldl (fun g c => g.push c isQuoted) g
      { g with present := g.present || isQuoted || !cs.isEmpty }

end Gathering

/-- The words that some pieces make. -/
def wordsOf (separators : List Char) (pieces : List Piece) : List (List Marked) :=
  (pieces.foldl (Gathering.add separators) {}).close.words.reverse

-- ---------------------------------------------------------------------------
-- Names of files
-- ---------------------------------------------------------------------------

/-- The parts of a path between its slashes. -/
def pathParts (cs : List Marked) : List (List Marked) :=
  cs.foldr
    (fun c parts =>
      match parts with
      | [] => if c.1 = '/' then [[], []] else [[c]]
      | part :: rest => if c.1 = '/' then [] :: part :: rest else (c :: part) :: rest)
    [[]]

/-- The names in a directory that fit a part of a path. -/
def fitting (files : Files) (directory : Path) (part : List Marked) : List String :=
  let pattern := Glob.read part
  let showsHidden := (part.head?.map Prod.fst) = some '.'
  (files.children directory).filter fun name =>
    (showsHidden || name.toList.head? ≠ some '.') && Glob.fits pattern name.toList

/-- The paths that fit the parts of a pattern, from a directory written so far. -/
def pathsFitting (files : Files) (directory : Path) (before : String) :
    List (List Marked) → List String
  | [] => []
  | [part] =>
    if Glob.isActive part then (fitting files directory part).map (before ++ ·)
    else
      let name := String.ofList (part.map Prod.fst)
      if name.isEmpty ∨ files.exists? (Path.follow directory name) then [before ++ name] else []
  | part :: rest =>
    let names :=
      if Glob.isActive part then fitting files directory part
      else [String.ofList (part.map Prod.fst)]
    names.flatMap fun name =>
      let next := Path.follow directory name
      if name.isEmpty ∨ files.isDirectory next then
        pathsFitting files next (before ++ name ++ "/") rest
      else []

/-- The names that a word stands for: those that fit its pattern, or the word itself. -/
def namesOf (files : Files) (directory : Path) (noGlob : Bool) (cs : List Marked) : List String :=
  let itself := String.ofList (cs.map Prod.fst)
  if noGlob ∨ !Glob.isActive cs then [itself]
  else
    let start := if (cs.head?.map Prod.fst) = some '/' then [] else directory
    match pathsFitting files start "" (pathParts cs) with
    | [] => [itself]
    | found => found.mergeSort fun a b => a ≤ b

-- ---------------------------------------------------------------------------
-- Values
-- ---------------------------------------------------------------------------

/-- A text without the line breaks at its end. -/
def dropFinalBreaks (cs : List Char) : List Char := (cs.reverse.dropWhile (· = '\n')).reverse

/-- The starts of a text, the shortest first. -/
def starts (cs : List Char) : List (List Char) := (List.range (cs.length + 1)).map cs.take

/-- A text without a start that fits a pattern. -/
def cutFront (longest : Bool) (pattern : List Glob) (cs : List Char) : List Char :=
  let fitting := (starts cs).filter (Glob.fits pattern)
  match if longest then fitting.getLast? else fitting.head? with
  | some start => cs.drop start.length
  | none => cs

/-- A text without an end that fits a pattern. -/
def cutBack (longest : Bool) (pattern : List Glob) (cs : List Char) : List Char :=
  let fitting := (List.range (cs.length + 1)).filter fun n => Glob.fits pattern (cs.drop n)
  match if longest then fitting.head? else fitting.getLast? with
  | some n => cs.take n
  | none => cs

/-- The output of a command that is run in a shell of its own. -/
def outputOf (run : Runner) (body : Command) : ShellM (List Char) := do
  let s ← get
  let (status, text) ← onMachine do
    let sink ← newChannel (.sink [])
    let child ← s.process.fork
    let inner : Shell :=
      { s with process := child.withDescriptor 1 sink, traps := [], jobs := [] }
    let (status, _) ← living child.pid (Shell.runIn inner (run.execute body))
    return (status, ← written sink)
  onMachine (Signals.mention s.process status)
  modify fun s => { s with inner := some (codeOf status) }
  return dropFinalBreaks (text.toList.filter fun c => c.toNat ≠ 0)

/-- The value of an arithmetic expression. -/
def arithmeticOf (text : String) : ShellM (List Char) := do
  let s ← get
  match Arithmetic.eval s.valueOf? text.toList with
  | .error reason => die ("arithmetic expression: " ++ reason ++ ": \"" ++ text ++ "\"")
  | .ok (n, assigned) =>
    for (name, value) in assigned do
      assign name (toString value)
    return (toString n).toList

/-- The pieces of all parameters, or of one text that joins them. -/
def parameterPieces (s : Shell) (name : String) (isQuoted : Bool) : List Piece :=
  if name = "*" ∧ isQuoted then
    let joint := match s.separators with
      | c :: _ => String.singleton c
      | [] => ""
    [.text (String.intercalate joint s.parameters).toList true false]
  else
    (s.parameters.map fun p => Piece.text p.toList isQuoted (!isQuoted)).intersperse .cut

/-- The value of a variable, or the end of the shell if it has to have one. -/
def requiredValue (name : String) : ShellM (Option String) := do
  let s ← get
  let value := s.valueOf? name
  if value.isNone ∧ s.switches.strict then die (name ++ ": parameter not set")
  return value

mutual
/-- The pieces of a part of a word. -/
def expandPart (run : Runner) (isQuoted : Bool) : Part → ShellM (List Piece)
  | .bare cs => return [.text cs isQuoted false]
  | .literal cs => return [.text cs true false]
  | .quoted [] => return [.text [] true false]
  | .quoted (part :: parts) => do
    let first ← expandPart run true part
    let rest ← expandParts run true parts
    return first ++ rest
  | .length name => do
    let s ← get
    let length := match name with
      | "@" | "*" => s.parameters.length
      | name => ((s.valueOf? name).getD "").length
    return [.text (toString length).toList isQuoted (!isQuoted)]
  | .output body => do
    let text ← outputOf run body
    return [.text text isQuoted (!isQuoted)]
  | .arithmetic parts => do
    let pieces ← expandParts run true parts
    let text ← arithmeticOf (plain pieces)
    return [.text text isQuoted (!isQuoted)]
  | .variable name operation word => do
    let s ← get
    if (name = "@" ∨ name = "*") ∧ operation.isNone then
      return parameterPieces s name isQuoted
    let whole (value : String) : List Piece := [.text value.toList isQuoted (!isQuoted)]
    let current := match name with
      | "@" | "*" =>
        if s.parameters.isEmpty then none else some (String.intercalate " " s.parameters)
      | name => s.valueOf? name
    match operation with
    | none =>
      let value ← requiredValue name
      return whole (value.getD "")
    | some (op, takesEmpty) =>
      let isMissing := match current with
        | some value => takesEmpty && value.isEmpty
        | none => true
      match op with
      | .orElse =>
        if isMissing then expandParts run isQuoted word else return whole (current.getD "")
      | .ifSet => if isMissing then return whole "" else expandParts run isQuoted word
      | .orAssign =>
        if isMissing then
          let pieces ← expandParts run isQuoted word
          assign name (plain pieces)
          return whole (plain pieces)
        else return whole (current.getD "")
      | .orFail =>
        if isMissing then
          let pieces ← expandParts run isQuoted word
          let message := plain pieces
          die (name ++ ": " ++ if message.isEmpty then "parameter not set" else message)
        else return whole (current.getD "")
      | .cutFront longest =>
        let pieces ← expandParts run false word
        let cs := cutFront longest (Glob.read (marked pieces)) (current.getD "").toList
        return [.text cs isQuoted (!isQuoted)]
      | .cutBack longest =>
        let pieces ← expandParts run false word
        let cs := cutBack longest (Glob.read (marked pieces)) (current.getD "").toList
        return [.text cs isQuoted (!isQuoted)]

/-- The pieces of the parts of a word. -/
def expandParts (run : Runner) (isQuoted : Bool) : List Part → ShellM (List Piece)
  | [] => return []
  | part :: rest => do
    let first ← expandPart run isQuoted part
    let more ← expandParts run isQuoted rest
    return first ++ more
end

/-- A word as a single text. -/
def expandText (run : Runner) (w : Word) : ShellM String := do
  let pieces ← expandParts run false w
  return plain pieces

/-- A word as a pattern. -/
def expandPattern (run : Runner) (w : Word) : ShellM (List Glob) := do
  let pieces ← expandParts run false w
  return Glob.read (marked pieces)

/-- The words that a command gets for one of its words. -/
def expandWord (run : Runner) (w : Word) : ShellM (List String) := do
  let pieces ← expandParts run false w
  let s ← get
  let files ← onMachine (return (← get).files)
  return (wordsOf s.separators pieces).flatMap
    (namesOf files s.process.directory s.switches.noGlob)

/-- The words that a command gets. -/
def expandWords (run : Runner) : List Word → ShellM (List String)
  | [] => return []
  | w :: rest => do
    let first ← expandWord run w
    let more ← expandWords run rest
    return first ++ more

end Errand.Machine.Shell
