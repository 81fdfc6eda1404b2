import Errand.Machine.Tool.Streams
import Errand.Pattern.Folding
import Errand.Pattern.Match

/-!
# Errand — editing lines

The stream editor: a script of commands is run on every line of a text.

* `Edit.Expression.read` — the older and the newer form of regular expressions.
* `Edit.Step`            — a command and the lines it is for.
* `Edit.Script.read`     — a script from its text.
* `Edit.edited`          — a text after a script was run on it.
* `Edit.sed`             — the program.
-/

namespace Errand.Machine.Edit

-- ---------------------------------------------------------------------------
-- Regular expressions
-- ---------------------------------------------------------------------------

namespace Expression

/-- How an expression is written. -/
structure Manner where
  /-- Signs need no backslash. -/
  extended : Bool
  anyCase : Bool

/-- What has been read of an expression. -/
structure Reading where
  rest : List Char
  /-- The number of groups so far. -/
  groups : Nat := 0

/-- The set of characters that equal a character, in a manner. -/
def one (m : Manner) (set : Pattern.CharSet) : Pattern :=
  .one (if m.anyCase then .anyCase set else set)

/-- The set of a named class. -/
def classSet (name : String) : Pattern.CharSet :=
  .ofRanges ((Tool.classMembers name).map fun c => (c.toNat, c.toNat))

/-- The members of a bracket expression; the first one may be a closing bracket. -/
def members (fuel : Nat) (isFirst : Bool) (read : List Pattern.CharSet) (cs : List Char) :
    Option (Pattern.CharSet × List Char) :=
  match fuel, cs with
  | 0, _ | _, [] => none
  | fuel + 1, c :: rest =>
    if c = ']' ∧ !isFirst then some (read.foldl .union .empty, rest)
    else
      match c, rest with
      | '[', ':' :: more =>
        let name := more.takeWhile Char.isAlpha
        match more.drop name.length with
        | ':' :: ']' :: more => members fuel false (classSet (String.ofList name) :: read) more
        | _ => members fuel false (Pattern.CharSet.single '[' :: read) rest
      | '\\', 'n' :: more => members fuel false (Pattern.CharSet.single '\n' :: read) more
      | '\\', 't' :: more => members fuel false (Pattern.CharSet.single '\t' :: read) more
      | c, '-' :: d :: more =>
        if d = ']' then members fuel false (Pattern.CharSet.single c :: read) rest
        else members fuel false (.ofRanges [(c.toNat, d.toNat)] :: read) more
      | c, rest => members fuel false (Pattern.CharSet.single c :: read) rest

/-- A bracket expression, after its opening bracket. -/
def bracket (m : Manner) (cs : List Char) : Option (Pattern × List Char) :=
  let (negated, cs) := match cs with
    | '^' :: rest => (true, rest)
    | cs => (false, cs)
  (members (cs.length + 1) true [] cs).map fun (set, rest) =>
    let set := if m.anyCase then Pattern.CharSet.anyCase set else set
    (.one (if negated then .complement set else set), rest)

/-- The bounds of a repetition, after the opening brace; `close` is what ends them. -/
def bounds (close : List Char) (cs : List Char) : Option (Nat × Option Nat × List Char) :=
  let number (digits : List Char) : Nat := digits.foldl (fun n c => n * 10 + (c.toNat - 48)) 0
  let (least, rest) := cs.span Char.isDigit
  let (most, rest) := match rest with
    | ',' :: rest =>
      let (most, rest) := rest.span Char.isDigit
      (if most.isEmpty then none else some (number most), rest)
    | rest => (some (number least), rest)
  if close.isPrefixOf rest then some (number least, most, rest.drop close.length) else none

/-- The repetition that follows an expression, if there is one. -/
def repetition (m : Manner) (cs : List Char) : Option (Nat × Option Nat × List Char) :=
  match m.extended, cs with
  | _, '*' :: rest => some (0, none, rest)
  | true, '+' :: rest => some (1, none, rest)
  | true, '?' :: rest => some (0, some 1, rest)
  | true, '\x7b' :: rest => bounds ['\x7d'] rest
  | false, '\\' :: '+' :: rest => some (1, none, rest)
  | false, '\\' :: '?' :: rest => some (0, some 1, rest)
  | false, '\\' :: '\x7b' :: rest => bounds ['\\', '\x7d'] rest
  | _, _ => none

/-- An expression with the repetitions that follow it. -/
def repeated (m : Manner) (fuel : Nat) (p : Pattern) (r : Reading) : Pattern × Reading :=
  match fuel with
  | 0 => (p, r)
  | fuel + 1 =>
    match repetition m r.rest with
    | some (least, most, rest) =>
      repeated m fuel (.many p least most true) { r with rest := rest }
    | none => (p, r)

/-- The sign that separates alternatives stands here. -/
def alternative? (m : Manner) (cs : List Char) : Option (List Char) :=
  match m.extended, cs with
  | true, '|' :: rest => some rest
  | false, '\\' :: '|' :: rest => some rest
  | _, _ => none

/-- The sign that opens a group stands here. -/
def opening? (m : Manner) (cs : List Char) : Option (List Char) :=
  match m.extended, cs with
  | true, '(' :: rest => some rest
  | false, '\\' :: '(' :: rest => some rest
  | _, _ => none

/-- The sign that closes a group stands here. -/
def closing? (m : Manner) (cs : List Char) : Option (List Char) :=
  match m.extended, cs with
  | true, ')' :: rest => some rest
  | false, '\\' :: ')' :: rest => some rest
  | _, _ => none

/-- A part of an expression ends here. -/
def endsHere (m : Manner) (cs : List Char) : Bool :=
  cs.isEmpty || (alternative? m cs).isSome || (closing? m cs).isSome

/-- What a letter or sign after a backslash means. -/
def escape (m : Manner) (c : Char) : Option Pattern :=
  match c with
  | 'n' => some (.one (Pattern.CharSet.single '\n'))
  | 't' => some (.one (Pattern.CharSet.single '\t'))
  | 'w' => some (.one (.union (classSet "alnum") (Pattern.CharSet.single '_')))
  | 'W' => some (.one (.complement (.union (classSet "alnum") (Pattern.CharSet.single '_'))))
  | 's' => some (.one (classSet "space"))
  | 'S' => some (.one (.complement (classSet "space")))
  | 'b' => some (.place (.word false .edge))
  | 'B' => some (.place (.word false .noEdge))
  | '<' => some (.place (.word false .start))
  | '>' => some (.place (.word false .stop))
  | c => if c.isDigit then none else some (one m (Pattern.CharSet.single c))

mutual
/-- Alternatives. -/
def alternatives (m : Manner) (fuel : Nat) (r : Reading) : Option (Pattern × Reading) := do
  match fuel with
  | 0 => none
  | fuel + 1 =>
    let (p, r) ← sequence m fuel true r
    match alternative? m r.rest with
    | some rest =>
      let (q, r) ← alternatives m fuel { r with rest := rest }
      some (.alt p q, r)
    | none => some (p, r)

/-- Expressions one after the other. -/
def sequence (m : Manner) (fuel : Nat) (isFirst : Bool) (r : Reading) :
    Option (Pattern × Reading) := do
  match fuel with
  | 0 => none
  | fuel + 1 =>
    if endsHere m r.rest then some (.empty, r)
    else
      let (p, r) ← atom m fuel isFirst r
      let (p, r) := repeated m r.rest.length p r
      let (q, r) ← sequence m fuel false r
      some (.seq p q, r)

/-- A single expression. -/
def atom (m : Manner) (fuel : Nat) (isFirst : Bool) (r : Reading) : Option (Pattern × Reading) := do
  match fuel with
  | 0 => none
  | fuel + 1 =>
    match opening? m r.rest with
    | some rest =>
      let index := r.groups + 1
      let (p, r) ← alternatives m fuel ⟨rest, index⟩
      let rest ← closing? m r.rest
      some (.group index p, { r with rest := rest })
    | none =>
      match r.rest with
      | [] => none
      | '[' :: rest =>
        let (p, rest) ← bracket m rest
        some (p, { r with rest := rest })
      | '.' :: rest => some (.one Pattern.CharSet.all, { r with rest := rest })
      | '^' :: rest =>
        if isFirst || m.extended then some (.place .textStart, { r with rest := rest })
        else some (.one (Pattern.CharSet.single '^'), { r with rest := rest })
      | '$' :: rest =>
        if m.extended || endsHere m rest then some (.place .textEnd, { r with rest := rest })
        else some (.one (Pattern.CharSet.single '$'), { r with rest := rest })
      | '\\' :: c :: rest => do
        let p ← escape m c
        some (p, { r with rest := rest })
      | c :: rest => some (one m (Pattern.CharSet.single c), { r with rest := rest })
end

/-- Reads a regular expression. -/
def read (m : Manner) (cs : List Char) : Option Pattern := do
  let (p, r) ← alternatives m (4 * cs.length + 8) ⟨cs, 0⟩
  if r.rest.isEmpty then some p else none

end Expression

-- ---------------------------------------------------------------------------
-- Commands
-- ---------------------------------------------------------------------------

/-- A part of the text that takes the place of a match. -/
inductive Replacement where
  | text (c : Char)
  /-- The text of a group; group zero is the whole match. -/
  | group (index : Nat)
  deriving DecidableEq, Inhabited, Repr

/-- A substitution. -/
structure Substitution where
  pattern : Pattern
  replacement : List Replacement
  /-- The first match that is replaced. -/
  from? : Nat := 1
  /-- The matches after that one are replaced too. -/
  all : Bool := false
  prints : Bool := false
  deriving Inhabited

/-- What a command does. -/
inductive Action where
  | substitute (s : Substitution)
  | print
  | printNumber
  | delete
  | quit (code : Nat)
  | append (text : String)
  | insert (text : String)
  | change (text : String)
  | recode (source target : List Char)
  | hold (append : Bool)
  | fetch (append : Bool)
  | exchange
  /-- The commands that follow, so many of them, are for the same lines only. -/
  | block (length : Nat)
  | skip
  deriving Inhabited

/-- The lines that a command is for. -/
inductive Address where
  | number (n : Nat)
  | last
  | fits (p : Pattern)
  deriving Inhabited

/-- A command and the lines it is for. -/
structure Step where
  first : Option Address := none
  final : Option Address := none
  negated : Bool := false
  action : Action := .skip
  deriving Inhabited

namespace Script

/-- What has been read of a script. -/
structure Reading where
  rest : List Char
  /-- The number of characters read. -/
  place : Nat := 0

/-- A fault of a script: its place and the reason. -/
abbrev Fault := Nat × String

/-- The same reading some characters later. -/
def Reading.skip (r : Reading) (count : Nat) : Reading :=
  ⟨r.rest.drop count, r.place + min count r.rest.length⟩

/-- The same reading without blanks at its head. -/
def Reading.trimmed (r : Reading) : Reading :=
  r.skip (r.rest.takeWhile fun c => c = ' ' || c = '\t').length

/-- The same reading without blanks, line breaks and semicolons at its head. -/
def Reading.nextCommand (r : Reading) : Reading :=
  r.skip (r.rest.takeWhile fun c => c = ' ' || c = '\t' || c = '\n' || c = ';').length

/-- A text up to a delimiter; one after a backslash belongs to the text. -/
def delimited (fuel : Nat) (delimiter : Char) (read : List Char) (r : Reading) :
    Option (List Char × Reading) :=
  match fuel, r.rest with
  | 0, _ | _, [] => none
  | fuel + 1, c :: rest =>
    if c = delimiter then some (read.reverse, r.skip 1)
    else
      match c, rest with
      | '\\', d :: _ =>
        if d = delimiter then delimited fuel delimiter (d :: read) (r.skip 2)
        else delimited fuel delimiter (d :: '\\' :: read) (r.skip 2)
      | c, _ => delimited fuel delimiter (c :: read) (r.skip 1)

/-- A text up to a delimiter. -/
def Reading.until? (r : Reading) (delimiter : Char) : Option (List Char × Reading) :=
  delimited (r.rest.length + 1) delimiter [] r

/-- The parts of the text that takes the place of a match. -/
def replacement : List Char → List Replacement
  | [] => []
  | '&' :: rest => .group 0 :: replacement rest
  | '\\' :: c :: rest =>
    let part : Replacement :=
      if c.isDigit then .group (c.toNat - 48)
      else match c with
        | 'n' => .text '\n'
        | 't' => .text '\t'
        | c => .text c
    part :: replacement rest
  | c :: rest => .text c :: replacement rest

/-- The flags after a substitution. -/
structure Flags where
  all : Bool := false
  prints : Bool := false
  anyCase : Bool := false
  from? : Nat := 1

/-- Reads the flags after a substitution. -/
def flags (f : Flags) : List Char → Flags × List Char
  | 'g' :: rest => flags { f with all := true } rest
  | 'p' :: rest => flags { f with prints := true } rest
  | 'I' :: rest => flags { f with anyCase := true } rest
  | 'i' :: rest => flags { f with anyCase := true } rest
  | c :: rest =>
    if c.isDigit then flags { f with from? := c.toNat - 48 } rest else (f, c :: rest)
  | [] => (f, [])

/-- Reads an address. -/
def address (extended : Bool) (r : Reading) : Except Fault (Option Address × Reading) :=
  match r.rest with
  | '$' :: _ => .ok (some .last, r.skip 1)
  | '/' :: _ =>
    match (r.skip 1).until? '/' with
    | none => .error (r.place + r.rest.length, "unterminated address regex")
    | some (cs, r) =>
      let (anyCase, r) := match r.rest with
        | 'I' :: _ => (true, r.skip 1)
        | _ => (false, r)
      match Expression.read ⟨extended, anyCase⟩ cs with
      | some p => .ok (some (.fits p), r)
      | none => .error (r.place, "Invalid preceding regular expression")
  | c :: _ =>
    if c.isDigit then
      let digits := r.rest.takeWhile Char.isDigit
      .ok (some (.number (digits.foldl (fun n c => n * 10 + (c.toNat - 48)) 0)),
        r.skip digits.length)
    else .ok (none, r)
  | [] => .ok (none, r)

/-- Reads the text of a command that adds text: the rest of the line. -/
def addedText (r : Reading) : String × Reading :=
  let r := r.trimmed
  let r := match r.rest with
    | '\\' :: '\n' :: _ => r.skip 2
    | '\\' :: _ => r.skip 1
    | _ => r
  let line := r.rest.takeWhile (· ≠ '\n')
  (String.ofList (line.filter (· ≠ '\\')), r.skip (line.length + 1))

/-- Reads a substitution, after its letter. -/
def substitution (extended : Bool) (r : Reading) : Except Fault (Action × Reading) := do
  let fault : Fault := (r.place + r.rest.length, "unterminated `s' command")
  match r.rest with
  | [] => throw fault
  | delimiter :: _ =>
    match (r.skip 1).until? delimiter with
    | none => throw fault
    | some (pattern, r) =>
      match r.until? delimiter with
      | none => throw fault
      | some (text, r) =>
        let (f, rest) := flags {} r.rest
        let r := r.skip (r.rest.length - rest.length)
        match rest with
        | c :: _ =>
          if !(c = ';' || c = '\n' || c = ' ' || c = '\x7d') then
            throw (r.place + 1, "unknown option to `s'")
        | [] => pure ()
        match Expression.read ⟨extended, f.anyCase⟩ pattern with
        | none => throw (r.place, "Invalid preceding regular expression")
        | some p => return (.substitute ⟨p, replacement text, f.from?, f.all, f.prints⟩, r)

/-- Reads what a command does. -/
def action (extended : Bool) (r : Reading) : Except Fault (Action × Reading) := do
  match r.rest with
  | [] => throw (r.place, "missing command")
  | c :: _ =>
    let next := r.skip 1
    match c with
    | 's' => substitution extended next
    | 'p' => return (.print, next)
    | '=' => return (.printNumber, next)
    | 'd' => return (.delete, next)
    | 'q' =>
      let next := next.trimmed
      let digits := next.rest.takeWhile Char.isDigit
      return (.quit (digits.foldl (fun n c => n * 10 + (c.toNat - 48)) 0), next.skip digits.length)
    | 'a' => let (text, r) := addedText next; return (.append text, r)
    | 'i' => let (text, r) := addedText next; return (.insert text, r)
    | 'c' => let (text, r) := addedText next; return (.change text, r)
    | 'h' => return (.hold false, next)
    | 'H' => return (.hold true, next)
    | 'g' => return (.fetch false, next)
    | 'G' => return (.fetch true, next)
    | 'x' => return (.exchange, next)
    | 'y' =>
      let fault : Fault := (r.place + r.rest.length, "unterminated `y' command")
      match next.rest with
      | [] => throw fault
      | delimiter :: _ =>
        match (next.skip 1).until? delimiter with
        | none => throw fault
        | some (source, r) =>
          match r.until? delimiter with
          | none => throw fault
          | some (target, r) =>
            if source.length = target.length then return (.recode source target, r)
            else throw (r.place, "strings for `y' command are different lengths")
    | c => throw (next.place, "unknown command: `" ++ String.singleton c ++ "'")

/-- Reads the commands of a script or, inside braces, of a block of it. -/
def steps (extended inside : Bool) (fuel : Nat) (r : Reading) :
    Except Fault (List Step × Reading) := do
  match fuel with
  | 0 => return ([], r)
  | fuel + 1 =>
    let r := r.nextCommand
    match r.rest with
    | [] => if inside then throw (0, "unmatched `\x7b'") else return ([], r)
    | '#' :: _ => steps extended inside fuel (r.skip (r.rest.takeWhile (· ≠ '\n')).length)
    | '\x7d' :: _ =>
      if inside then return ([], r.skip 1) else throw (r.place + 1, "unexpected `\x7d'")
    | _ =>
      let (first, r) ← address extended r
      let (final, r) ← match r.rest with
        | ',' :: _ =>
          if first.isNone then throw (r.place + 1, "unexpected `,'")
          let (final, r) ← address extended (r.skip 1).trimmed
          if final.isNone then throw (r.place + 1, "unexpected `,'")
          pure (final, r)
        | _ => pure (none, r)
      let r := r.trimmed
      let (negated, r) := match r.rest with
        | '!' :: _ => (true, (r.skip 1).trimmed)
        | _ => (false, r)
      if r.rest.head? = some '\x7b' then
        let (inner, r) ← steps extended true fuel (r.skip 1)
        let (more, r) ← steps extended inside fuel r
        return (⟨first, final, negated, .block inner.length⟩ :: inner ++ more, r)
      let (what, r) ← action extended r
      let r := r.trimmed
      let endsLine := match what with
        | .append _ | .insert _ | .change _ => true
        | _ => false
      match r.rest with
      | c :: _ =>
        if !endsLine ∧ !(c = ';' || c = '\n' || c = '#' || c = '\x7d') then
          throw (r.place + 1, "extra characters after command")
      | [] => pure ()
      let (more, r) ← steps extended inside fuel r
      return (⟨first, final, negated, what⟩ :: more, r)

/-- Reads a script. -/
def read (extended : Bool) (text : String) : Except Fault (List Step) := do
  let (found, _) ← steps extended false (2 * text.length + 2) ⟨text.toList, 0⟩
  return found

end Script

-- ---------------------------------------------------------------------------
-- Running
-- ---------------------------------------------------------------------------

/-- The text that takes the place of a match. -/
def replaced (text : Array Char) (m : Pattern.Match) (parts : List Replacement) : List Char :=
  parts.flatMap fun part => match part with
    | .text c => [c]
    | .group 0 => (m.whole text).toList
    | .group index => ((m.group? text index).getD "").toList

/--
The text of a line after a substitution from a place on, and whether anything
was replaced. An empty match right after another match is passed over.
-/
def substituteFrom (s : Substitution) (text : Array Char) (fuel count place : Nat)
    (previous : Option Nat) : List Char × Bool :=
  match fuel with
  | 0 => ((text.extract place text.size).toList, false)
  | fuel + 1 =>
    let rest (start : Nat) : List Char := (text.extract start text.size).toList
    match Pattern.findFrom s.pattern text (text.size - place) place with
    | none => (rest place, false)
    | some m =>
      let before := (text.extract place m.start).toList
      if m.start = m.stop ∧ previous = some m.start then
        match text[place]? with
        | none => ([], false)
        | some c =>
          let (after, changed) := substituteFrom s text fuel count (place + 1) none
          (c :: after, changed)
      else if count < s.from? then
        let (after, changed) := substituteFrom s text fuel (count + 1) m.stop (some m.stop)
        (before ++ (m.whole text).toList ++ after, changed)
      else
        let here := before ++ replaced text m s.replacement
        if s.all then
          let (after, _) := substituteFrom s text fuel (count + 1) m.stop (some m.stop)
          (here ++ after, true)
        else (here ++ rest m.stop, true)

/-- A line after a substitution, and whether anything was replaced. -/
def substitute (s : Substitution) (line : List Char) : List Char × Bool :=
  substituteFrom s line.toArray (2 * line.length + 2) 1 0 none

/-- The state of an edit. -/
structure Editing where
  /-- The line at hand. -/
  line : List Char := []
  number : Nat := 0
  isLast : Bool := false
  held : List Char := []
  /-- For each command with two addresses, whether its lines have begun, and where they end. -/
  open? : List (Nat × Option Nat) := []
  /-- Lines written so far, latest first. -/
  written : List (List Char) := []
  /-- Lines to be written after the line at hand. -/
  queued : List (List Char) := []
  deriving Inhabited

/-- An address fits the line at hand. -/
def Editing.fits (e : Editing) : Address → Bool
  | .number n => e.number = n
  | .last => e.isLast
  | .fits p => (Pattern.find? p e.line.toArray).isSome

/-- Whether a command is for the line at hand; one with two addresses remembers where it is. -/
def Editing.selects (e : Editing) (index : Nat) (s : Step) : Bool × Editing :=
  match s.first, s.final with
  | none, _ => (true, e)
  | some a, none => (e.fits a, e)
  | some a, some b =>
    let closed := { e with open? := e.open?.filter fun o => o.1 ≠ index }
    match e.open?.find? fun o => o.1 = index with
    | some (_, some n) => (true, if n ≤ e.number then closed else e)
    | some (_, none) => (true, if e.fits b then closed else e)
    | none =>
      if !e.fits a then (false, e)
      else
        match b with
        | .number n =>
          (true, if n ≤ e.number then e else { e with open? := (index, some n) :: e.open? })
        | _ => (true, { e with open? := (index, none) :: e.open? })

/-- How a round of commands goes on. -/
inductive Course where
  | onward
  /-- The line is not written at the end of the round. -/
  | dropped
  | ended (code : Nat)
  deriving DecidableEq, Inhabited

/-- Writes a line. -/
def Editing.write (e : Editing) (line : List Char) : Editing :=
  { e with written := line :: e.written }

/-- Does what a command says. -/
def Editing.perform (e : Editing) (index : Nat) (s : Step) : Editing × Course :=
  match s.action with
  | .substitute sub =>
    let (line, changed) := substitute sub e.line
    let e := { e with line := line }
    (if changed && sub.prints then e.write line else e, .onward)
  | .print => (e.write e.line, .onward)
  | .printNumber => (e.write (toString e.number).toList, .onward)
  | .delete => (e, .dropped)
  | .quit code => (e, .ended code)
  | .append text => ({ e with queued := e.queued ++ [text.toList] }, .onward)
  | .insert text => (e.write text.toList, .onward)
  | .change text =>
    let isOpen := e.open?.any fun o => o.1 = index
    (if isOpen then e else e.write text.toList, .dropped)
  | .recode source target =>
    let change (c : Char) : Char := ((source.zip target).find? fun p => p.1 = c).elim c Prod.snd
    ({ e with line := e.line.map change }, .onward)
  | .hold append =>
    ({ e with held := if append then e.held ++ '\n' :: e.line else e.line }, .onward)
  | .fetch append =>
    ({ e with line := if append then e.line ++ '\n' :: e.held else e.held }, .onward)
  | .exchange => ({ e with line := e.held, held := e.line }, .onward)
  | .block _ | .skip => (e, .onward)

/-- Runs the commands of a script on the line at hand. -/
def Editing.round (e : Editing) (fuel : Nat) (script : List (Step × Nat)) : Editing × Course :=
  match fuel, script with
  | 0, _ | _, [] => (e, .onward)
  | fuel + 1, (s, index) :: rest =>
    let (selected, e) := e.selects index s
    if selected = s.negated then
      match s.action with
      | .block length => e.round fuel (rest.drop length)
      | _ => e.round fuel rest
    else
      match e.perform index s with
      | (e, .onward) => e.round fuel rest
      | ended => ended

/-- Runs a script on lines; the second part is the exit code that it asked for. -/
def Editing.run (quiet : Bool) (script : List (Step × Nat)) (e : Editing) :
    List (List Char) → Editing × Option Nat
  | [] => (e, none)
  | line :: rest =>
    let e := { e with line := line, number := e.number + 1, isLast := rest.isEmpty, queued := [] }
    let (e, course) := e.round (script.length + 1) script
    let e := if quiet || course = .dropped then e else e.write e.line
    let e := e.queued.foldl Editing.write e
    match course with
    | .ended code => (e, some code)
    | _ => e.run quiet script rest

/--
A text after a script was run on it, and the exit code that the script asked
for. The last line keeps a missing line break.
-/
def edited (quiet : Bool) (script : List Step) (text : List Char) : String × Option Nat :=
  let (e, code) := Editing.run quiet script.zipIdx {} (Tool.linesOf text)
  let joint := Tool.unlines e.written.reverse
  let lacksBreak := !text.isEmpty && text.getLast? ≠ some '\n' && code.isNone
  (if lacksBreak && !joint.isEmpty then (joint.dropEnd 1).toString else joint, code)

-- ---------------------------------------------------------------------------
-- The program
-- ---------------------------------------------------------------------------

/-- Edits files in their places. -/
def inPlace (p : Process) (quiet : Bool) (suffix : String) (script : List Step) :
    List String → M Nat
  | [] => return 0
  | name :: rest => do
    let path := p.path name
    match (← get).files.find? path with
    | some (.file content _) =>
      let (result, code) := edited quiet script content.toList
      if !suffix.isEmpty then
        alterFiles (·.write (p.path (name ++ suffix)) content)
      alterFiles (·.write path result)
      match code with
      | some code => return code
      | none => inPlace p quiet suffix script rest
    | some .directory =>
      Tool.report p "sed" ("couldn't edit " ++ name ++ ": not a regular file")
      let code ← inPlace p quiet suffix script rest
      return max code 4
    | none =>
      Tool.report p "sed" ("can't read " ++ name ++ ": No such file or directory")
      let code ← inPlace p quiet suffix script rest
      return max code 2

/-- Runs a script on every line of its inputs. -/
def sed : Tool := fun p args => do
  let isInPlace (a : String) : Bool := a.startsWith "-i" || a.startsWith "--in-place"
  let suffix := ((args.find? isInPlace).map fun a => (a.drop 2).toString).getD ""
  let o := Options.read "efl" (args.filter fun a => !isInPlace a)
  let quiet := o.has "n" || o.has "quiet" || o.has "silent"
  let extended := o.has "E" || o.has "r" || o.has "regexp-extended"
  let given := o.given.filter fun g => g.1 = "e" || g.1 = "expression"
  let (text, names) :=
    if given.isEmpty then (o.operands.headD "", o.operands.drop 1)
    else (String.intercalate "\n" (given.map Prod.snd), o.operands)
  if given.isEmpty ∧ o.operands.isEmpty then
    complain p "Usage: sed [OPTION]... \x7bscript-only-if-no-other-script\x7d [input-file]...\n"
    return .exited 1
  match Script.read extended text with
  | .error (place, reason) =>
    Tool.report p "sed" ("-e expression #1, char " ++ toString place ++ ": " ++ reason)
    return .exited 1
  | .ok script =>
    if args.any isInPlace || o.has "i" then
      return .exited (← inPlace p quiet suffix script names)
    else
      let (texts, allWell) ← Tool.inputs p "sed"
        (fun name fault =>
          if fault = .isDirectory then "couldn't edit " ++ name ++ ": not a regular file"
          else "can't read " ++ name ++ ": " ++ fault.text)
        (Tool.inputNames names)
      let (result, code) := edited quiet script (texts.flatMap Prod.snd)
      say p result
      return .exited (code.getD (if allWell then 0 else 2))

end Errand.Machine.Edit
