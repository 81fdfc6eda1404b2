import Errand.Pattern.Bracket
import Errand.Pattern.Size
import Errand.Pattern.Tree
import Errand.Text.Classes

/-!
# Errand — reading patterns

The notation of regular expressions: sets, groups with and without names,
switches, counted repetition, and escapes. Look-around, back-references, names
used twice, notation that nests too deep, and expressions whose matcher would
take too much room are refused.

* `Tree.read?`    — the tree of a text.
* `Pattern.read?` — the expression that a text denotes.
-/

namespace Errand.Pattern

-- ---------------------------------------------------------------------------
-- The reader's state
-- ---------------------------------------------------------------------------

/-- What is left to read, the switches, the groups so far, and their names. -/
structure Reading where
  rest : List Char
  flags : Flags := {}
  groups : Nat := 0
  names : List (List Char) := []
  deriving Inhabited

/-- The same state with another rest. -/
def Reading.at (r : Reading) (rest : List Char) : Reading := { r with rest := rest }

-- ---------------------------------------------------------------------------
-- Counts
-- ---------------------------------------------------------------------------

/-- The largest count in a repetition. -/
def maxCount : Nat := Nat.pow 2 32 - 1

/-- Digits up to something else, read with some fuel. -/
def countDigits (flags : Flags) : Nat → List Char → List Char × List Char
  | fuel + 1, c :: rest =>
    if c.isDigit then
      let (digits, rest) := countDigits flags fuel (skip flags rest)
      (c :: digits, rest)
    else ([], c :: rest)
  | _, cs => ([], cs)

/-- A count with white space around it. -/
def count? (flags : Flags) (cs : List Char) : Option (Nat × List Char) :=
  let (digits, rest) := countDigits flags cs.length (Text.trimFront cs)
  let n := digits.foldl (fun n c => n * 10 + (c.toNat - 48)) 0
  if digits.isEmpty ∨ maxCount < n then none else some (n, Text.trimFront rest)

/-- The bounds of a repetition whose opening brace has been read. -/
def bounds? (flags : Flags) (cs : List Char) : Option ((Nat × Option Nat) × List Char) := do
  let (least, rest) ← count? flags (skip flags cs)
  match rest with
  | '\x7d' :: rest => some ((least, some least), rest)
  | ',' :: rest =>
    match skip flags rest with
    | '\x7d' :: rest => some ((least, none), rest)
    | rest =>
      let (most, rest) ← count? flags rest
      match rest with
      | '\x7d' :: rest => if least ≤ most then some ((least, some most), rest) else none
      | _ => none
  | _ => none

-- ---------------------------------------------------------------------------
-- Groups
-- ---------------------------------------------------------------------------

/-- A character that a group's name may start with. -/
def startsGroupName (c : Char) : Bool := c = '_' || Text.isAlphabetic c

/-- A character that a group's name may go on with. -/
def continuesGroupName (c : Char) : Bool :=
  startsGroupName c || Text.isNumeric c || c = '.' || c = '[' || c = ']'

/-- A group's name up to its closing angle. -/
def groupName? (cs : List Char) : Option (List Char × List Char) :=
  match cs.span fun c => c ≠ '>' with
  | (c :: name, _ :: rest) =>
    if startsGroupName c && name.all continuesGroupName then some (c :: name, rest) else none
  | _ => none

/-- What an opening parenthesis begins. -/
inductive Opening where
  | capture (name : Option (List Char)) (rest : List Char)
  | plain (flags : Flags) (rest : List Char)
  | switched (flags : Flags) (rest : List Char)

/-- What the text after an opening parenthesis begins. -/
def Opening.read? (flags : Flags) (cs : List Char) : Option Opening :=
  match skip flags cs with
  | '?' :: 'P' :: '<' :: rest => (groupName? rest).map fun (n, rest) => .capture (some n) rest
  | '?' :: '<' :: '=' :: _ | '?' :: '<' :: '!' :: _ => none
  | '?' :: '<' :: rest => (groupName? rest).map fun (n, rest) => .capture (some n) rest
  | '?' :: ')' :: _ => none
  | '?' :: rest =>
    match switches? [] flags rest with
    | some (flags, ')' :: after) => some (.switched flags after)
    | some (flags, ':' :: after) => some (.plain flags after)
    | _ => none
  | rest => some (.capture none rest)

-- ---------------------------------------------------------------------------
-- Expressions
-- ---------------------------------------------------------------------------

/-- A single character under the switches. -/
def literal (flags : Flags) (c : Char) : Tree := .one (flags.folded (.single c)) 0

/-- The set of a dot; without the switch for all of Unicode it would match what is no text. -/
def dotSet? (flags : Flags) : Option CharSet :=
  let ends := if flags.returns then [(10, 10), (13, 13)] else [(10, 10)]
  if flags.ascii then none
  else some (if flags.dotAll then .all else CharSet.complement ⟨ends⟩)

/-- An expression of one sign that stands outside brackets. -/
def sign? (flags : Flags) (c : Char) : Option Tree :=
  if c = '.' then (dotSet? flags).map fun s => .one s 0
  else if c = '^' then
    some (.place (if flags.multiLine then .lineStart flags.returns else .textStart))
  else if c = '$' then
    some (.place (if flags.multiLine then .lineEnd flags.returns else .textEnd))
  else some (literal flags c)

/-- The expression of an escape. -/
def Escape.tree (flags : Flags) : Escape → Tree
  | .char c => literal flags c
  | .set s => .one s 0
  | .place p => .place p

/-- A repetition put around the last expression read; a question mark behind it turns its greed. -/
def repeatLast (flags : Flags) (read : List Tree) (least : Nat) (most : Option Nat)
    (rest : List Char) : Option (List Tree × List Char) :=
  let (turned, rest) := match rest with
    | '?' :: rest => (true, rest)
    | rest => (false, rest)
  match read with
  | [] | .switch :: _ => none
  | t :: before => some (.many t least most (turned == flags.lazyFirst) :: before, rest)

/-- The bounds of a repetition of one sign. -/
def signBounds? : Char → Option (Nat × Option Nat)
  | '*' => some (0, none)
  | '+' => some (1, none)
  | '?' => some (0, some 1)
  | _ => none

mutual
/-- Alternatives up to a closing parenthesis or the end. -/
def alternatives (fuel : Nat) (read : List Tree) (r : Reading) : Option (Tree × Reading) :=
  match fuel with
  | 0 => none
  | fuel + 1 => do
    let (t, r) ← row fuel [] r
    match r.rest with
    | '|' :: rest => alternatives fuel (t :: read) (r.at rest)
    | _ => some (.ofChoice (t :: read).reverse, r)

/-- Expressions in a row up to a bar, a closing parenthesis or the end. -/
def row (fuel : Nat) (read : List Tree) (r : Reading) : Option (Tree × Reading) :=
  match fuel with
  | 0 => none
  | fuel + 1 =>
    match skip r.flags r.rest with
    | [] => some (.ofRow read.reverse, r.at [])
    | c :: rest =>
      if c = '|' ∨ c = ')' then some (.ofRow read.reverse, r.at (c :: rest))
      else if c = '\x7b' then do
        let ((least, most), rest) ← bounds? r.flags rest
        let (read, rest) ← repeatLast r.flags read least most (skip r.flags rest)
        row fuel read (r.at rest)
      else if c = '(' then do
        match ← Opening.read? r.flags rest with
        | .switched flags rest => row fuel (.switch :: read) { r with rest := rest, flags := flags }
        | .plain inner rest =>
          let (t, after) ← alternatives fuel [] { r with rest := rest, flags := inner }
          match after.rest with
          | ')' :: rest =>
            row fuel (.group none t :: read) { after with rest := rest, flags := r.flags }
          | _ => none
        | .capture name rest =>
          if name.any r.names.contains then none
          else
            let index := r.groups + 1
            let (t, after) ← alternatives fuel []
              { r with rest := rest, groups := index, names := name.toList ++ r.names }
            match after.rest with
            | ')' :: rest =>
              row fuel (.group (some index) t :: read)
                { after with rest := rest, flags := r.flags }
            | _ => none
      else if c = '[' then do
        let ((s, depth), rest) ← bracketed fuel r.flags rest
        row fuel (.one s depth :: read) (r.at rest)
      else if c = '\\' then do
        let (e, rest) ← Escape.read? r.flags rest
        row fuel (e.tree r.flags :: read) (r.at rest)
      else
        match signBounds? c with
        | some (least, most) => do
          let (read, rest) ← repeatLast r.flags read least most rest
          row fuel read (r.at rest)
        | none => do
          let t ← sign? r.flags c
          row fuel (t :: read) (r.at rest)
end

/-- The tree of a text. -/
def Tree.read? (text : String) : Option Tree :=
  let cs := text.toList
  match alternatives (3 * cs.length + 3) [] { rest := cs } with
  | some (t, r) => if r.rest.isEmpty then some t else none
  | none => none

/-- The expression that a text denotes. -/
def read? (text : String) : Option Pattern := do
  let t ← Tree.read? text
  if t.depth ≤ maxDepth ∧ t.fits then some t.pattern else none

end Errand.Pattern
