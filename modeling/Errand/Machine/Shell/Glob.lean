/-!
# Errand — file name patterns

The patterns of the shell: a star for any text, a question mark for any
character, brackets for one character of a set. A quoted character stands for
itself.

* `Glob.read`     — the pattern that some characters write down.
* `Glob.fits`     — a text fits a pattern.
* `Glob.isActive` — the characters write down more than a plain text.
-/

namespace Errand.Machine.Shell

/-- A character, and whether it was quoted. -/
abbrev Marked := Char × Bool

/-- A piece of a pattern. -/
inductive Glob where
  | exact (c : Char)
  | any
  | many
  /-- One character of some ranges, or of none of them. -/
  | oneOf (negated : Bool) (ranges : List (Char × Char))
  deriving DecidableEq, Inhabited, Repr

namespace Glob

/-- The classes of characters that have a name. -/
def namedClass (name : List Char) : List (Char × Char) :=
  match String.ofList name with
  | "alpha" => [('a', 'z'), ('A', 'Z')]
  | "digit" => [('0', '9')]
  | "alnum" => [('a', 'z'), ('A', 'Z'), ('0', '9')]
  | "upper" => [('A', 'Z')]
  | "lower" => [('a', 'z')]
  | "space" => [(' ', ' '), (Char.ofNat 9, Char.ofNat 13)]
  | "blank" => [(' ', ' '), ('\t', '\t')]
  | "punct" => [('!', '/'), (':', '@'), ('[', '\x60'), ('\x7b', '~')]
  | "xdigit" => [('0', '9'), ('a', 'f'), ('A', 'F')]
  | "cntrl" => [(Char.ofNat 0, Char.ofNat 31), (Char.ofNat 127, Char.ofNat 127)]
  | "print" => [(' ', '~')]
  | "graph" => [('!', '~')]
  | _ => []

/-- The ranges between brackets, and the characters after the closing one. -/
def brackets (fuel : Nat) (atStart : Bool) (read : List (Char × Char)) (cs : List Marked) :
    Option (List (Char × Char) × List Marked) :=
  match fuel, cs with
  | 0, _ | _, [] => none
  | fuel + 1, (c, isQuoted) :: rest =>
    if c = ']' ∧ !isQuoted ∧ !atStart then some (read, rest)
    else
      match c, rest with
      | '[', (':', false) :: rest =>
        let name := rest.takeWhile fun x => x.1 ≠ ':'
        brackets fuel false (namedClass (name.map Prod.fst) ++ read)
          (rest.drop (name.length + 2))
      | low, ('-', false) :: (high, highQuoted) :: more =>
        if high = ']' ∧ !highQuoted then brackets fuel false ((low, low) :: read) rest
        else brackets fuel false ((low, high) :: read) more
      | c, rest => brackets fuel false ((c, c) :: read) rest

/-- The pattern that some characters write down. -/
def readFrom (fuel : Nat) (cs : List Marked) : List Glob :=
  match fuel, cs with
  | 0, _ | _, [] => []
  | fuel + 1, (c, true) :: rest => .exact c :: readFrom fuel rest
  | fuel + 1, (c, false) :: rest =>
    if c = '*' then .many :: readFrom fuel rest
    else if c = '?' then .any :: readFrom fuel rest
    else if c = '[' then
      let (negated, inner) := match rest with
        | ('!', false) :: inner => (true, inner)
        | ('^', false) :: inner => (true, inner)
        | inner => (false, inner)
      match brackets (inner.length + 1) true [] inner with
      | some (ranges, rest) => .oneOf negated ranges :: readFrom fuel rest
      | none => .exact c :: readFrom fuel rest
    else .exact c :: readFrom fuel rest

/-- The pattern that some characters write down. -/
def read (cs : List Marked) : List Glob := readFrom (cs.length + 1) cs

/-- The characters write down more than a plain text. -/
def isActive (cs : List Marked) : Bool :=
  cs.any fun (c, isQuoted) => !isQuoted && (c = '*' || c = '?' || c = '[')

/-- A character fits a piece that stands for one character. -/
def admits (c : Char) : Glob → Bool
  | .exact d => c = d
  | .any => true
  | .many => false
  | .oneOf negated ranges => (ranges.any fun (low, high) => low ≤ c && c ≤ high) != negated

/-- A text fits a pattern. -/
def fits (pattern : List Glob) (text : List Char) : Bool :=
  match pattern, text with
  | [], [] => true
  | [], _ :: _ => false
  | .many :: rest, [] => fits rest []
  | .many :: rest, c :: more => fits rest (c :: more) || fits (.many :: rest) more
  | piece :: rest, c :: more => piece.admits c && fits rest more
  | _ :: _, [] => false
  termination_by pattern.length + text.length

end Glob

end Errand.Machine.Shell
