import Errand.Text.Blank

/-!
# Errand — switches of patterns

The switches that change how a pattern is read, and what the verbose one skips.

* `Flags`     — the switches that are on.
* `skip`      — the text without blanks and comments in front.
* `switches?` — the switches that a text turns on and off.
-/

namespace Errand.Pattern

/-- The switches that are on. -/
structure Flags where
  /-- `i`: letters match in either case. -/
  anyCase : Bool := false
  /-- `m`: lines have starts and ends. -/
  multiLine : Bool := false
  /-- `s`: a dot matches a line feed. -/
  dotAll : Bool := false
  /-- `U`: repetitions are lazy unless a question mark follows. -/
  lazyFirst : Bool := false
  /-- `x`: blanks and comments stand for nothing. -/
  verbose : Bool := false
  /-- `R`: a carriage return ends a line too. -/
  returns : Bool := false
  /-- Not `u`: sets, boundaries and cases are those of ASCII. -/
  ascii : Bool := false
  deriving DecidableEq, Inhabited

-- ---------------------------------------------------------------------------
-- Blanks and comments
-- ---------------------------------------------------------------------------

/-- The text without blanks and comments in front, read with some fuel. -/
def skipBlanks : Nat → List Char → List Char
  | fuel + 1, c :: rest =>
    if Text.isSpace c then skipBlanks fuel rest
    else if c = '#' then skipBlanks fuel (rest.dropWhile fun d => d ≠ '\n')
    else c :: rest
  | _, cs => cs

/-- The text without blanks and comments in front, where the verbose switch is on. -/
def skip (flags : Flags) (cs : List Char) : List Char :=
  if flags.verbose then skipBlanks cs.length cs else cs

/-- The characters up to a closing brace, without blanks and comments, read with some fuel. -/
def untilBrace (flags : Flags) (fuel : Nat) (cs : List Char) : Option (List Char × List Char) :=
  match fuel, skip flags cs with
  | _, [] | 0, _ => none
  | _, '\x7d' :: rest => some ([], rest)
  | fuel + 1, c :: rest => (untilBrace flags fuel rest).map fun (cs, rest) => (c :: cs, rest)

-- ---------------------------------------------------------------------------
-- Switches
-- ---------------------------------------------------------------------------

/-- The switches after a letter has turned one on or off. -/
def Flags.set? (flags : Flags) (on : Bool) : Char → Option Flags
  | 'i' => some { flags with anyCase := on }
  | 'm' => some { flags with multiLine := on }
  | 's' => some { flags with dotAll := on }
  | 'U' => some { flags with lazyFirst := on }
  | 'x' => some { flags with verbose := on }
  | 'R' => some { flags with returns := on }
  | 'u' => some { flags with ascii := !on }
  | _ => none

/--
The switches after those that stand in front of a colon or a parenthesis: the
ones behind a dash are turned off. No letter and no dash stands there twice,
and no dash stands last.
-/
def switches? (seen : List Char) (flags : Flags) : List Char → Option (Flags × List Char)
  | [] => none
  | c :: rest =>
    if c = ':' ∨ c = ')' then if seen.head? = some '-' then none else some (flags, c :: rest)
    else if seen.contains c then none
    else if c = '-' then switches? (c :: seen) flags rest
    else do
      let flags ← flags.set? (!seen.contains '-') c
      switches? (c :: seen) flags rest

end Errand.Pattern
