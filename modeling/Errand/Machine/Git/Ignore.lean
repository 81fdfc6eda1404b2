import Errand.Machine.Files

/-!
# Errand — ignored paths

Patterns for paths that a repository does not look at. They stand in files
named `.gitignore`, each for its own directory, and in a file of the
repository; of all patterns that fit a path the last one decides, and a path
in an ignored directory is ignored.

* `Ignore.Rule`      — a pattern and what it is for.
* `Ignore.Rule.read` — a pattern from a line.
* `Ignore.holds`     — whether a path is ignored.
-/

namespace Errand.Machine.Git.Ignore

/-- A pattern for paths. -/
structure Rule where
  pattern : List Char
  /-- Paths that fit are not ignored after all. -/
  negated : Bool := false
  directoriesOnly : Bool := false
  /-- The pattern is for whole paths, not for names at any depth. -/
  anchored : Bool := false
  /-- The directory that the pattern is for. -/
  base : Path := []
  deriving Inhabited, Repr

/-- A line without the spaces at its end. -/
def withoutTrailingSpaces (cs : List Char) : List Char :=
  let rest := cs.reverse.dropWhile (· = ' ')
  if rest.head? = some '\\' ∧ rest.length < cs.length then (' ' :: rest).reverse else rest.reverse

/-- Reads the pattern of a line, if there is one. -/
def Rule.read (base : Path) (line : String) : Option Rule :=
  let cs := withoutTrailingSpaces (line.toList.filter (· ≠ '\r'))
  if cs.isEmpty ∨ cs.head? = some '#' then none
  else
    let (negated, cs) := match cs with
      | '!' :: rest => (true, rest)
      | cs => (false, cs)
    let (directoriesOnly, cs) :=
      if cs.getLast? = some '/' then (true, cs.dropLast) else (false, cs)
    let anchored := cs.contains '/'
    let pattern := if cs.head? = some '/' then cs.drop 1 else cs
    if pattern.isEmpty then none
    else some { pattern, negated, directoriesOnly, anchored, base }

/-- The members of a bracket expression admit a character. -/
def admits (c : Char) : List Char → Bool
  | a :: '-' :: b :: rest => (a ≤ c && c ≤ b) || admits c rest
  | a :: rest => a = c || admits c rest
  | [] => false

/-- A text fits a pattern. A star stops at slashes, two of them do not. -/
def fits (fuel : Nat) (pattern text : List Char) : Bool :=
  match fuel, pattern, text with
  | 0, _, _ => false
  | _, [], text => text.isEmpty
  | fuel + 1, '*' :: '*' :: '/' :: rest, text =>
    fits fuel rest text || (match text.dropWhile (· ≠ '/') with
      | _ :: after => fits fuel ('*' :: '*' :: '/' :: rest) after
      | [] => false)
  | fuel + 1, '*' :: '*' :: rest, text =>
    fits fuel rest text || (match text with
      | _ :: after => fits fuel ('*' :: '*' :: rest) after
      | [] => false)
  | fuel + 1, '*' :: rest, text =>
    fits fuel rest text || (match text with
      | c :: after => c ≠ '/' && fits fuel ('*' :: rest) after
      | [] => false)
  | fuel + 1, '?' :: rest, c :: after => c ≠ '/' && fits fuel rest after
  | fuel + 1, '[' :: rest, c :: after =>
    let (negated, inside) := match rest with
      | '!' :: more | '^' :: more => (true, more)
      | more => (false, more)
    let members := inside.head?.toList ++ (inside.drop 1).takeWhile (· ≠ ']')
    (admits c members != negated) && c ≠ '/' && fits fuel (inside.drop (members.length + 1)) after
  | fuel + 1, '\\' :: p :: rest, c :: after => p = c && fits fuel rest after
  | fuel + 1, p :: rest, c :: after => p = c && fits fuel rest after
  | _, _ :: _, [] => false

/-- A rule fits a path, which may be that of a directory. -/
def Rule.fits (r : Rule) (path : Path) (isDirectory : Bool) : Bool :=
  if r.directoriesOnly && !isDirectory then false
  else if !r.base.isPrefixOf path then false
  else
    let below := path.drop r.base.length
    let text := if r.anchored then String.intercalate "/" below else path.getLastD ""
    !below.isEmpty && Ignore.fits (2 * text.length + 2 * r.pattern.length + 2) r.pattern text.toList

/-- The last rule that fits a path says whether it is ignored. -/
def decided (rules : List Rule) (path : Path) (isDirectory : Bool) : Bool :=
  ((rules.reverse.find? fun r => r.fits path isDirectory).map fun r => !r.negated).getD false

/-- The rules of the lines of a file. -/
def rulesOf (base : Path) (content : String) : List Rule :=
  (content.splitOn "\n").filterMap (Rule.read base)

/-- The rules for the paths below a directory, those of deeper directories last. -/
def rulesFor (files : Files) (dir top : Path) (path : Path) : List Rule :=
  let general := rulesOf [] ((files.content? (dir ++ ["info", "exclude"])).getD "")
  let levels := (List.range path.length).flatMap fun n =>
    let base := path.take n
    rulesOf base ((files.content? (top ++ base ++ [".gitignore"])).getD "")
  general ++ levels

/-- A path below the top of a repository is ignored. -/
def holds (files : Files) (dir top : Path) (path : Path) (isDirectory : Bool) : Bool :=
  (List.range path.length).any fun n =>
    let part := path.take (n + 1)
    decided (rulesFor files dir top part) part (isDirectory || n + 1 < path.length)

end Errand.Machine.Git.Ignore
