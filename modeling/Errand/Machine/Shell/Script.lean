/-!
# Errand — shell scripts

The trees of shell scripts: words made of parts that are expanded when a
command is run, redirections, and commands.

* `Part`, `Word`  — what a word is made of.
* `Redirect`      — where a stream of a command goes.
* `Command`       — the commands.
-/

namespace Errand.Machine.Shell

/-- What is done with the value of a variable. -/
inductive Operation where
  /-- A word in place of a missing value. -/
  | orElse
  /-- A word in place of a missing value, which the variable gets too. -/
  | orAssign
  /-- A message instead of a missing value, and the end of the shell. -/
  | orFail
  /-- A word in place of a value that is there. -/
  | ifSet
  | cutFront (longest : Bool)
  | cutBack (longest : Bool)
  deriving DecidableEq, Inhabited, Repr

/-- What a redirection does. -/
inductive Direction where
  | input
  | output
  | append
  /-- The descriptor becomes another one's copy, or is closed. -/
  | copy
  /-- The text that follows in the script is read. -/
  | text
  deriving DecidableEq, Inhabited, Repr

mutual
/-- A part of a word. -/
inductive Part where
  /-- Text without quotes, in which patterns are alive. -/
  | bare (text : List Char)
  /-- Text that stands for itself. -/
  | literal (text : List Char)
  /-- Parts between double quotes. -/
  | quoted (parts : List Part)
  /-- The value of a variable; the operation may also take an empty value for a missing one. -/
  | variable (name : String) (operation : Option (Operation × Bool)) (word : List Part)
  /-- The length of a variable's value. -/
  | length (name : String)
  /-- The output of a script. -/
  | output (script : Command)
  | arithmetic (parts : List Part)

/-- A redirection of a descriptor. -/
inductive Redirect where
  | mk (descriptor : Nat) (direction : Direction) (target : List Part)

/-- A command. -/
inductive Command where
  | nothing
  /-- Assignments, words and redirections; `last` says that the shell ends with it. -/
  | simple (line : Nat) (last : Bool) (assignments : List (String × List Part))
      (words : List (List Part)) (redirects : List Redirect)
  | pipeline (stages : List Command)
  | negation (body : Command)
  | both (first second : Command)
  | either (first second : Command)
  | sequence (first second : Command)
  | background (body : Command)
  | group (body : Command)
  | subshell (body : Command)
  | choice (test body : Command) (otherwise : Command)
  /-- A loop while its test succeeds, or until it does. -/
  | loop (untilTrue : Bool) (test body : Command)
  /-- A loop over words, or over the parameters. -/
  | each (name : String) (words : Option (List (List Part))) (body : Command)
  | select (word : List Part) (branches : List (List (List Part) × Command))
  | define (name : String) (body : Command)
  | redirected (body : Command) (redirects : List Redirect)
  /-- The script cannot be read from here on. -/
  | malformed (line : Nat) (reason : String)
end

/-- A word: its parts in order. -/
abbrev Word := List Part

instance : Inhabited Part := ⟨.bare []⟩

instance : Inhabited Command := ⟨.nothing⟩

/-- Marks the simple command that a shell ends with, if there is one. -/
def Command.markLast : Command → Command
  | .simple line _ assignments words redirects => .simple line true assignments words redirects
  | .sequence first second => .sequence first second.markLast
  | .both first second => .both first second.markLast
  | .either first second => .either first second.markLast
  | .group body => .group body.markLast
  | .choice test body otherwise => .choice test body.markLast otherwise.markLast
  | .redirected body redirects => .redirected body redirects
  | other => other

end Errand.Machine.Shell
