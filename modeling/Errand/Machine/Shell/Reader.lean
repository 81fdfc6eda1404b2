import Errand.Machine.Shell.Script

/-!
# Errand — reading shell scripts

A reader of shell scripts by recursive descent. It goes line by line: what
stands before a line that cannot be read is still run, and the fault comes
where that line begins.

* `Script.read`    — the command that a script amounts to.
* `Reader.word`    — a word at the front of a text.
* `Reader.list`    — commands up to the end of what they are part of.
-/

namespace Errand.Machine.Shell

namespace Reader

/-- What is left to read, and the number of its first line. -/
structure Cursor where
  rest : List Char
  line : Nat := 1
  deriving Inhabited

/-- Why a script cannot be read. -/
structure Fault where
  line : Nat
  reason : String
  deriving Inhabited

-- ---------------------------------------------------------------------------
-- Characters
-- ---------------------------------------------------------------------------

/-- The cursor after some of its characters. -/
def Cursor.skip (c : Cursor) (count : Nat) : Cursor :=
  ⟨c.rest.drop count, c.line + (c.rest.take count).count '\n'⟩

/-- The next character, and the cursor after it. -/
def Cursor.step (c : Cursor) : Option (Char × Cursor) :=
  match c.rest with
  | [] => none
  | x :: rest => some (x, ⟨rest, if x = '\n' then c.line + 1 else c.line⟩)

/-- A fault at a cursor. -/
def Cursor.fail {α : Type} (c : Cursor) (reason : String) : Except Fault α :=
  .error ⟨c.line, "Syntax error: " ++ reason⟩

/-- A space or a tab. -/
def isBlank (c : Char) : Bool := c = ' ' || c = '\t'

/-- A character that ends a word. -/
def isMeta (c : Char) : Bool :=
  isBlank c || c = '\n' || c = ';' || c = '&' || c = '|' || c = '<' || c = '>' ||
    c = '(' || c = ')'

/-- A character that a name may begin with. -/
def startsName (c : Char) : Bool := c.isAlpha || c = '_'

/-- A character that a name may go on with. -/
def continuesName (c : Char) : Bool := c.isAlphanum || c = '_'

/-- A text is a name. -/
def isName (cs : List Char) : Bool :=
  match cs with
  | c :: rest => startsName c && rest.all continuesName
  | [] => false

/-- A parameter with a name of one sign. -/
def isSpecial (c : Char) : Bool :=
  c = '@' || c = '*' || c = '#' || c = '?' || c = '-' || c = '$' || c = '!' || c.isDigit

/-- The text after spaces, tabs, joined lines and a comment. -/
def skipBlanks (fuel : Nat) (c : Cursor) : Cursor :=
  match fuel, c.rest with
  | 0, _ => c
  | fuel + 1, '\\' :: '\n' :: _ => skipBlanks fuel (c.skip 2)
  | fuel + 1, x :: rest =>
    if isBlank x then skipBlanks fuel (c.skip 1)
    else if x = '#' then ⟨rest.dropWhile (· ≠ '\n'), c.line⟩
    else c
  | _, [] => c

/-- The text after spaces, tabs, joined lines and a comment. -/
def Cursor.trimmed (c : Cursor) : Cursor := skipBlanks (c.rest.length + 1) c

/-- The text after line breaks too. -/
def skipLines (fuel : Nat) (c : Cursor) : Cursor :=
  match fuel with
  | 0 => c
  | fuel + 1 =>
    let c := c.trimmed
    match c.rest with
    | '\n' :: _ => skipLines fuel (c.skip 1)
    | _ => c

/-- The text after blanks and line breaks. -/
def Cursor.nextLine (c : Cursor) : Cursor := skipLines (c.rest.length + 1) c

/-- The words that have a meaning at the start of a command. -/
def reservedWords : List String :=
  ["!", "\x7b", "\x7d", "if", "then", "else", "elif", "fi", "while", "until", "do", "done",
   "for", "case", "esac"]

/-- The reserved word at the front of a text. -/
def reserved? (c : Cursor) : Option String :=
  let found := String.ofList (c.rest.takeWhile fun x => !isMeta x)
  if reservedWords.contains found then some found else none

/-- What stands at the front of a text, as a fault names it. -/
def unexpected (c : Cursor) : String :=
  match c.rest with
  | [] => "end of file unexpected"
  | '\n' :: _ => "newline unexpected"
  | ';' :: ';' :: _ => "\";;\" unexpected"
  | '&' :: '&' :: _ => "\"&&\" unexpected"
  | '|' :: '|' :: _ => "\"||\" unexpected"
  | x :: _ =>
    if isMeta x then
      if x = '<' ∨ x = '>' then "redirection unexpected"
      else "\"" ++ String.singleton x ++ "\" unexpected"
    else
      match reserved? c with
      | some found => "\"" ++ found ++ "\" unexpected"
      | none => "word unexpected"

/-- The cursor after a reserved word that has to be there. -/
def expectWord (found : String) (c : Cursor) : Except Fault Cursor :=
  let c := c.nextLine
  if reserved? c = some found then .ok (c.skip found.length)
  else c.fail (unexpected c ++ " (expecting \"" ++ found ++ "\")")

/-- The cursor after a sign that has to be there. -/
def expectSign (sign : Char) (c : Cursor) : Except Fault Cursor :=
  match c.rest with
  | x :: _ =>
    if x = sign then .ok (c.skip 1)
    else c.fail (unexpected c ++ " (expecting \"" ++ String.singleton sign ++ "\")")
  | [] => c.fail ("end of file unexpected (expecting \"" ++ String.singleton sign ++ "\")")

-- ---------------------------------------------------------------------------
-- Texts that follow a command
-- ---------------------------------------------------------------------------

/-- Splits a text after its first line break. -/
def splitLine (cs : List Char) : List Char × List Char :=
  let (line, rest) := cs.span (· ≠ '\n')
  (line, rest.drop 1)

/-- The lines up to one that holds only the delimiter, and what follows that. -/
def bodyLines (fuel : Nat) (dropTabs : Bool) (delimiter : List Char) (read : List (List Char))
    (cs : List Char) : List Char × List Char :=
  match fuel with
  | 0 => (read.reverse.flatten, cs)
  | fuel + 1 =>
    if cs.isEmpty then (read.reverse.flatten, [])
    else
      let (line, rest) := splitLine cs
      let line := if dropTabs then line.dropWhile (· = '\t') else line
      if line = delimiter then (read.reverse.flatten, rest)
      else bodyLines fuel dropTabs delimiter ((line ++ ['\n']) :: read) rest

/-- Takes the body of a text out of the lines after the current one. -/
def takeBody (dropTabs : Bool) (delimiter : List Char) (c : Cursor) : List Char × Cursor :=
  let (line, after) := splitLine c.rest
  let (body, after) := bodyLines (after.length + 1) dropTabs delimiter [] after
  (body, { c with rest := line ++ '\n' :: after })

/-- The text of a delimiter without its quotes, and whether it had any. -/
def delimiterText : List Part → List Char × Bool
  | [] => ([], false)
  | .bare cs :: rest =>
    let (more, isQuoted) := delimiterText rest
    (cs ++ more, isQuoted)
  | .literal cs :: rest => (cs ++ (delimiterText rest).1, true)
  | .quoted [.literal cs] :: rest => (cs ++ (delimiterText rest).1, true)
  | _ :: rest => ((delimiterText rest).1, true)

-- ---------------------------------------------------------------------------
-- Words
-- ---------------------------------------------------------------------------

/-- The raw text between back quotes, whose opening one has been read. -/
def backQuoted (fuel : Nat) (inQuotes : Bool) (read : List Char) (c : Cursor) :
    Except Fault (List Char × Cursor) :=
  match fuel with
  | 0 => c.fail "EOF in backquote substitution"
  | fuel + 1 =>
    match c.rest with
    | [] => c.fail "EOF in backquote substitution"
    | '\x60' :: _ => .ok (read.reverse, c.skip 1)
    | '\\' :: x :: _ =>
      if x = '\\' ∨ x = '\x60' ∨ x = '$' ∨ (x = '"' ∧ inQuotes) then
        backQuoted fuel inQuotes (x :: read) (c.skip 2)
      else backQuoted fuel inQuotes (x :: '\\' :: read) (c.skip 2)
    | x :: _ => backQuoted fuel inQuotes (x :: read) (c.skip 1)

/-- The operation on a variable that begins here, and how many signs name it. -/
def operation? : List Char → Option ((Operation × Bool) × Nat)
  | ':' :: '-' :: _ => some ((.orElse, true), 2)
  | ':' :: '=' :: _ => some ((.orAssign, true), 2)
  | ':' :: '?' :: _ => some ((.orFail, true), 2)
  | ':' :: '+' :: _ => some ((.ifSet, true), 2)
  | '-' :: _ => some ((.orElse, false), 1)
  | '=' :: _ => some ((.orAssign, false), 1)
  | '?' :: _ => some ((.orFail, false), 1)
  | '+' :: _ => some ((.ifSet, false), 1)
  | '#' :: '#' :: _ => some ((.cutFront true, false), 2)
  | '#' :: _ => some ((.cutFront false, false), 1)
  | '%' :: '%' :: _ => some ((.cutBack true, false), 2)
  | '%' :: _ => some ((.cutBack false, false), 1)
  | _ => none

/-- The name of a variable between braces. -/
def variableName (cs : List Char) : List Char :=
  match cs with
  | c :: rest =>
    if startsName c then c :: rest.takeWhile continuesName
    else if c.isDigit then c :: rest.takeWhile Char.isDigit
    else if isSpecial c then [c]
    else []
  | [] => []

/-- The direction of a redirection that begins here, and how many signs name it. -/
def direction? : List Char → Option (Direction × Nat)
  | '<' :: '<' :: '-' :: _ => some (.text, 3)
  | '<' :: '<' :: _ => some (.text, 2)
  | '<' :: '&' :: _ => some (.copy, 2)
  | '<' :: '>' :: _ => some (.append, 2)
  | '<' :: _ => some (.input, 1)
  | '>' :: '>' :: _ => some (.append, 2)
  | '>' :: '&' :: _ => some (.copy, 2)
  | '>' :: '|' :: _ => some (.output, 2)
  | '>' :: _ => some (.output, 1)
  | _ => none

/-- Where a word may be cut off. -/
inductive Ending where
  /-- At a sign that ends a word. -/
  | word
  /-- At a closing brace. -/
  | brace
  deriving DecidableEq

/-- A word is over at a character. -/
def Ending.holds (e : Ending) (c : Char) : Bool :=
  match e with
  | .word => isMeta c
  | .brace => c = '\x7d'

/-- Adds a character to the parts read so far, latest first. -/
def addBare (x : Char) : List Part → List Part
  | .bare cs :: rest => .bare (x :: cs) :: rest
  | parts => .bare [x] :: parts

/-- Adds a character that stands for itself. -/
def addLiteral (x : Char) : List Part → List Part
  | .literal cs :: rest => .literal (x :: cs) :: rest
  | parts => .literal [x] :: parts

/-- Parts in order, with their texts turned round. -/
def turned (parts : List Part) : List Part :=
  parts.reverse.map fun part =>
    match part with
    | .bare cs => .bare cs.reverse
    | .literal cs => .literal cs.reverse
    | other => other

/-- A first part that assigns: the name before its equals sign, and the rest of the word. -/
def assignment? : List Part → Option (String × List Part)
  | .bare cs :: rest =>
    let (name, value) := cs.span (· ≠ '=')
    match value with
    | _ :: value =>
      if isName name then
        some (String.ofList name, if value.isEmpty then rest else .bare value :: rest)
      else none
    | [] => none
  | _ => none

/-- A word without quotes and expansions. -/
def plainWord? : List Part → Option (List Char)
  | [.bare cs] => some cs
  | _ => none

mutual
/-- A word at the front of a text; nothing if there is none. -/
def word (fuel : Nat) (ending : Ending) (read : List Part) (c : Cursor) :
    Except Fault (List Part × Cursor) :=
  match fuel with
  | 0 => c.fail "word unexpected"
  | fuel + 1 =>
    match c.step with
    | none => .ok (turned read, c)
    | some (x, after) =>
      if ending.holds x then .ok (turned read, c)
      else if x = '\x27' then do
        let text := after.rest.takeWhile (· ≠ '\x27')
        let after := after.skip text.length
        if after.rest.isEmpty then after.fail "Unterminated quoted string"
        else word fuel ending (.literal text.reverse :: read) (after.skip 1)
      else if x = '"' then do
        let (parts, after) ← quotedParts fuel false [] after
        word fuel ending (.quoted parts :: read) after
      else if x = '\\' then
        match after.step with
        | none => word fuel ending (addBare '\\' read) after
        | some ('\n', after) => word fuel ending read after
        | some (y, after) => word fuel ending (.literal [y] :: read) after
      else if x = '$' then do
        let (part, after) ← dollar fuel after
        word fuel ending (part :: read) after
      else if x = '\x60' then do
        let (part, after) ← substitution fuel false after
        word fuel ending (part :: read) after
      else word fuel ending (addBare x read) after

/-- Parts between double quotes, or all of a text that follows a command. -/
def quotedParts (fuel : Nat) (inBody : Bool) (read : List Part) (c : Cursor) :
    Except Fault (List Part × Cursor) :=
  match fuel with
  | 0 => c.fail "Unterminated quoted string"
  | fuel + 1 =>
    match c.step with
    | none => if inBody then .ok (turned read, c) else c.fail "Unterminated quoted string"
    | some (x, after) =>
      if x = '"' ∧ !inBody then .ok (turned read, after)
      else if x = '\\' then
        match after.step with
        | none => quotedParts fuel inBody (addLiteral '\\' read) after
        | some (y, further) =>
          if y = '\n' then quotedParts fuel inBody read further
          else if y = '$' ∨ y = '\x60' ∨ y = '\\' ∨ (y = '"' ∧ !inBody) then
            quotedParts fuel inBody (addLiteral y read) further
          else quotedParts fuel inBody (addLiteral '\\' read) after
      else if x = '$' then do
        let (part, after) ← dollar fuel after
        match part with
        | .bare cs => quotedParts fuel inBody (.literal cs :: read) after
        | part => quotedParts fuel inBody (part :: read) after
      else if x = '\x60' then do
        let (part, after) ← substitution fuel true after
        quotedParts fuel inBody (part :: read) after
      else quotedParts fuel inBody (addLiteral x read) after

/-- What a dollar sign that has been read begins. -/
def dollar (fuel : Nat) (c : Cursor) : Except Fault (Part × Cursor) :=
  match fuel with
  | 0 => c.fail "word unexpected"
  | fuel + 1 =>
    match c.rest with
    | '(' :: '(' :: _ => do
      let (parts, c) ← arithmetic fuel 0 [] (c.skip 2)
      .ok (.arithmetic parts, c)
    | '(' :: _ => do
      let (body, c) ← list fuel (c.skip 1)
      let c ← expectSign ')' c.nextLine
      .ok (.output body.markLast, c)
    | '\x7b' :: _ => braced fuel (c.skip 1)
    | x :: rest =>
      if startsName x then
        let name := x :: rest.takeWhile continuesName
        .ok (.variable (String.ofList name) none [], c.skip name.length)
      else if isSpecial x then .ok (.variable (String.singleton x) none [], c.skip 1)
      else .ok (.bare ['$'], c)
    | [] => .ok (.bare ['$'], c)

/-- A variable between braces. -/
def braced (fuel : Nat) (c : Cursor) : Except Fault (Part × Cursor) :=
  match fuel with
  | 0 => c.fail "Missing '\x7d'"
  | fuel + 1 =>
    let lengthName := match c.rest with
      | '#' :: rest => variableName rest
      | _ => []
    if !lengthName.isEmpty ∧ (c.rest.drop (1 + lengthName.length)).head? = some '\x7d' then
      .ok (.length (String.ofList lengthName), c.skip (lengthName.length + 2))
    else
      let name := variableName c.rest
      let c := c.skip name.length
      if name.isEmpty then
        if c.rest.isEmpty then c.fail "Missing '\x7d'" else .error ⟨c.line, "Bad substitution"⟩
      else
        match c.rest with
        | '\x7d' :: _ => .ok (.variable (String.ofList name) none [], c.skip 1)
        | rest =>
          match operation? rest with
          | none => .error ⟨c.line, "Bad substitution"⟩
          | some (operation, size) => do
            let (parts, c) ← word fuel .brace [] (c.skip size)
            match c.rest with
            | '\x7d' :: _ =>
              .ok (.variable (String.ofList name) (some operation) parts, c.skip 1)
            | _ => c.fail "Missing '\x7d'"

/-- An arithmetic expression, with the number of its open parentheses. -/
def arithmetic (fuel depth : Nat) (read : List Part) (c : Cursor) :
    Except Fault (List Part × Cursor) :=
  match fuel with
  | 0 => c.fail "Missing '))'"
  | fuel + 1 =>
    match c.step with
    | none => c.fail "Missing '))'"
    | some (x, after) =>
      if x = '(' then arithmetic fuel (depth + 1) (addLiteral x read) after
      else if x = ')' then
        if 0 < depth then arithmetic fuel (depth - 1) (addLiteral x read) after
        else
          match after.rest with
          | ')' :: _ => .ok (turned read, after.skip 1)
          | _ => after.fail "Missing '))'"
      else if x = '$' then do
        let (part, after) ← dollar fuel after
        arithmetic fuel depth (part :: read) after
      else if x = '\x60' then do
        let (part, after) ← substitution fuel true after
        arithmetic fuel depth (part :: read) after
      else if x = '"' then arithmetic fuel depth read after
      else arithmetic fuel depth (addLiteral x read) after

/-- The output of a script between back quotes, whose opening one has been read. -/
def substitution (fuel : Nat) (inQuotes : Bool) (c : Cursor) : Except Fault (Part × Cursor) :=
  match fuel with
  | 0 => c.fail "EOF in backquote substitution"
  | fuel + 1 => do
    let (text, after) ← backQuoted (c.rest.length + 1) inQuotes [] c
    let (body, inner) ← list fuel ⟨text, c.line⟩
    let inner := inner.nextLine
    if inner.rest.isEmpty then .ok (.output body.markLast, after)
    else inner.fail (unexpected inner)

/-- A redirection of a descriptor, whose direction stands at the front. -/
def redirection (fuel : Nat) (descriptor : Option Nat) (c : Cursor) :
    Except Fault (Redirect × Cursor) :=
  match fuel with
  | 0 => c.fail "redirection unexpected"
  | fuel + 1 =>
    match direction? c.rest with
    | none => c.fail "redirection unexpected"
    | some (direction, size) => do
      let reads := c.rest.head? = some '<'
      let dropTabs := size = 3
      let c := (c.skip size).trimmed
      let (target, c) ← word fuel .word [] c
      if target.isEmpty then c.fail (unexpected c)
      else
        let descriptor := descriptor.getD (if reads then 0 else 1)
        if direction = .text then
          let (delimiter, isQuoted) := delimiterText target
          let (body, c) := takeBody dropTabs delimiter c
          if isQuoted then .ok (.mk descriptor .text [.literal body], c)
          else do
            let (parts, _) ← quotedParts fuel true [] ⟨body, c.line⟩
            .ok (.mk descriptor .text [.quoted parts], c)
        else .ok (.mk descriptor direction target, c)

/-- The redirections that follow a compound command. -/
def redirections (fuel : Nat) (read : List Redirect) (c : Cursor) :
    Except Fault (List Redirect × Cursor) :=
  match fuel with
  | 0 => .ok (read.reverse, c)
  | fuel + 1 =>
    let c := c.trimmed
    let digits := c.rest.takeWhile Char.isDigit
    if (direction? (c.rest.drop digits.length)).isSome then do
      let descriptor := (String.ofList digits).toNat?
      let (r, c) ← redirection fuel descriptor (c.skip digits.length)
      redirections fuel (r :: read) c
    else .ok (read.reverse, c)

/-- A simple command from its parts so far on, each list latest first. -/
def simple (fuel line : Nat) (assignments : List (String × List Part))
    (words : List (List Part)) (redirects : List Redirect) (c : Cursor) :
    Except Fault (Command × Cursor) :=
  match fuel with
  | 0 => c.fail "word unexpected"
  | fuel + 1 =>
    let c := c.trimmed
    let digits := c.rest.takeWhile Char.isDigit
    if (direction? (c.rest.drop digits.length)).isSome then do
      let descriptor := (String.ofList digits).toNat?
      let (r, c) ← redirection fuel descriptor (c.skip digits.length)
      simple fuel line assignments words (r :: redirects) c
    else do
      let before := c
      let (parts, c) ← word fuel .word [] c
      if parts.isEmpty then
        if assignments.isEmpty ∧ words.isEmpty ∧ redirects.isEmpty then
          before.fail (unexpected before)
        else
          .ok (.simple line false assignments.reverse words.reverse redirects.reverse, before)
      else
        match words, assignment? parts with
        | [], some (name, value) =>
          simple fuel line ((name, value) :: assignments) [] redirects c
        | [], none =>
          match plainWord? parts, c.trimmed.rest with
          | some name, '(' :: _ =>
            if assignments.isEmpty ∧ isName name then do
              let c ← expectSign ')' ((c.trimmed.skip 1).trimmed)
              let (body, c) ← compound fuel c.nextLine
              .ok (.define (String.ofList name) body, c)
            else c.trimmed.fail (unexpected c.trimmed)
          | _, _ => simple fuel line assignments [parts] redirects c
        | words, _ => simple fuel line assignments (parts :: words) redirects c

/-- The branches of a choice by pattern. -/
def branches (fuel : Nat) (read : List (List (List Part) × Command)) (c : Cursor) :
    Except Fault (List (List (List Part) × Command) × Cursor) :=
  match fuel with
  | 0 => c.fail "word unexpected"
  | fuel + 1 => do
    let c := c.nextLine
    if reserved? c = some "esac" then .ok (read.reverse, c.skip 4)
    else
      let c := if c.rest.head? = some '(' then (c.skip 1).trimmed else c
      let (patterns, c) ← patterns fuel [] c
      let (body, c) ← list fuel c
      let c := c.nextLine
      match c.rest with
      | ';' :: ';' :: _ => branches fuel ((patterns, body) :: read) (c.skip 2)
      | _ =>
        let c ← expectWord "esac" c
        .ok (((patterns, body) :: read).reverse, c)

/-- The patterns of a branch, up to its closing parenthesis. -/
def patterns (fuel : Nat) (read : List (List Part)) (c : Cursor) :
    Except Fault (List (List Part) × Cursor) :=
  match fuel with
  | 0 => c.fail "word unexpected"
  | fuel + 1 => do
    let (parts, c) ← word fuel .word [] c.trimmed
    let c := c.trimmed
    if parts.isEmpty then
      c.fail (unexpected c ++ if c.rest.isEmpty then " (expecting \")\")" else "")
    else
      match c.rest with
      | '|' :: _ => patterns fuel (parts :: read) (c.skip 1)
      | _ =>
        let c ← expectSign ')' c
        .ok ((parts :: read).reverse, c)

/-- The words of a loop, up to the end of their line. -/
def loopWords (fuel : Nat) (read : List (List Part)) (c : Cursor) :
    Except Fault (List (List Part) × Cursor) :=
  match fuel with
  | 0 => c.fail "word unexpected"
  | fuel + 1 => do
    let (parts, c) ← word fuel .word [] c.trimmed
    if parts.isEmpty then .ok (read.reverse, c) else loopWords fuel (parts :: read) c

/-- The rest of a choice by test, whose first word has been read. -/
def choice (fuel : Nat) (c : Cursor) : Except Fault (Command × Cursor) :=
  match fuel with
  | 0 => c.fail "word unexpected"
  | fuel + 1 => do
    let (test, c) ← block fuel c
    let c ← expectWord "then" c
    let (body, c) ← block fuel c
    let c := c.nextLine
    if reserved? c = some "elif" then
      let (otherwise, c) ← choice fuel (c.skip 4)
      .ok (.choice test body otherwise, c)
    else if reserved? c = some "else" then
      let (otherwise, c) ← block fuel (c.skip 4)
      let c ← expectWord "fi" c
      .ok (.choice test body otherwise, c)
    else
      let c ← expectWord "fi" c
      .ok (.choice test body .nothing, c)

/-- A loop over words, whose first word has been read. -/
def eachLoop (fuel : Nat) (c : Cursor) : Except Fault (Command × Cursor) :=
  match fuel with
  | 0 => c.fail "word unexpected"
  | fuel + 1 => do
    let c := c.trimmed
    let name := c.rest.takeWhile continuesName
    if !isName name then c.fail "Bad for loop variable"
    else
      let c := (c.skip name.length).nextLine
      let found := c.rest.takeWhile fun x => !isMeta x
      let (words, c) ←
        if found = ['i', 'n'] then do
          let (words, c) ← loopWords fuel [] (c.skip 2)
          pure (some words, c)
        else pure (none, c)
      let c := match c.trimmed.rest with
        | ';' :: _ => c.trimmed.skip 1
        | _ => c
      let c ← expectWord "do" c
      let (body, c) ← block fuel c
      let c ← expectWord "done" c
      .ok (.each (String.ofList name) words body, c)

/-- A command that is no pipeline, without its redirections if it is compound. -/
def compound (fuel : Nat) (c : Cursor) : Except Fault (Command × Cursor) :=
  match fuel with
  | 0 => c.fail "word unexpected"
  | fuel + 1 => do
    let c := c.trimmed
    let around (body : Command) (c : Cursor) : Except Fault (Command × Cursor) := do
      let (redirects, c) ← redirections fuel [] c
      .ok (if redirects.isEmpty then body else .redirected body redirects, c)
    match c.rest with
    | '(' :: _ =>
      let (body, c) ← block fuel (c.skip 1)
      let c ← expectSign ')' c.nextLine
      around (.subshell body.markLast) c
    | _ =>
      match reserved? c with
      | some "\x7b" =>
        let (body, c) ← block fuel (c.skip 1)
        let c ← expectWord "\x7d" c
        around (.group body) c
      | some "if" =>
        let (body, c) ← choice fuel (c.skip 2)
        around body c
      | some "for" =>
        let (body, c) ← eachLoop fuel (c.skip 3)
        around body c
      | some "case" =>
        let (subject, c) ← word fuel .word [] (c.skip 4).trimmed
        let c := c.nextLine
        if c.rest.takeWhile (fun x => !isMeta x) = ['i', 'n'] then
          let (found, c) ← branches fuel [] (c.skip 2)
          around (.select subject found) c
        else c.fail (unexpected c ++ " (expecting \"in\")")
      | some found =>
        if found = "while" ∨ found = "until" then
          let (test, c) ← block fuel (c.skip 5)
          let c ← expectWord "do" c
          let (body, c) ← block fuel c
          let c ← expectWord "done" c
          around (.loop (found = "until") test body) c
        else c.fail (unexpected c)
      | none => simple fuel c.line [] [] [] c

/-- The stages of a pipeline, the latest first. -/
def stages (fuel : Nat) (read : List Command) (c : Cursor) :
    Except Fault (List Command × Cursor) :=
  match fuel with
  | 0 => c.fail "word unexpected"
  | fuel + 1 => do
    let (stage, c) ← compound fuel c
    let c := c.trimmed
    match c.rest with
    | '|' :: '|' :: _ => .ok (stage :: read, c)
    | '|' :: _ => stages fuel (stage :: read) (c.skip 1).nextLine
    | _ => .ok (stage :: read, c)

/-- A pipeline, which may be turned into its opposite. -/
def pipeline (fuel : Nat) (c : Cursor) : Except Fault (Command × Cursor) :=
  match fuel with
  | 0 => c.fail "word unexpected"
  | fuel + 1 => do
    let c := c.trimmed
    if reserved? c = some "!" then
      let (body, c) ← pipeline fuel (c.skip 1)
      .ok (.negation body, c)
    else
      let (found, c) ← stages fuel [] c
      match found with
      | [single] => .ok (single, c)
      | found => .ok (.pipeline found.reverse, c)

/-- Pipelines with conditions between them; `first` is what stands before. -/
def conditional (fuel : Nat) (first : Command) (c : Cursor) : Except Fault (Command × Cursor) :=
  match fuel with
  | 0 => c.fail "word unexpected"
  | fuel + 1 => do
    let c := c.trimmed
    match c.rest with
    | '&' :: '&' :: _ =>
      let (second, c) ← pipeline fuel (c.skip 2).nextLine
      conditional fuel (.both first second) c
    | '|' :: '|' :: _ =>
      let (second, c) ← pipeline fuel (c.skip 2).nextLine
      conditional fuel (.either first second) c
    | _ => .ok (first, c)

/-- Commands that cannot be left out. -/
def block (fuel : Nat) (c : Cursor) : Except Fault (Command × Cursor) :=
  match fuel with
  | 0 => c.fail "word unexpected"
  | fuel + 1 => do
    match ← list fuel c with
    | (.nothing, c) => if c.rest.isEmpty then .ok (.nothing, c) else c.fail (unexpected c)
    | found => .ok found

/-- Commands up to a word or sign that ends what they are part of. -/
def list (fuel : Nat) (c : Cursor) : Except Fault (Command × Cursor) :=
  match fuel with
  | 0 => c.fail "word unexpected"
  | fuel + 1 =>
    let c := c.nextLine
    let ends := match c.rest with
      | [] => true
      | ')' :: _ => true
      | ';' :: ';' :: _ => true
      | _ =>
        match reserved? c with
        | some found => ["\x7d", "then", "else", "elif", "fi", "do", "done", "esac"].contains found
        | none => false
    if ends then .ok (.nothing, c)
    else do
      let (first, c) ← pipeline fuel c
      let (first, c) ← conditional fuel first c
      let c := c.trimmed
      match c.rest with
      | ';' :: ';' :: _ => .ok (first, c)
      | ';' :: _ =>
        let (rest, c) ← list fuel (c.skip 1)
        .ok (.sequence first rest, c)
      | '&' :: _ =>
        let (rest, c) ← list fuel (c.skip 1)
        .ok (.sequence (.background first) rest, c)
      | '\n' :: _ =>
        let (rest, c) ← list fuel (c.skip 1)
        .ok (.sequence first rest, c)
      | _ => .ok (first, c)
end

/-- Enough fuel for a text of some length. -/
def readingFuel (c : Cursor) : Nat := 12 * c.rest.length + 60

/-- Commands up to the end of a line of the script, unless one of them goes on beyond it. -/
def line (fuel : Nat) (c : Cursor) : Except Fault (Command × Cursor) :=
  match fuel with
  | 0 => .ok (.nothing, c)
  | fuel + 1 => do
    let (first, c) ← pipeline (readingFuel c) c
    let (first, c) ← conditional (readingFuel c) first c
    let c := c.trimmed
    match c.rest with
    | [] => .ok (first, c)
    | '\n' :: _ => .ok (first, c.skip 1)
    | ';' :: ';' :: _ => c.fail (unexpected c)
    | x :: _ =>
      if x = ';' ∨ x = '&' then
        let first := if x = '&' then Command.background first else first
        let c := (c.skip 1).trimmed
        match c.rest with
        | [] => .ok (first, c)
        | '\n' :: _ => .ok (first, c.skip 1)
        | _ =>
          let (rest, c) ← line fuel c
          .ok (.sequence first rest, c)
      else c.fail (unexpected c)

/-- The commands of a script, line by line. -/
def lines (fuel : Nat) (c : Cursor) : Command :=
  match fuel with
  | 0 => .nothing
  | fuel + 1 =>
    let c := c.nextLine
    if c.rest.isEmpty then .nothing
    else
      match line (c.rest.length + 1) c with
      | .error fault => .malformed fault.line fault.reason
      | .ok (first, c) => .sequence first (lines fuel c)

end Reader

/-- The end of a script that has nothing after it is its last command. -/
def Command.tidy : Command → Command
  | .sequence first .nothing => first
  | .sequence first second =>
    match second.tidy with
    | .nothing => first
    | second => .sequence first second
  | other => other

/-- The command that a script amounts to. -/
def Script.read (text : List Char) : Command := (Reader.lines (text.length + 1) ⟨text, 1⟩).tidy

end Errand.Machine.Shell
